import Relayer.Evm.Calls
import Relayer.Evm.PriceCalculator

/-!
# The balance gate of a preparation

`prepare_transaction` prices a transaction, compares the relayer's balance with the total
cost of these prices, and signs.  The cost is computed for the fee family of the request and
the gas limit of the priced data; the payload has the family of the prices and the gas limit
of the stored data.
-/

namespace Relayer.EvmBalanceGate

open Relayer.Transaction Relayer.EvmPricing Relayer.Interaction Relayer.Checks
open Relayer.EvmLifecycle Relayer.EvmPriceCalculator Task
open Relayer.EvmReplacement (NetworkTransactionData)

/-- What a unit of gas can cost. -/
def feePrice : Fees → ℕ
  | .legacy gasPrice => gasPrice
  | .eip1559 maxFeePerGas _ => maxFeePerGas

/-- The most that a payload can cost its sender. -/
def payloadCost (payload : Payload) : ℕ :=
  payload.value + payload.gasLimit * feePrice payload.fees

/-- The run stores the transaction as sent. -/
def MovesToSent (calls : List Request) : Prop :=
  ∃ update, .partialUpdate update ∈ calls ∧ update.status = some .sent

/-- In a run whose first call is the `n`-th: the total cost that the balance is compared with
is what the signed payload can cost, and the balance covers it. -/
def Covers (oracle : Program.Oracle Request Answer) (n : ℕ) (calls : List Request) : Prop :=
  ∀ i j priced params address balance signed,
    calls[i]? = some (.getTransactionPriceParams priced) →
    oracle (n + i) (.getTransactionPriceParams priced) = .ok params →
    calls[j]? = some (.getBalance address) →
    oracle (n + j) (.getBalance address) = .ok balance →
    .signTransaction signed ∈ calls →
      params.totalCost = payloadCost (Payload.ofData signed) ∧
        payloadCost (Payload.ofData signed) ≤ balance

/-- An update that names no status returns the data it was given. -/
def Stores (oracle : Program.Oracle Request Answer) : Prop :=
  ∀ n update stored, oracle n (.partialUpdate update) = .ok stored → update.status = none →
    ∀ data ∈ update.networkData, stored.networkData = data

/-! ## The condition -/

/-- The gas limit that is priced: the given one, or the estimate, or the default. -/
def pricedLimit (relayer : RelayerRepoModel) (data : EvmTransactionData)
    (estimate : Except String ℕ) : ℕ :=
  match data.gasLimit with
  | some gasLimit => gasLimit
  | none =>
      if relayer.policy.gasLimitEstimation.getD true then
        match estimate with
        | .ok gas => gas * gasLimitBufferMultiplier % 2 ^ 64 / 100
        | .error _ => getEvmDefaultGasLimitForTx data
      else getEvmDefaultGasLimitForTx data

/-- The gas limit that is signed: a transaction that already has a nonce is signed as it is
stored. -/
def signedLimit (data : EvmTransactionData) (limit : ℕ) : ℕ :=
  if data.nonce.isSome then data.gasLimit.getD defaultGasLimit else limit

/-- The price of the payload: the one asked for, or that of the market, within the cap. -/
def paidPrice (calculator : PriceCalculator) (policy : RelayerEvmPolicy)
    (data : EvmTransactionData) : ℕ :=
  match calculator.fetchPriceParamsBasedOnTxType data policy with
  | .ok fetched => min (fetched.maxFeePerGas.getD (fetched.gasPrice.getD 0)) (gasPriceCap policy)
  | .error _ => 0

/-- The request is of the family that the prices come out as. -/
def KeepsFamily (calculator : PriceCalculator) (policy : RelayerEvmPolicy)
    (data : EvmTransactionData) : Prop :=
  if data.isLegacy then data.isEip1559 = false
  else data.isEip1559 = true ∨ calculator.usesLegacySpeed policy = true

/-- The checked cost counts the gas and the price of the payload, and does not wrap. -/
def GateFits (calculator : PriceCalculator) (relayer : RelayerRepoModel)
    (data : EvmTransactionData) (limit : ℕ) : Prop :=
  let price := paidPrice calculator relayer.policy data
  (price = 0 ∨
    (KeepsFamily calculator relayer.policy data ∧ signedLimit data limit = limit) ∨
    (¬ KeepsFamily calculator relayer.policy data ∧ signedLimit data limit = 0)) ∧
  data.value + signedLimit data limit * price < 2 ^ 256

/-- Values of their machine types. -/
structure Fits (policy : RelayerEvmPolicy) (data : EvmTransactionData) : Prop where
  value : data.value < 2 ^ 256
  gasLimit : ∀ gasLimit ∈ data.gasLimit, gasLimit < 2 ^ 64
  cap : gasPriceCap policy < 2 ^ 128

/-! ## The prices -/

section Prices

variable {calculator : PriceCalculator} {policy : RelayerEvmPolicy} {data : EvmTransactionData}

/-- Fetched prices are of one family, which the request keeps or not. -/
theorem fetchPriceParamsBasedOnTxType_cases {fetched : PriceParams}
    (hok : calculator.fetchPriceParamsBasedOnTxType data policy = .ok fetched) :
    (∃ price, fetched = legacyParams price none ∧
      (KeepsFamily calculator policy data ↔ data.isEip1559 = false)) ∨
    (∃ maxFee maxPriority, fetched = eip1559Params maxFee maxPriority none ∧
      (KeepsFamily calculator policy data ↔ data.isEip1559 = true)) := by
  unfold PriceCalculator.fetchPriceParamsBasedOnTxType at hok
  unfold KeepsFamily
  split at hok
  · rename_i hlegacy
    rw [if_pos hlegacy]
    unfold PriceCalculator.fetchLegacyPriceParams at hok
    split at hok
    · exact Or.inl ⟨_, (Except.ok.inj hok).symm, Iff.rfl⟩
    · cases hok
  · rename_i hlegacy
    rw [if_neg hlegacy]
    split at hok
    · rename_i heip
      unfold PriceCalculator.fetchEip1559PriceParams at hok
      split at hok
      · cases hok
      · split at hok
        · cases hok
        · exact Or.inr ⟨_, _, (Except.ok.inj hok).symm, by simp [heip]⟩
    · rename_i heip
      split at hok
      · unfold PriceCalculator.fetchSpeedPriceParams at hok
        split at hok
        · cases hok
        · split at hok
          · rename_i hspeed
            obtain ⟨prices, -, hprices⟩ := bind_eq_ok.mp hok
            exact Or.inl ⟨_, (Except.ok.inj hprices).symm, by simp [heip, hspeed]⟩
          · rename_i hspeed
            obtain ⟨prices, -, hprices⟩ := bind_eq_ok.mp hok
            exact Or.inr ⟨_, _, (Except.ok.inj hprices).symm, by simp [hspeed]⟩
      · cases hok

/-- The cost counts the price of the payload if the request keeps its family, and nothing
otherwise. -/
theorem getTransactionPriceParams_cost {calculator : PriceCalculator} {policy : RelayerEvmPolicy}
    {data : EvmTransactionData} {params : PriceParams}
    (hhandler : calculator.priceParamsHandler = none)
    (hok : calculator.getTransactionPriceParams data policy = .ok params) :
    (∀ stored : EvmTransactionData,
      feePrice (Payload.ofData (stored.withPriceParams params)).fees =
      paidPrice calculator policy data) ∧
    (KeepsFamily calculator policy data →
      params.totalCost = (paidPrice calculator policy data *
        data.gasLimit.getD defaultGasLimit + data.value) % 2 ^ 256) ∧
    (¬ KeepsFamily calculator policy data → params.totalCost = data.value % 2 ^ 256) := by
  rw [PriceCalculator.getTransactionPriceParams_eq] at hok
  obtain ⟨fetched, hsettled, rfl⟩ := exists_of_map_eq_ok hok
  simp only [PriceCalculator.settledParams, hhandler] at hsettled
  have hfetched : calculator.fetchPriceParamsBasedOnTxType data policy = .ok fetched := by
    rw [← hsettled]
    cases calculator.fetchPriceParamsBasedOnTxType data policy <;> rfl
  have hpaid : paidPrice calculator policy data =
      min (fetched.maxFeePerGas.getD (fetched.gasPrice.getD 0)) (gasPriceCap policy) := by
    simp only [paidPrice, hfetched]
  rw [hpaid]
  rcases fetchPriceParamsBasedOnTxType_cases hfetched with
    ⟨price, rfl, hkeeps⟩ | ⟨maxFee, maxPriority, rfl, hkeeps⟩
  · rw [hkeeps]
    refine ⟨fun stored => rfl, ?_, ?_⟩
    · intro hfamily
      simp [withTotalCost, applyGasPriceCapAndConstraints, legacyParams, capGasPrice,
        PriceParams.calculateTotalCost, hfamily]
    · intro hfamily
      simp [withTotalCost, applyGasPriceCapAndConstraints, legacyParams,
        PriceParams.calculateTotalCost, hfamily]
  · rw [hkeeps]
    refine ⟨fun stored => rfl, ?_, ?_⟩
    · intro hfamily
      simp [withTotalCost, applyGasPriceCapAndConstraints, eip1559Params, capGasPrice,
        PriceParams.calculateTotalCost, hfamily]
    · intro hfamily
      simp [withTotalCost, applyGasPriceCapAndConstraints, eip1559Params,
        PriceParams.calculateTotalCost, hfamily]

end Prices

/-- A cost modulo `2^256` is the cost of the payload exactly when both count the same. -/
theorem wrapped_eq_cost_iff {price limit signed value : ℕ} (keeps : Prop)
    (hprice : price < 2 ^ 128) (hlimit : limit < 2 ^ 64) (hvalue : value < 2 ^ 256)
    {totalCost : ℕ} (hkept : keeps → totalCost = (price * limit + value) % 2 ^ 256)
    (hlost : ¬ keeps → totalCost = value % 2 ^ 256) :
    totalCost = value + signed * price ↔
      (price = 0 ∨ (keeps ∧ signed = limit) ∨ (¬ keeps ∧ signed = 0)) ∧
        value + signed * price < 2 ^ 256 := by
  have hproduct : price * limit < 2 ^ 256 :=
    lt_of_le_of_lt (Nat.mul_le_mul hprice.le hlimit.le) (by norm_num)
  by_cases hkeeps : keeps
  · rw [hkept hkeeps]
    constructor
    · intro heq
      have hfits : value + signed * price < 2 ^ 256 := heq ▸ Nat.mod_lt _ (by positivity)
      have hsame : price * limit = signed * price := by omega
      refine ⟨?_, hfits⟩
      rcases Nat.eq_zero_or_pos price with hzero | hpos
      · exact Or.inl hzero
      · rw [Nat.mul_comm signed] at hsame
        exact Or.inr (Or.inl ⟨hkeeps, (Nat.eq_of_mul_eq_mul_left hpos hsame).symm⟩)
    · rintro ⟨hzero | ⟨-, rfl⟩ | ⟨hno, -⟩, hfits⟩
      · subst hzero
        simpa using hvalue
      · rw [Nat.mul_comm price, Nat.add_comm, Nat.mod_eq_of_lt hfits]
      · exact (hno hkeeps).elim
  · rw [hlost hkeeps, Nat.mod_eq_of_lt hvalue]
    constructor
    · intro heq
      have hnothing : signed * price = 0 := by omega
      rw [hnothing]
      refine ⟨?_, hvalue⟩
      rcases Nat.mul_eq_zero.mp hnothing with hzero | hzero
      · exact Or.inr (Or.inr ⟨hkeeps, hzero⟩)
      · exact Or.inl hzero
    · rintro ⟨hzero | ⟨hyes, -⟩ | ⟨-, hzero⟩, -⟩
      · simp [hzero]
      · exact (hkeeps hyes).elim
      · simp [hzero]

/-! ## The calls of a preparation -/

/-- What a preparation asks for before it prices. -/
def Preliminary : Request → Prop
  | .estimateGas _ => True
  | .getBlockByNumber => True
  | _ => False

/-- What a preparation asks for once the balance suffices: these data are signed, and no
others. -/
def Sealing (signed : EvmTransactionData) : Request → Prop
  | .signTransaction data => data = signed
  | .getTransactionPriceParams _ => False
  | .getBalance _ => False
  | _ => True

/-- The data priced. -/
def limited (relayer : RelayerRepoModel) (data : EvmTransactionData)
    (estimate : Except String ℕ) : EvmTransactionData :=
  { data with gasLimit := some (pricedLimit relayer data estimate) }

section Run

variable {oracle : Program.Oracle Request Answer} {relayer : RelayerRepoModel} {platform : Platform}
  {tx : TransactionRepoModel} {data priced signed : EvmTransactionData} {params : PriceParams}
  {n : ℕ} {request : Request} {calls : List Request}

theorem preliminary_estimateTxGasLimit (relayer : RelayerRepoModel) (data : EvmTransactionData) :
    (estimateTxGasLimit relayer data).run.CallsOnly Preliminary := by
  unfold estimateTxGasLimit
  split
  · apply callsOnly_ask_bind trivial
    intro answer
    cases answer <;> trivial
  · trivial

theorem preliminary_determineGasLimit (relayer : RelayerRepoModel) (data : EvmTransactionData) :
    (determineGasLimit relayer data).run.CallsOnly Preliminary := by
  unfold determineGasLimit
  split
  · apply callsOnly_bind (callsOnly_attempt (preliminary_estimateTxGasLimit relayer data))
    intro answer
    cases answer <;> trivial
  · apply callsOnly_ask_bind trivial
    intro answer
    cases answer with
    | error e => trivial
    | ok blockGasLimit =>
        dsimp only
        split <;> trivial

/-- The data that are priced are those given, with a gas limit. -/
theorem exec_determineGasLimit
    (hok : exec oracle (determineGasLimit relayer data) n = (.ok (.ok priced), calls)) :
    priced = limited relayer data (oracle n (.estimateGas data)) := by
  unfold determineGasLimit at hok
  unfold limited pricedLimit
  cases hlimit : data.gasLimit with
  | none =>
      rw [hlimit] at hok
      simp only [estimateTxGasLimit] at hok
      dsimp only
      split at hok
      · rename_i hestimation
        rw [if_pos hestimation]
        rw [exec_bind, exec_attempt, exec_bind, exec_ask] at hok
        dsimp only at hok
        cases hanswer : oracle n (.estimateGas data) with
        | ok gas =>
            rw [hanswer] at hok
            exact (Except.ok.inj (Except.ok.inj (Prod.mk.inj hok).1)).symm
        | error e =>
            rw [hanswer] at hok
            exact (Except.ok.inj (Except.ok.inj (Prod.mk.inj hok).1)).symm
      · rename_i hestimation
        rw [if_neg hestimation]
        exact (Except.ok.inj (Except.ok.inj (Prod.mk.inj hok).1)).symm
  | some gasLimit =>
      have hsame : { data with gasLimit := some gasLimit } = data := by rw [← hlimit]
      rw [hlimit] at hok
      dsimp only at hok ⊢
      rw [hsame]
      rw [exec_bind, exec_ask] at hok
      dsimp only at hok
      cases hanswer : oracle n .getBlockByNumber with
      | error e =>
          rw [hanswer] at hok
          exact (Except.ok.inj (Except.ok.inj (Prod.mk.inj hok).1)).symm
      | ok blockGasLimit =>
          rw [hanswer] at hok
          dsimp only at hok
          split at hok
          · exact nomatch (Except.ok.inj (Prod.mk.inj hok).1)
          · exact (Except.ok.inj (Except.ok.inj (Prod.mk.inj hok).1)).symm

/-- A balance check that succeeds has seen a balance of at least the cost. -/
theorem exec_balanceCheck (oracle : Program.Oracle EvmReplacement.Call EvmReplacement.Answer)
    (relayer : EvmReplacement.RelayerRepoModel) (totalCost n : ℕ) :
    ∃ outcome, exec oracle (EvmReplacement.ensureSufficientBalance relayer totalCost) n =
        (outcome, [.getBalance relayer.address]) ∧
      ∀ checked, outcome = .ok checked →
        ∃ balance, oracle n (.getBalance relayer.address) = .ok balance ∧
          totalCost ≤ balance := by
  have hask : exec oracle (EvmReplacement.getBalance relayer.address) n =
      (.ok (oracle n (.getBalance relayer.address)), [.getBalance relayer.address]) := rfl
  unfold EvmReplacement.ensureSufficientBalance
  rw [exec_bind, hask]
  dsimp only
  cases oracle n (.getBalance relayer.address) with
  | error e => exact ⟨_, rfl, fun _ hok => nomatch hok⟩
  | ok balance =>
      dsimp only
      split
      · exact ⟨_, rfl, fun _ hok => nomatch hok⟩
      · next hcovered =>
          split
          · exact ⟨_, rfl, fun _ hok => nomatch hok⟩
          · exact ⟨_, rfl, fun _ _ => ⟨balance, rfl, Nat.le_of_not_lt hcovered⟩⟩

theorem exec_ensureSufficientBalance (oracle : Program.Oracle Request Answer)
    (relayer : RelayerRepoModel) (totalCost n : ℕ) :
    ∃ outcome, exec oracle (ensureSufficientBalance relayer totalCost) n =
        (outcome, [.getBalance relayer.address]) ∧
      ∀ checked, outcome = .ok checked →
        ∃ balance, oracle n (.getBalance relayer.address) = .ok balance ∧
          totalCost ≤ balance := by
  obtain ⟨outcome, hcheck, hbalance⟩ := exec_balanceCheck
    (fun k request => toReplacementAnswer request (oracle k (ofReplacementCall request)))
    relayer.toRelayerRepoModel totalCost n
  refine ⟨outcome, ?_, hbalance⟩
  have hembed := Program.run_embed ofReplacementCall toReplacementAnswer oracle
    (EvmReplacement.ensureSufficientBalance relayer.toRelayerRepoModel totalCost).run n
  rw [exec] at hcheck
  rw [hcheck] at hembed
  exact hembed

theorem sealing_signData (data : EvmTransactionData) :
    (signData data).run.CallsOnly (Sealing data) := by
  have hsign : Sealing data (.signTransaction data) := rfl
  apply callsOnly_ask_bind hsign
  intro answer
  apply callsOnly_bind callsOnly_ofExcept
  intro response
  exact callsOnly_bind callsOnly_ofExcept fun _ => trivial

theorem sealing_storeSigned (data signed : EvmTransactionData) (tx : TransactionRepoModel) :
    (storeSigned tx signed).run.CallsOnly (Sealing data) := by
  apply callsOnly_bind (callsOnly_storeUpdate trivial)
  intro updated
  apply callsOnly_ask_bind trivial
  intro answer
  cases answer with
  | error e => trivial
  | ok _ =>
      refine callsOnly_bind (callsOnly_ask_bind trivial fun _ => trivial) fun _ => ?_
      trivial

/-- A transaction with a nonce: its data are signed at these prices. -/
theorem sealing_signPrepared (hdata : tx.networkData = .evm data) (params : PriceParams) :
    (signPrepared tx params).run.CallsOnly (Sealing (data.withPriceParams params)) := by
  apply callsOnly_data_bind
  intro stored hstored
  rw [hdata] at hstored
  cases hstored
  apply callsOnly_bind (sealing_signData _)
  intro signed
  exact sealing_storeSigned _ _ _

theorem exec_signPrepared (oracle : Program.Oracle Request Answer)
    (hdata : tx.networkData = .evm data) (params : PriceParams) (n : ℕ) :
    .signTransaction (data.withPriceParams params) ∈ (exec oracle (signPrepared tx params) n).2 ∧
      ∀ request ∈ (exec oracle (signPrepared tx params) n).2,
        Sealing (data.withPriceParams params) request := by
  constructor
  · unfold signPrepared
    rw [hdata]
    exact List.mem_cons_self
  · exact (sealing_signPrepared hdata params).run oracle n

/-- The data that a preparation signs, up to the nonce: a transaction that has one is signed
as it was stored, any other one as it was priced. -/
def signedData (data priced : EvmTransactionData) (params : PriceParams) : EvmTransactionData :=
  (if data.nonce.isSome then data else priced).withPriceParams params

/-- What assigning a nonce asks for; its update names no status. -/
def Assigning : Request → Prop
  | .getAndIncrement => True
  | .utcNow => True
  | .partialUpdate update => update.status = none
  | _ => False

theorem sealing_of_assigning (hassigning : Assigning request) : Sealing signed request := by
  cases request <;> trivial

theorem assigning_assignNonce (platform : Platform) (tx : TransactionRepoModel)
    (data : EvmTransactionData) (params : PriceParams) :
    (assignNonce platform tx data params).run.CallsOnly Assigning := by
  unfold assignNonce
  split
  · trivial
  · apply callsOnly_ask_bind trivial
    intro answer
    cases answer with
    | error e => trivial
    | ok nonce =>
        apply callsOnly_ask_bind trivial
        intro now
        exact callsOnly_storeUpdate rfl

/-- A transaction that was assigned a nonce holds the data that will be signed. -/
theorem exec_assignNonce {txWithNonce : TransactionRepoModel} (hstores : Stores oracle)
    (hdata : tx.networkData = .evm data) (hnonce : priced.nonce = data.nonce)
    (hok : exec oracle (assignNonce platform tx priced params) n = (.ok txWithNonce, calls)) :
    ∃ stored nonce, txWithNonce.networkData = .evm stored ∧
      stored.withPriceParams params = { signedData data priced params with nonce := nonce } := by
  unfold assignNonce at hok
  unfold signedData
  rw [hnonce] at hok
  cases hold : data.nonce with
  | some nonce =>
      rw [hold] at hok
      obtain rfl := Except.ok.inj (Prod.mk.inj hok).1
      exact ⟨data, data.nonce, hdata, rfl⟩
  | none =>
      rw [hold] at hok
      obtain ⟨answer, asked, rest, -, hrest, -⟩ := exec_bind_ok hok
      cases answer with
      | error e => exact nomatch (Prod.mk.inj hrest).1
      | ok nonce =>
          obtain ⟨now, looked, written, -, hwritten, -⟩ := exec_bind_ok hrest
          obtain ⟨stored, update, last, hupdate, hlast, -⟩ := exec_bind_ok hwritten
          have hanswer := Except.ok.inj (Prod.mk.inj hupdate).1
          have hstored := ok_of_mapError (Prod.mk.inj hlast).1
          have hkept := hstores _ _ txWithNonce (hanswer.trans hstored) rfl _ rfl
          exact ⟨_, some nonce, hkept, rfl⟩

/-- No request of these is an update to sent. -/
theorem not_movesToSent {allowed : Request → Prop} (hcalls : ∀ request ∈ calls, allowed request)
    (hallowed : ∀ update, allowed (.partialUpdate update) → update.status ≠ some .sent) :
    ¬ MovesToSent calls := by
  rintro ⟨update, hmem, hsent⟩
  exact hallowed update (hcalls _ hmem) hsent

theorem MovesToSent.append {first rest : List Request} (hsent : MovesToSent (first ++ rest))
    (hfirst : ¬ MovesToSent first) : MovesToSent rest := by
  obtain ⟨update, hmem, hstatus⟩ := hsent
  rcases List.mem_append.mp hmem with hmem | hmem
  · exact (hfirst ⟨update, hmem, hstatus⟩).elim
  · exact ⟨update, hmem, hstatus⟩

/-- Once the balance suffices, a run that stores the transaction as sent signs these data and
no others. -/
theorem exec_seal (hstores : Stores oracle) (hdata : tx.networkData = .evm data)
    (hnonce : priced.nonce = data.nonce)
    (hcalls : (exec oracle (assignNonce platform tx priced params >>=
      fun txWithNonce => signPrepared txWithNonce params) n).2 = calls)
    (hsent : MovesToSent calls) :
    ∃ nonce, .signTransaction { signedData data priced params with nonce := nonce } ∈ calls ∧
      ∀ request ∈ calls, Sealing { signedData data priced params with nonce := nonce } request := by
  have hassigning := (assigning_assignNonce platform tx priced params).run oracle n
  have hunsent : ¬ MovesToSent (exec oracle (assignNonce platform tx priced params) n).2 :=
    not_movesToSent hassigning fun update hstatus => by rw [hstatus]; exact nofun
  rw [exec_bind] at hcalls
  rcases hassign : exec oracle (assignNonce platform tx priced params) n with ⟨outcome, first⟩
  change ∀ request ∈ (exec oracle (assignNonce platform tx priced params) n).2, _ at hassigning
  rw [hassign] at hcalls hunsent hassigning
  cases outcome with
  | error e =>
      rw [← hcalls] at hsent
      exact (hunsent hsent).elim
  | ok txWithNonce =>
      obtain ⟨stored, nonce, hstored, hsigned⟩ := exec_assignNonce hstores hdata hnonce hassign
      obtain ⟨hsign, hseals⟩ := exec_signPrepared oracle hstored params
        (n + first.length)
      rw [hsigned] at hsign hseals
      refine ⟨nonce, ?_, ?_⟩
      · rw [← hcalls]
        exact List.mem_append_right first hsign
      · intro request hmem
        rw [← hcalls] at hmem
        rcases List.mem_append.mp hmem with hmem | hmem
        · exact sealing_of_assigning (hassigning request hmem)
        · exact hseals request hmem

theorem not_movesToSent_markTransactionAsFailed (reason : String) (n : ℕ) :
    ¬ MovesToSent (exec oracle (markTransactionAsFailed reason) n).2 := by
  have hcalls : (markTransactionAsFailed reason).run.CallsOnly fun request =>
      ∀ update, request = .partialUpdate update → update.status ≠ some .sent := by
    apply callsOnly_storeAndNotify
    · rintro _ hplain update rfl
      exact hplain.elim
    · rintro _ ⟨⟩
      exact nofun
  exact not_movesToSent (hcalls.run oracle n) fun update hstatus => hstatus update rfl

/-- From the priced data on: the price, the balance, and then the signature. -/
theorem exec_priceAndSign (hstores : Stores oracle) (hdata : tx.networkData = .evm data)
    (hnonce : priced.nonce = data.nonce)
    (hcalls : (exec oracle (priceAndSign platform relayer tx priced) n).2 = calls)
    (hsent : MovesToSent calls) :
    ∃ rest params balance nonce,
      calls = .getTransactionPriceParams priced :: .getBalance relayer.address :: rest ∧
      oracle n (.getTransactionPriceParams priced) = .ok params ∧
      oracle (n + 1) (.getBalance relayer.address) = .ok balance ∧
      params.totalCost ≤ balance ∧
      .signTransaction { signedData data priced params with nonce := nonce } ∈ rest ∧
      ∀ request ∈ rest,
        Sealing { signedData data priced params with nonce := nonce } request := by
  unfold priceAndSign at hcalls
  rw [exec_bind, exec_ask] at hcalls
  dsimp only at hcalls
  cases hprice : oracle n (.getTransactionPriceParams priced) with
  | error e =>
      rw [hprice] at hcalls
      obtain ⟨update, hmem, -⟩ := hcalls ▸ hsent
      simp [exec_bind] at hmem
  | ok params =>
      rw [hprice, exec_bind, exec_ofExcept] at hcalls
      dsimp only at hcalls
      obtain ⟨outcome, hcheck, hbalance⟩ :=
        exec_ensureSufficientBalance oracle relayer params.totalCost (n + 1)
      rw [exec_bind, exec_attempt] at hcalls
      simp only [List.length_cons, List.length_nil, Nat.zero_add, Nat.add_zero, List.nil_append,
        hcheck] at hcalls
      have hasked : ¬ MovesToSent
          [.getTransactionPriceParams priced, .getBalance relayer.address] := by
        rintro ⟨update, hmem, -⟩
        simp at hmem
      cases outcome with
      | ok checked =>
          obtain ⟨balance, hanswer, hcovered⟩ := hbalance checked rfl
          obtain ⟨nonce, hsign, hseals⟩ := exec_seal hstores hdata hnonce rfl
            (MovesToSent.append (hcalls ▸ hsent) hasked)
          exact ⟨_, params, balance, nonce, hcalls.symm, rfl, hanswer, hcovered, hsign, hseals⟩
      | error e =>
          have hfailed := MovesToSent.append (hcalls ▸ hsent) hasked
          cases e with
          | insufficientBalance message =>
              exact (not_movesToSent_markTransactionAsFailed _ _ hfailed).elim
          | _ =>
              obtain ⟨update, hmem, -⟩ := hfailed
              exact absurd hmem List.not_mem_nil

/-- A preparation that stores its transaction as sent. -/
theorem exec_prepareTransaction (hstores : Stores oracle) (hdata : tx.networkData = .evm data)
    (hpriced : limited relayer data (oracle n (.estimateGas data)) = priced)
    (hcalls : (exec oracle (prepareTransaction platform relayer tx) n).2 = calls)
    (hsent : MovesToSent calls) :
    ∃ first rest params balance nonce,
      calls = first ++
        .getTransactionPriceParams priced :: .getBalance relayer.address :: rest ∧
      (∀ request ∈ first, Preliminary request) ∧
      oracle (n + first.length) (.getTransactionPriceParams priced) = .ok params ∧
      oracle (n + first.length + 1) (.getBalance relayer.address) = .ok balance ∧
      params.totalCost ≤ balance ∧
      .signTransaction { signedData data priced params with nonce := nonce } ∈ rest ∧
      ∀ request ∈ rest,
        Sealing { signedData data priced params with nonce := nonce } request := by
  unfold prepareTransaction at hcalls
  split at hcalls
  · obtain ⟨update, hmem, -⟩ := hcalls ▸ hsent
    exact absurd hmem List.not_mem_nil
  · rw [hdata] at hcalls
    rw [exec_bind] at hcalls
    change ([] ++ (exec oracle _ n).2) = calls at hcalls
    rw [List.nil_append, exec_bind] at hcalls
    have hpreliminary := (preliminary_determineGasLimit relayer data).run oracle n
    change ∀ request ∈ (exec oracle (determineGasLimit relayer data) n).2, _ at hpreliminary
    have hfirst : ¬ MovesToSent (exec oracle (determineGasLimit relayer data) n).2 :=
      not_movesToSent hpreliminary fun _ hno => hno.elim
    rcases hlimit : exec oracle (determineGasLimit relayer data) n with ⟨outcome, first⟩
    rw [hlimit] at hcalls hpreliminary hfirst
    cases outcome with
    | error e => exact (hfirst (hcalls ▸ hsent)).elim
    | ok limitOrReason =>
        dsimp only at hcalls
        have hrest := MovesToSent.append (hcalls ▸ hsent) hfirst
        cases limitOrReason with
        | error reason => exact (not_movesToSent_markTransactionAsFailed _ _ hrest).elim
        | ok limitedData =>
            rw [exec_determineGasLimit hlimit, hpriced] at hcalls hrest
            have hnonce : priced.nonce = data.nonce := by
              rw [← hpriced]
              rfl
            obtain ⟨rest, params, balance, nonce, hshape, hprice, hbalance, hcovered, hsign,
              hseals⟩ := exec_priceAndSign hstores hdata hnonce rfl hrest
            refine ⟨first, rest, params, balance, nonce, ?_, hpreliminary, hprice, hbalance,
              hcovered, hsign, hseals⟩
            rw [← hcalls, hshape]

end Run

/-- The one element of a list that has a property stands in one place. -/
theorem eq_of_getElem?_append_cons {A : Type} (marked : A → Prop) {first rest : List A}
    {single found : A} {i : ℕ} (hfirst : ∀ element ∈ first, ¬ marked element)
    (hrest : ∀ element ∈ rest, ¬ marked element)
    (hfound : (first ++ single :: rest)[i]? = some found) (hmarked : marked found) :
    i = first.length ∧ found = single := by
  rcases Nat.lt_trichotomy i first.length with hlt | rfl | hgt
  · rw [List.getElem?_append_left hlt] at hfound
    exact (hfirst found (List.mem_of_getElem? hfound) hmarked).elim
  · rw [List.getElem?_append_right le_rfl, Nat.sub_self] at hfound
    exact ⟨rfl, (Option.some.inj hfound).symm⟩
  · rw [List.getElem?_append_right hgt.le] at hfound
    obtain ⟨k, hk⟩ := Nat.exists_eq_add_of_lt hgt
    rw [hk, Nat.add_assoc, Nat.add_sub_cancel_left] at hfound
    exact (hrest found (List.mem_of_getElem? hfound) hmarked).elim

/-! ## The gate -/

theorem paidPrice_lt {calculator : PriceCalculator} {policy : RelayerEvmPolicy}
    {data : EvmTransactionData} (hfits : Fits policy data) :
    paidPrice calculator policy data < 2 ^ 128 := by
  unfold paidPrice
  split
  · exact lt_of_le_of_lt (min_le_right _ _) hfits.cap
  · positivity

theorem getEvmDefaultGasLimitForTx_lt (data : EvmTransactionData) :
    getEvmDefaultGasLimitForTx data < 2 ^ 64 := by
  unfold getEvmDefaultGasLimitForTx
  split
  · decide
  · split
    · decide
    · split <;> decide

theorem pricedLimit_lt {relayer : RelayerRepoModel} {data : EvmTransactionData}
    (hfits : Fits relayer.policy data) (estimate : Except String ℕ) :
    pricedLimit relayer data estimate < 2 ^ 64 := by
  unfold pricedLimit
  split
  · rename_i gasLimit hlimit
    exact hfits.gasLimit gasLimit hlimit
  · split
    · split
      · exact lt_of_le_of_lt (Nat.div_le_self _ _) (Nat.mod_lt _ (by positivity))
      · exact getEvmDefaultGasLimitForTx_lt data
    · exact getEvmDefaultGasLimitForTx_lt data

/-- The cost of the signed payload, by what was priced and what was stored. -/
theorem payloadCost_signedData {relayer : RelayerRepoModel} {data : EvmTransactionData}
    {estimate : Except String ℕ} {params : PriceParams} {price : ℕ} {nonce : Option ℕ}
    (hprice : ∀ stored : EvmTransactionData,
      feePrice (Payload.ofData (stored.withPriceParams params)).fees = price) :
    payloadCost (Payload.ofData
      { signedData data (limited relayer data estimate) params with nonce := nonce }) =
        data.value + signedLimit data (pricedLimit relayer data estimate) * price := by
  unfold signedData signedLimit payloadCost
  split
  · exact congrArg (fun unit => data.value + data.gasLimit.getD defaultGasLimit * unit)
      (hprice data)
  · exact congrArg (fun unit => data.value + pricedLimit relayer data estimate * unit)
      (hprice (limited relayer data estimate))

def AsksPrice : Request → Prop
  | .getTransactionPriceParams _ => True
  | _ => False

def AsksBalance : Request → Prop
  | .getBalance _ => True
  | _ => False

theorem not_asks_of_preliminary {request : Request} (hpreliminary : Preliminary request) :
    ¬ AsksPrice request ∧ ¬ AsksBalance request := by
  cases request <;> first | exact hpreliminary.elim | exact ⟨id, id⟩

theorem not_asks_of_sealing {signed : EvmTransactionData} {request : Request}
    (hsealing : Sealing signed request) : ¬ AsksPrice request ∧ ¬ AsksBalance request := by
  cases request <;> first | exact ⟨id, id⟩ | exact hsealing.elim

/-- A run with one price, one balance that covers it and one signature covers what it signed
exactly when the cost of the price is that of the payload. -/
theorem covers_iff_cost {oracle : Program.Oracle Request Answer} {n : ℕ}
    {first rest : List Request} {priced signed : EvmTransactionData} {address : String}
    {params : PriceParams} {balance : ℕ} (hfirst : ∀ request ∈ first, Preliminary request)
    (hprice : oracle (n + first.length) (.getTransactionPriceParams priced) = .ok params)
    (hbalance : oracle (n + first.length + 1) (.getBalance address) = .ok balance)
    (hcovered : params.totalCost ≤ balance) (hsign : .signTransaction signed ∈ rest)
    (hseals : ∀ request ∈ rest, Sealing signed request) :
    Covers oracle n
        (first ++ .getTransactionPriceParams priced :: .getBalance address :: rest) ↔
      params.totalCost = payloadCost (Payload.ofData signed) := by
  constructor
  · intro hcovers
    refine (hcovers first.length (first.length + 1) priced params address balance signed ?_
      hprice ?_ hbalance ?_).1
    · simp
    · simp
    · simp [hsign]
  · intro hcost i j priced' params' address' balance' signed' hi hparams hj hfound hmem
    have hpricing : i = first.length ∧ _ := eq_of_getElem?_append_cons AsksPrice
      (fun request hrequest => (not_asks_of_preliminary (hfirst request hrequest)).1)
      (by
        intro request hrequest
        rcases List.mem_cons.mp hrequest with rfl | hrequest
        · exact id
        · exact (not_asks_of_sealing (hseals request hrequest)).1) hi trivial
    rw [List.append_cons] at hj
    have hchecking : j = (first ++ [Request.getTransactionPriceParams priced]).length ∧ _ :=
      eq_of_getElem?_append_cons AsksBalance
      (by
        intro request hrequest
        rcases List.mem_append.mp hrequest with hrequest | hrequest
        · exact (not_asks_of_preliminary (hfirst request hrequest)).2
        · rw [List.mem_singleton.mp hrequest]
          exact id)
      (fun request hrequest => (not_asks_of_sealing (hseals request hrequest)).2) hj trivial
    obtain ⟨rfl, ⟨⟩⟩ := hpricing
    obtain ⟨rfl, ⟨⟩⟩ := hchecking
    obtain rfl := Except.ok.inj (hprice.symm.trans hparams)
    rw [List.length_append, List.length_singleton, ← Nat.add_assoc, hbalance] at hfound
    obtain rfl := Except.ok.inj hfound
    have hsigned : signed' = signed := by
      rcases List.mem_append.mp hmem with hmem | hmem
      · exact (hfirst _ hmem).elim
      · simp only [List.mem_cons, reduceCtorEq, false_or] at hmem
        exact hseals _ hmem
    rw [hsigned, ← hcost]
    exact ⟨rfl, hcovered⟩

/-- A preparation that stores its transaction as sent has checked the balance for what it
signed exactly when the request is of the family of its prices and the priced gas limit is
the signed one, and the cost does not wrap. -/
theorem prepareTransaction_covers_iff (calculator : PriceCalculator) (platform : Platform)
    (relayer : RelayerRepoModel) (tx : TransactionRepoModel) (data : EvmTransactionData)
    (oracle : Program.Oracle Request Answer) (n : ℕ)
    (hhandler : calculator.priceParamsHandler = none)
    (hcalculates : calculator.Calculates relayer.policy fun n data =>
      oracle n (.getTransactionPriceParams data)) (hstores : Stores oracle)
    (hdata : tx.networkData = .evm data) (hfits : Fits relayer.policy data)
    (hsent : MovesToSent (exec oracle (prepareTransaction platform relayer tx) n).2) :
    Covers oracle n (exec oracle (prepareTransaction platform relayer tx) n).2 ↔
      GateFits calculator relayer data
        (pricedLimit relayer data (oracle n (.estimateGas data))) := by
  obtain ⟨first, rest, params, balance, nonce, hshape, hfirst, hprice, hbalance, hcovered, hsign,
    hseals⟩ := exec_prepareTransaction hstores hdata rfl rfl hsent
  obtain ⟨hunit, hkept, hlost⟩ := getTransactionPriceParams_cost hhandler
    ((hcalculates _ _).symm.trans hprice)
  rw [hshape, covers_iff_cost hfirst hprice hbalance hcovered hsign hseals,
    payloadCost_signedData hunit]
  exact wrapped_eq_cost_iff (KeepsFamily calculator relayer.policy data) (paidPrice_lt hfits)
    (pricedLimit_lt hfits (oracle n (.estimateGas data))) hfits.value hkept hlost

/-! ## A transfer on a network with EIP-1559 -/

/-- The transfer of 5 without a nonce, with a gas price or at the price of the market. -/
def sampleRequest (gasPrice : Option ℕ) : EvmTransactionData :=
  { sampleTransfer none gasPrice with speed := some .fast }

def samplePending (gasPrice : Option ℕ) : TransactionRepoModel :=
  sampleRecord .pending (sampleRequest gasPrice) []

/-- A balance that covers the value and no gas, and prices of the calculator. -/
def gateOracle (gasPrice : Option ℕ) (balance : ℕ) : Program.Oracle Request Answer
  | _, .getTransactionPriceParams data =>
      (sampleCalculator ["eip1559"] none).getTransactionPriceParams data
        sampleRelayer.policy
  | _, .getBalance _ => .ok balance
  | _, .signTransaction _ => .ok (.evm ⟨"hash", ⟨"", "", 0, ""⟩, []⟩)
  | _, request => sampleAnswers (Signer.ofPayloads []) (samplePending gasPrice) 7 20 0 request

theorem gateOracle_calculates (gasPrice : Option ℕ) (balance : ℕ) :
    (sampleCalculator ["eip1559"] none).Calculates sampleRelayer.policy fun n data =>
      gateOracle gasPrice balance n (.getTransactionPriceParams data) :=
  fun _ _ => rfl

theorem gateOracle_stores (gasPrice : Option ℕ) (balance : ℕ) :
    Stores (gateOracle gasPrice balance) := by
  intro n update stored hstored hstatus data hdata
  obtain rfl := Except.ok.inj hstored
  rw [Option.mem_def] at hdata
  simp [TransactionRecord.TransactionRepoModel.applyPartialUpdate, hdata]

def storesSent : Request → Bool
  | .partialUpdate update => update.status == some .sent
  | _ => false

theorem movesToSent_of_any {calls : List Request} (hany : calls.any storesSent = true) :
    MovesToSent calls := by
  obtain ⟨request, hmem, hsent⟩ := List.any_eq_true.mp hany
  cases request with
  | partialUpdate update => exact ⟨update, hmem, eq_of_beq hsent⟩
  | _ => exact nomatch hsent

/-- A transfer with a gas price is checked for what it signs. -/
theorem prepareTransaction_covers_gas_price :
    Covers (gateOracle (some 10) 1000000) 0
      (exec (gateOracle (some 10) 1000000)
        (prepareTransaction samplePlatform sampleRelayer (samplePending (some 10))) 0).2 := by
  apply (prepareTransaction_covers_iff (sampleCalculator ["eip1559"] none) samplePlatform
    sampleRelayer (samplePending (some 10)) (sampleRequest (some 10)) _ 0 rfl
    (gateOracle_calculates _ _) (gateOracle_stores _ _) rfl ⟨by decide, by decide, by decide⟩
    (movesToSent_of_any (by decide +kernel))).mpr
  have hprice : paidPrice (sampleCalculator ["eip1559"] none) sampleRelayer.policy
      (sampleRequest (some 10)) = 10 := by decide
  have hlimit : signedLimit (sampleRequest (some 10)) 21000 = 21000 := by decide
  refine ⟨Or.inr (Or.inl ⟨by unfold KeepsFamily; decide, hlimit⟩), ?_⟩
  rw [hprice]
  decide

/-- At the price of the market the same transfer is sent with a balance of 10, which covers
its value and nothing of its gas. -/
theorem prepareTransaction_market_price_uncovered :
    MovesToSent (exec (gateOracle none 10)
      (prepareTransaction samplePlatform sampleRelayer (samplePending none)) 0).2 ∧
    ¬ Covers (gateOracle none 10) 0
      (exec (gateOracle none 10)
        (prepareTransaction samplePlatform sampleRelayer (samplePending none)) 0).2 := by
  refine ⟨movesToSent_of_any (by decide +kernel), ?_⟩
  intro hcovers
  have hcost := (hcovers 1 2 _ _ _ _ _ rfl rfl rfl rfl
    (List.mem_of_getElem? (show (_ : List Request)[6]? = some (.signTransaction _) from rfl))).1
  revert hcost
  decide +kernel

end Relayer.EvmBalanceGate
