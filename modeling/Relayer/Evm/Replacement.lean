import Relayer.Core.Program
import Relayer.Evm.Pricing

/-!
# Replacing a pending EVM transaction

`replace_transaction` turns a request into new transaction data for the nonce of
the old one, prices it, signs it and stores it.  The services it uses stand
behind calls, so a run records which payloads reached the signer and whether the
market was asked for a price.
-/

namespace Relayer.EvmReplacement

open Relayer.Transaction Relayer.EvmPricing Relayer.Interaction

inductive NetworkTransactionData where
  | evm (data : EvmTransactionData)
  | solana
  | stellar
  deriving DecidableEq, Repr

def NetworkTransactionData.getEvmTransactionData :
    NetworkTransactionData → Except TransactionError EvmTransactionData
  | .evm data => .ok data
  | _ => .error (.invalidType "Expected EVM transaction")

inductive NetworkTransactionRequest where
  | evm (request : EvmTransactionRequest)
  | solana
  | stellar
  deriving DecidableEq, Repr

def NetworkTransactionRequest.getEvmRequest :
    NetworkTransactionRequest → Except TransactionError EvmTransactionRequest
  | .evm request => .ok request
  | _ => .error (.invalidType "New transaction request must be EVM type")

structure TransactionRepoModel where
  id : String
  status : TransactionStatus
  networkData : NetworkTransactionData
  deriving DecidableEq, Repr

structure RelayerRepoModel where
  address : String
  policy : RelayerEvmPolicy
  deriving DecidableEq, Repr

structure SignTransactionResponseEvm where
  hash : String
  signature : EvmTransactionDataSignature
  raw : List UInt8
  deriving DecidableEq, Repr

inductive SignTransactionResponse where
  | evm (response : SignTransactionResponseEvm)
  | solana
  | stellar
  deriving DecidableEq, Repr

def SignTransactionResponse.intoEvm :
    SignTransactionResponse → Except TransactionError SignTransactionResponseEvm
  | .evm response => .ok response
  | _ => .error (.invalidType "Expected EVM signature")

def withSignedTransactionData (data : EvmTransactionData)
    (sig : SignTransactionResponseEvm) : EvmTransactionData :=
  { data with signature := some sig.signature, hash := some sig.hash, raw := some sig.raw }

/-- What `replace_transaction` asks of the services around it. -/
inductive Call where
  | getByChainId (chainId : ℕ)
  | getTransactionPriceParams (data : EvmTransactionData)
  | getBalance (address : String)
  | signTransaction (data : EvmTransactionData)
  | updateNetworkData (id : String) (data : EvmTransactionData)
  | sendTransactionResubmitJob (tx : TransactionRepoModel)
  | sendTransactionUpdateNotification (tx : TransactionRepoModel)

/-- The answers, failures included.  A stored network may fail to convert, which
the inner `Except` reports. -/
def Answer : Call → Type
  | .getByChainId _ => Except String (Option (Except String EvmNetwork))
  | .getTransactionPriceParams _ => Except TransactionError PriceParams
  | .getBalance _ => Except String ℕ
  | .signTransaction _ => Except TransactionError SignTransactionResponse
  | .updateNetworkData _ _ => Except RepositoryError TransactionRepoModel
  | .sendTransactionResubmitJob _ => Except TransactionError Unit
  | .sendTransactionUpdateNotification _ => Except TransactionError Unit

abbrev EvmTask (A : Type) := Task Call Answer TransactionError A

def getByChainId (chainId : ℕ) :
    EvmTask (Except String (Option (Except String EvmNetwork))) :=
  Task.ask (Call.getByChainId chainId)

def getTransactionPriceParams (data : EvmTransactionData) :
    EvmTask (Except TransactionError PriceParams) :=
  Task.ask (Call.getTransactionPriceParams data)

def getBalance (address : String) : EvmTask (Except String ℕ) :=
  Task.ask (Call.getBalance address)

def signTransaction (data : EvmTransactionData) :
    EvmTask (Except TransactionError SignTransactionResponse) :=
  Task.ask (Call.signTransaction data)

def updateNetworkData (id : String) (data : EvmTransactionData) :
    EvmTask (Except RepositoryError TransactionRepoModel) :=
  Task.ask (Call.updateNetworkData id data)

def sendTransactionResubmitJob (tx : TransactionRepoModel) :
    EvmTask (Except TransactionError Unit) :=
  Task.ask (Call.sendTransactionResubmitJob tx)

def sendTransactionUpdateNotification (tx : TransactionRepoModel) :
    EvmTask (Except TransactionError Unit) :=
  Task.ask (Call.sendTransactionUpdateNotification tx)

/-! ## The replacement -/

def getNetwork (chainId : ℕ) : EvmTask EvmNetwork := do
  match ← getByChainId chainId with
  | .error e => throw (.networkConfiguration
      s!"Failed to get network by chain_id {chainId}: {e}")
  | .ok none => throw (.networkConfiguration
      s!"Network with chain_id {chainId} not found")
  | .ok (some (.error e)) => throw (.networkConfiguration
      s!"Failed to convert network model: {e}")
  | .ok (some (.ok network)) => return network

/-- Asks for fresh market prices and raises them to the minimum bump. -/
def calculateReplacementPrice (oldData newData : EvmTransactionData)
    (relayer : RelayerRepoModel) (networkLacksMempool : Bool) :
    EvmTask PriceParams := do
  let params ← Task.ofExcept (← getTransactionPriceParams newData)
  Task.ofExcept (bumpMarketPrice oldData relayer.policy networkLacksMempool params)

def determineReplacementPricing (oldData newData : EvmTransactionData)
    (relayer : RelayerRepoModel) (networkLacksMempool : Bool) :
    EvmTask PriceParams := do
  Task.ofExcept (checkTransactionCompatibility oldData newData)
  if hasExplicitPrices newData then
    Task.ofExcept
      (validateExplicitPriceBump oldData newData relayer.policy networkLacksMempool)
  else
    calculateReplacementPrice oldData newData relayer networkLacksMempool

def ensureSufficientBalance (relayer : RelayerRepoModel) (totalCost : ℕ) :
    EvmTask Unit := do
  match ← getBalance relayer.address with
  | .error e => throw (.unexpectedError s!"Failed to check balance: {e}")
  | .ok balance =>
      let minBalance := relayer.policy.minBalance.getD defaultEvmMinBalance
      let remainingBalance := balance - totalCost
      if balance < totalCost then
        throw (.insufficientBalance
          s!"Relayer balance {balance} is insufficient to cover {totalCost}")
      if minBalance ≠ 0 ∧ remainingBalance < minBalance then
        throw (.insufficientBalance
          (s!"Relayer balance {balance} is insufficient to cover {totalCost}, " ++
            s!"with an enforced minimum balance of {minBalance}"))

/-- Signs and stores the priced data and enqueues its resubmission; a failed
notification is only logged. -/
def signAndStoreReplacement (id : String) (data : EvmTransactionData) :
    EvmTask TransactionRepoModel := do
  let signed ← Task.ofExcept (← signTransaction data)
  let response ← Task.ofExcept signed.intoEvm
  let stored ← updateNetworkData id (withSignedTransactionData data response)
  let updatedTx ← Task.ofExcept (stored.mapError RepositoryError.toTransactionError)
  Task.ofExcept (← sendTransactionResubmitJob updatedTx)
  let _ ← sendTransactionUpdateNotification updatedTx
  return updatedTx

def replaceTransaction (relayer : RelayerRepoModel) (oldTx : TransactionRepoModel)
    (newTxRequest : NetworkTransactionRequest) : EvmTask TransactionRepoModel := do
  Task.ofExcept (ensureStatusOneOf oldTx.status [.pending, .sent, .submitted]
    (some "replace_transaction"))
  let oldData ← Task.ofExcept oldTx.networkData.getEvmTransactionData
  let request ← Task.ofExcept newTxRequest.getEvmRequest
  let network ← getNetwork oldData.chainId
  let updatedData := EvmTransactionData.forReplacement oldData request
  let params ← determineReplacementPricing oldData updatedData relayer
    network.lacksMempool
  ensureSufficientBalance relayer params.totalCost
  signAndStoreReplacement oldTx.id (updatedData.withPriceParams params)

/-! ## Explicit prices -/

/-- The request names a legacy price or both EIP-1559 prices. -/
def ExplicitPrices (request : EvmTransactionRequest) : Prop :=
  request.gasPrice.isSome ∨
    (request.maxFeePerGas.isSome ∧ request.maxPriorityFeePerGas.isSome)

instance (request : EvmTransactionRequest) : Decidable (ExplicitPrices request) :=
  inferInstanceAs (Decidable (_ ∨ _))

def CarriesPrices (request : EvmTransactionRequest) (data : EvmTransactionData) : Prop :=
  data.gasPrice = request.gasPrice ∧ data.maxFeePerGas = request.maxFeePerGas ∧
    data.maxPriorityFeePerGas = request.maxPriorityFeePerGas

def MeetsBump (oldData data : EvmTransactionData) : Prop :=
  (∀ old ∈ oldData.gasPrice, ∀ new ∈ data.gasPrice, calculateMinBump old ≤ new) ∧
  (∀ old ∈ oldData.maxFeePerGas, ∀ new ∈ data.maxFeePerGas,
    calculateMinBump old ≤ new) ∧
  (∀ old ∈ oldData.maxPriorityFeePerGas, ∀ new ∈ data.maxPriorityFeePerGas,
    calculateMinBump old ≤ new)

def WithinCap (policy : RelayerEvmPolicy) (data : EvmTransactionData) : Prop :=
  ∀ price, price ∈ data.gasPrice ∨ price ∈ data.maxFeePerGas ∨
    price ∈ data.maxPriorityFeePerGas →
      price ≤ policy.gasPriceCap.getD defaultEvmGasPriceCap

/-- Explicit prices are signed as requested, bumped where the network of the old
transaction has a mempool, and capped; the market is asked only when there are
none. -/
def HonoursExplicitPrices (oracle : Program.Oracle Call Answer)
    (relayer : RelayerRepoModel) (oldTx : TransactionRepoModel)
    (request : EvmTransactionRequest) (calls : List Call) : Prop :=
  (ExplicitPrices request → ∀ data, Call.signTransaction data ∈ calls →
    CarriesPrices request data ∧ WithinCap relayer.policy data ∧
      ∀ oldData network, oldTx.networkData = .evm oldData →
        oracle 0 (.getByChainId oldData.chainId) = .ok (some (.ok network)) →
          network.lacksMempool = false → MeetsBump oldData data) ∧
  (∀ data, Call.getTransactionPriceParams data ∈ calls → ¬ ExplicitPrices request)

/-- The prices of the request are gone before the pricing mode is chosen, so a
replacement always starts with a market quote. -/
theorem determineReplacementPricing_forReplacement (oldData : EvmTransactionData)
    (request : EvmTransactionRequest) (relayer : RelayerRepoModel)
    (networkLacksMempool : Bool) :
    determineReplacementPricing oldData
        (EvmTransactionData.forReplacement oldData request) relayer
        networkLacksMempool =
      calculateReplacementPrice oldData
        (EvmTransactionData.forReplacement oldData request) relayer
        networkLacksMempool := rfl

theorem calculateReplacementPrice_asks_market {oracle : Program.Oracle Call Answer}
    {oldData newData : EvmTransactionData} {relayer : RelayerRepoModel}
    {networkLacksMempool : Bool} {n : ℕ} {params : PriceParams} {calls : List Call}
    (hok : Task.exec oracle
      (calculateReplacementPrice oldData newData relayer networkLacksMempool) n =
        (.ok params, calls)) :
    Call.getTransactionPriceParams newData ∈ calls := by
  obtain ⟨answer, first, rest, hask, -, rfl⟩ := Task.exec_bind_ok hok
  cases hask
  simp

/-- Every accepted replacement asked the market for the price it signed. -/
theorem replaceTransaction_asks_market {oracle : Program.Oracle Call Answer}
    {relayer : RelayerRepoModel} {oldTx tx : TransactionRepoModel}
    {request : EvmTransactionRequest} {calls : List Call}
    (hok : Task.exec oracle (replaceTransaction relayer oldTx (.evm request)) 0 =
      (.ok tx, calls)) :
    ∃ data, Call.getTransactionPriceParams data ∈ calls := by
  obtain ⟨_, guard, afterGuard, -, hok₁, rfl⟩ := Task.exec_bind_ok hok
  obtain ⟨oldData, none₁, afterData, -, hok₂, rfl⟩ := Task.exec_bind_ok hok₁
  obtain ⟨request', none₂, afterRequest, -, hok₃, rfl⟩ := Task.exec_bind_ok hok₂
  obtain ⟨network, lookup, afterLookup, -, hok₄, rfl⟩ := Task.exec_bind_ok hok₃
  obtain ⟨params, pricing, afterPricing, hprice, -, rfl⟩ := Task.exec_bind_ok hok₄
  rw [determineReplacementPricing_forReplacement] at hprice
  have hmem := calculateReplacementPrice_asks_market hprice
  refine ⟨EvmTransactionData.forReplacement oldData request', ?_⟩
  simp only [List.mem_append, hmem, true_or, or_true]

/-- An accepted replacement honours its request exactly when the request carries
no explicit prices: explicit prices are never used and never rejected. -/
theorem replaceTransaction_honours_iff (oracle : Program.Oracle Call Answer)
    (relayer : RelayerRepoModel) (oldTx tx : TransactionRepoModel)
    (request : EvmTransactionRequest) (calls : List Call)
    (hok : Task.exec oracle (replaceTransaction relayer oldTx (.evm request)) 0 =
      (.ok tx, calls)) :
    HonoursExplicitPrices oracle relayer oldTx request calls ↔
      ¬ ExplicitPrices request := by
  constructor
  · intro hhonours
    obtain ⟨data, hmarket⟩ := replaceTransaction_asks_market hok
    exact hhonours.2 data hmarket
  · intro hnone
    exact ⟨fun hexplicit => (hnone hexplicit).elim, fun _ _ => hnone⟩

/-- A legacy transaction priced at 10. -/
def sampleData : EvmTransactionData where
  gasPrice := some 10
  gasLimit := some 21000
  nonce := some 1
  value := 0
  data := none
  «from» := "0x01"
  «to» := some "0x02"
  chainId := 1
  hash := none
  signature := none
  speed := none
  maxFeePerGas := none
  maxPriorityFeePerGas := none
  raw := none

def sampleTx : TransactionRepoModel := ⟨"tx", .submitted, .evm sampleData⟩

def sampleRequest (gasPrice : Option ℕ) : EvmTransactionRequest where
  «to» := some "0x02"
  value := 0
  data := none
  gasLimit := some 21000
  gasPrice := gasPrice
  speed := none
  maxFeePerGas := none
  maxPriorityFeePerGas := none
  validUntil := none

def sampleRelayer : RelayerRepoModel where
  address := "0x01"
  policy := ⟨none, none, some 100, none, none, none, none⟩

/-- Services that succeed; the market price is 20. -/
def sampleOracle : Program.Oracle Call Answer
  | _, .getByChainId _ => .ok (some (.ok (sampleNetwork [])))
  | _, .getTransactionPriceParams _ => .ok ⟨some 20, none, none, none, none, 420000⟩
  | _, .getBalance _ => .ok 1000000000
  | _, .signTransaction _ => .ok (.evm ⟨"0xhash", ⟨"r", "s", 27, "sig"⟩, []⟩)
  | _, .updateNetworkData id data => .ok ⟨id, .submitted, .evm data⟩
  | _, .sendTransactionResubmitJob _ => .ok ()
  | _, .sendTransactionUpdateNotification _ => .ok ()

/-- Without explicit prices the sample replacement is accepted and honours its
request. -/
theorem replaceTransaction_honours_market_request :
    HonoursExplicitPrices sampleOracle sampleRelayer sampleTx (sampleRequest none)
      (Task.exec sampleOracle
        (replaceTransaction sampleRelayer sampleTx (.evm (sampleRequest none))) 0).2 :=
  (replaceTransaction_honours_iff sampleOracle sampleRelayer sampleTx _
    (sampleRequest none) _ rfl).mpr (by decide)

/-- A request for price 50, within the cap and above the bump, is accepted with
the market price 20 in the signed payload. -/
theorem replaceTransaction_drops_explicit_price :
    ExplicitPrices (sampleRequest (some 50)) ∧
      ∃ tx calls, Task.exec sampleOracle
          (replaceTransaction sampleRelayer sampleTx (.evm (sampleRequest (some 50)))) 0 =
            (.ok tx, calls) ∧
        Call.signTransaction
          { sampleData with gasPrice := some 20, speed := some .fast } ∈ calls ∧
        ¬ HonoursExplicitPrices sampleOracle sampleRelayer sampleTx
          (sampleRequest (some 50)) calls := by
  have hmarket : ∀ tx calls, Task.exec sampleOracle
      (replaceTransaction sampleRelayer sampleTx (.evm (sampleRequest (some 50)))) 0 =
        (.ok tx, calls) → Call.getTransactionPriceParams
          { sampleData with gasPrice := none, speed := some .fast } ∈ calls := by
    rintro tx calls hrun
    cases hrun
    exact List.mem_of_getElem? (i := 1) rfl
  refine ⟨by decide, _, _, rfl, List.mem_of_getElem? (i := 3) rfl, ?_⟩
  intro hhonours
  exact hhonours.2 _ (hmarket _ _ rfl) (by decide)

end Relayer.EvmReplacement
