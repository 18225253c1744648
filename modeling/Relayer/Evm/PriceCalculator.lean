import Relayer.Core.Checks
import Relayer.Evm.Replacement

/-!
# The EVM price calculator

`get_transaction_price_params` prices a new transaction and
`calculate_bumped_gas_price` prices a resubmission.  Both choose a fee family, apply the
gas price cap, let the handler of the chain adjust the result and compute the total cost.
What the gas price service and the chain's handler answer is part of the calculator, so
that each of the two functions is a plain function of its inputs and these answers.
-/

namespace Relayer.EvmPriceCalculator

open Relayer.Transaction Relayer.EvmPricing Relayer.Checks

/-! ## Prices of the network -/

structure SpeedPrices where
  safeLow : ℕ
  average : ℕ
  fast : ℕ
  fastest : ℕ
  deriving DecidableEq, Repr

def SpeedPrices.forSpeed (prices : SpeedPrices) : Speed → ℕ
  | .safeLow => prices.safeLow
  | .average => prices.average
  | .fast => prices.fast
  | .fastest => prices.fastest

structure GasPrices where
  legacyPrices : SpeedPrices
  maxPriorityFeePerGas : SpeedPrices
  baseFeePerGas : ℕ
  deriving DecidableEq, Repr

/-- The service behind the calculator with the answers it gives: the network, the growth of
the base fee over a number of blocks as the floating point code computes it, the prices, and
the handler that some chains have. -/
structure PriceCalculator where
  network : EvmNetwork
  baseFeeGrowth : ℕ → ℕ
  prices : Except TransactionError GasPrices
  legacyPrices : Except TransactionError SpeedPrices
  priceParamsHandler :
    Option (EvmTransactionData → PriceParams → Except TransactionError PriceParams)

def precision : ℕ := 1000000000
def minuteAndHalfMs : ℕ := 90000
def maxBaseFeeMultiplier : ℕ := 10 * precision

def capGasPrice (price cap : ℕ) : ℕ := min price cap

/-- `gas_price_cap`, or no cap at all. -/
def gasPriceCap (policy : RelayerEvmPolicy) : ℕ := policy.gasPriceCap.getD u128Max

/-- Prices that were computed, before the cost is. -/
def legacyParams (gasPrice : ℕ) (isMinBumped : Option Bool) : PriceParams where
  gasPrice := some gasPrice
  maxFeePerGas := none
  maxPriorityFeePerGas := none
  isMinBumped := isMinBumped
  extraFee := none
  totalCost := 0

def eip1559Params (maxFee maxPriorityFee : ℕ) (isMinBumped : Option Bool) : PriceParams where
  gasPrice := none
  maxFeePerGas := some maxFee
  maxPriorityFeePerGas := some maxPriorityFee
  isMinBumped := isMinBumped
  extraFee := none
  totalCost := 0

namespace PriceCalculator

variable (calculator : PriceCalculator)

def getBaseFeeMultiplier : ℕ :=
  let nBlocks := minuteAndHalfMs / calculator.network.averageBlocktimeMs
  min (calculator.baseFeeGrowth nBlocks) maxBaseFeeMultiplier

/-- 128-bit wrapping arithmetic, as in a release build. -/
def calculateMaxFeePerGas (baseFee maxPriorityFee : ℕ) : ℕ :=
  let multipliedBaseFee := baseFee * calculator.getBaseFeeMultiplier % 2 ^ 128 / precision
  (multipliedBaseFee + maxPriorityFee) % 2 ^ 128

/-! ## A new transaction -/

def fetchLegacyPriceParams (data : EvmTransactionData) : Except TransactionError PriceParams :=
  match data.gasPrice with
  | some gasPrice => .ok (legacyParams gasPrice none)
  | none => .error (.notSupported "Gas price is required for legacy transactions")

def fetchEip1559PriceParams (data : EvmTransactionData) :
    Except TransactionError PriceParams :=
  match data.maxFeePerGas with
  | none => .error (.notSupported "Max fee per gas is required for EIP1559 transactions")
  | some maxFee =>
      match data.maxPriorityFeePerGas with
      | none =>
          .error (.notSupported "Max priority fee per gas is required for EIP1559 transactions")
      | some maxPriorityFee => .ok (eip1559Params maxFee maxPriorityFee none)

def fetchEip1559SpeedParams (speed : Speed) : Except TransactionError PriceParams := do
  let prices ← calculator.prices
  let priorityFee := prices.maxPriorityFeePerGas.forSpeed speed
  let maxFee := calculator.calculateMaxFeePerGas prices.baseFeePerGas priorityFee
  return eip1559Params maxFee priorityFee none

def fetchLegacySpeedParams (speed : Speed) : Except TransactionError PriceParams := do
  let prices ← calculator.legacyPrices
  return legacyParams (prices.forSpeed speed) none

def usesLegacySpeed (policy : RelayerEvmPolicy) : Bool :=
  policy.eip1559Pricing == some false || calculator.network.isLegacy

def fetchSpeedPriceParams (data : EvmTransactionData) (policy : RelayerEvmPolicy) :
    Except TransactionError PriceParams :=
  match data.speed with
  | none => .error (.notSupported "Speed is required")
  | some speed =>
      if calculator.usesLegacySpeed policy then calculator.fetchLegacySpeedParams speed
      else calculator.fetchEip1559SpeedParams speed

def fetchPriceParamsBasedOnTxType (data : EvmTransactionData) (policy : RelayerEvmPolicy) :
    Except TransactionError PriceParams :=
  if data.isLegacy then fetchLegacyPriceParams data
  else if data.isEip1559 then fetchEip1559PriceParams data
  else if data.speed.isSome then calculator.fetchSpeedPriceParams data policy
  else .error (.notSupported "Invalid transaction type")

end PriceCalculator

/-- Prices of both fees are capped, the priority fee by the capped maximum; any other prices
count as those of a legacy transaction. -/
def applyGasPriceCapAndConstraints (policy : RelayerEvmPolicy) (params : PriceParams) :
    PriceParams :=
  match params.maxFeePerGas, params.maxPriorityFeePerGas with
  | some maxFee, some maxPriority =>
      let cappedMaxFee := capGasPrice maxFee (gasPriceCap policy)
      { params with
        maxFeePerGas := some cappedMaxFee
        maxPriorityFeePerGas := some (capGasPrice maxPriority cappedMaxFee)
        gasPrice := none }
  | _, _ =>
      { params with
        gasPrice := some (capGasPrice (params.gasPrice.getD 0) (gasPriceCap policy))
        maxFeePerGas := none
        maxPriorityFeePerGas := none }

/-- A cost that nobody has computed yet; the family is that of the transaction's data. -/
def withTotalCost (data : EvmTransactionData) (params : PriceParams) : PriceParams :=
  if params.totalCost = 0 then
    { params with
      totalCost := params.calculateTotalCost data.isEip1559
        (data.gasLimit.getD defaultGasLimit) data.value }
  else params

namespace PriceCalculator

variable (calculator : PriceCalculator)

def finalizePriceParams (policy : RelayerEvmPolicy) (data : EvmTransactionData)
    (params : PriceParams) : Except TransactionError PriceParams :=
  match calculator.priceParamsHandler with
  | none => .ok (withTotalCost data params)
  | some handlePriceParams => do
      let handled ← handlePriceParams data params
      return withTotalCost data (applyGasPriceCapAndConstraints policy handled)

def getTransactionPriceParams (data : EvmTransactionData) (policy : RelayerEvmPolicy) :
    Except TransactionError PriceParams := do
  let params ← calculator.fetchPriceParamsBasedOnTxType data policy
  calculator.finalizePriceParams policy data (applyGasPriceCapAndConstraints policy params)

/-- The prices that a job is told at each of its calls are those of this calculator. -/
def Calculates (policy : RelayerEvmPolicy)
    (told : ℕ → EvmTransactionData → Except TransactionError PriceParams) : Prop :=
  ∀ n data, told n data = calculator.getTransactionPriceParams data policy

/-! ## A resubmission -/

def getMarketPriceForSpeed (prices : GasPrices) (isEip1559 : Bool) (speed : Speed) : ℕ :=
  if isEip1559 then prices.maxPriorityFeePerGas.forSpeed speed
  else prices.legacyPrices.forSpeed speed

/-- The market price where it is enough of a bump, and the smallest bump where not. -/
def bumpedPrice (market minBump : ℕ) : ℕ := if minBump ≤ market then market else minBump

/-- The priority fee that a resubmission of EIP-1559 prices starts from. -/
def bumpedPriorityFee (prices : GasPrices) (speed : Option Speed) (maxPriorityFee : ℕ) : ℕ :=
  bumpedPrice (getMarketPriceForSpeed prices true (speed.getD defaultTransactionSpeed))
    (calculateMinBump maxPriorityFee)

def handleEip1559Bump (prices : GasPrices) (cap : ℕ) (speed : Option Speed)
    (maxFee maxPriorityFee : ℕ) : PriceParams :=
  let minBumpMaxFee := calculateMinBump maxFee
  let minBumpMaxPriority := calculateMinBump maxPriorityFee
  let priorityFee := bumpedPriorityFee prices speed maxPriorityFee
  let bumpedMaxFee := bumpedPrice prices.baseFeePerGas minBumpMaxFee
  let recommended := calculator.calculateMaxFeePerGas prices.baseFeePerGas priorityFee
  let finalMaxFee := max bumpedMaxFee recommended
  let cappedPriority := capGasPrice priorityFee cap
  let cappedMaxFee := capGasPrice finalMaxFee cap
  eip1559Params cappedMaxFee cappedPriority
    (some (minBumpMaxPriority ≤ cappedPriority && minBumpMaxFee ≤ cappedMaxFee))

def handleLegacyBump (prices : GasPrices) (cap : ℕ) (speed : Option Speed) (gasPrice : ℕ) :
    PriceParams :=
  let minBumpGasPrice := calculateMinBump gasPrice
  let market := getMarketPriceForSpeed prices false (speed.getD .fast)
  let cappedGasPrice := capGasPrice (bumpedPrice market minBumpGasPrice) cap
  legacyParams cappedGasPrice (some (minBumpGasPrice ≤ cappedGasPrice))

/-- The prices of a resubmission, before the chain's handler sees them.  A forced bump knows
no cap here. -/
def bumpPrices (data : EvmTransactionData) (policy : RelayerEvmPolicy) (forceBump : Bool)
    (prices : GasPrices) : Except TransactionError PriceParams :=
  let cap := if forceBump then u128Max else gasPriceCap policy
  match data.maxFeePerGas, data.maxPriorityFeePerGas, data.gasPrice with
  | some maxFee, some maxPriorityFee, _ =>
      .ok (calculator.handleEip1559Bump prices cap data.speed maxFee maxPriorityFee)
  | none, none, some gasPrice => .ok (handleLegacyBump prices cap data.speed gasPrice)
  | _, _, _ => .error (.invalidType "Transaction missing required gas price parameters")

def skipsBump : Bool := calculator.network.lacksMempool || calculator.network.isArbitrum

def calculateBumpedGasPrice (data : EvmTransactionData) (policy : RelayerEvmPolicy)
    (forceBump : Bool) : Except TransactionError PriceParams :=
  if calculator.skipsBump then do
    let params ← calculator.getTransactionPriceParams data policy
    return { params with isMinBumped := some true }
  else do
    let prices ← calculator.prices
    let params ← calculator.bumpPrices data policy forceBump prices
    calculator.finalizePriceParams policy data params

end PriceCalculator

/-! ## Lemmas about the parts -/

/-- Only one fee family is there. -/
def OneFamily (params : PriceParams) : Prop :=
  (params.gasPrice.isSome ∧ params.maxFeePerGas = none ∧ params.maxPriorityFeePerGas = none) ∨
  (params.gasPrice = none ∧ params.maxFeePerGas.isSome ∧ params.maxPriorityFeePerGas.isSome)

def PriorityWithinMaxFee (params : PriceParams) : Prop :=
  ∀ maxFee ∈ params.maxFeePerGas, ∀ maxPriority ∈ params.maxPriorityFeePerGas,
    maxPriority ≤ maxFee

/-- No price is above the cap. -/
def WithinCap (cap : ℕ) (params : PriceParams) : Prop :=
  (∀ price ∈ params.gasPrice, price ≤ cap) ∧ (∀ price ∈ params.maxFeePerGas, price ≤ cap) ∧
    ∀ price ∈ params.maxPriorityFeePerGas, price ≤ cap

theorem oneFamily_legacyParams (gasPrice : ℕ) (isMinBumped : Option Bool) :
    OneFamily (legacyParams gasPrice isMinBumped) := Or.inl ⟨rfl, rfl, rfl⟩

theorem oneFamily_eip1559Params (maxFee maxPriority : ℕ) (isMinBumped : Option Bool) :
    OneFamily (eip1559Params maxFee maxPriority isMinBumped) := Or.inr ⟨rfl, rfl, rfl⟩

theorem priorityWithinMaxFee_legacyParams (gasPrice : ℕ) (isMinBumped : Option Bool) :
    PriorityWithinMaxFee (legacyParams gasPrice isMinBumped) := by
  simp [PriorityWithinMaxFee, legacyParams]

theorem priorityWithinMaxFee_eip1559Params {maxFee maxPriority : ℕ} (isMinBumped : Option Bool)
    (hle : maxPriority ≤ maxFee) :
    PriorityWithinMaxFee (eip1559Params maxFee maxPriority isMinBumped) := by
  simp [PriorityWithinMaxFee, eip1559Params, hle]

/-- The two shapes that capped prices have. -/
theorem applyGasPriceCapAndConstraints_cases (policy : RelayerEvmPolicy) (params : PriceParams) :
    (∃ maxFee maxPriority, params.maxFeePerGas = some maxFee ∧
        params.maxPriorityFeePerGas = some maxPriority ∧
        applyGasPriceCapAndConstraints policy params =
          { params with
            maxFeePerGas := some (min maxFee (gasPriceCap policy))
            maxPriorityFeePerGas := some (min maxPriority (min maxFee (gasPriceCap policy)))
            gasPrice := none }) ∨
    ((params.maxFeePerGas = none ∨ params.maxPriorityFeePerGas = none) ∧
      applyGasPriceCapAndConstraints policy params =
        { params with
          gasPrice := some (min (params.gasPrice.getD 0) (gasPriceCap policy))
          maxFeePerGas := none
          maxPriorityFeePerGas := none }) := by
  unfold applyGasPriceCapAndConstraints
  cases hfee : params.maxFeePerGas with
  | none => exact Or.inr ⟨Or.inl rfl, rfl⟩
  | some maxFee =>
      cases hpriority : params.maxPriorityFeePerGas with
      | none => exact Or.inr ⟨Or.inr rfl, rfl⟩
      | some maxPriority => exact Or.inl ⟨maxFee, maxPriority, rfl, rfl, rfl⟩

section Capped

variable (policy : RelayerEvmPolicy) (params : PriceParams)

@[simp]
theorem applyGasPriceCapAndConstraints_isMinBumped :
    (applyGasPriceCapAndConstraints policy params).isMinBumped = params.isMinBumped := by
  unfold applyGasPriceCapAndConstraints
  split <;> rfl

theorem oneFamily_applyGasPriceCapAndConstraints :
    OneFamily (applyGasPriceCapAndConstraints policy params) := by
  rcases applyGasPriceCapAndConstraints_cases policy params with
    ⟨maxFee, maxPriority, -, -, heq⟩ | ⟨-, heq⟩
  · rw [heq]
    exact Or.inr ⟨rfl, rfl, rfl⟩
  · rw [heq]
    exact Or.inl ⟨rfl, rfl, rfl⟩

theorem priorityWithinMaxFee_applyGasPriceCapAndConstraints :
    PriorityWithinMaxFee (applyGasPriceCapAndConstraints policy params) := by
  rcases applyGasPriceCapAndConstraints_cases policy params with
    ⟨maxFee, maxPriority, -, -, heq⟩ | ⟨-, heq⟩
  · rw [heq]
    rintro _ ⟨⟩ _ ⟨⟩
    exact min_le_right _ _
  · rw [heq]
    exact fun _ hfee => nomatch hfee

theorem withinCap_applyGasPriceCapAndConstraints :
    WithinCap (gasPriceCap policy) (applyGasPriceCapAndConstraints policy params) := by
  rcases applyGasPriceCapAndConstraints_cases policy params with
    ⟨maxFee, maxPriority, -, -, heq⟩ | ⟨-, heq⟩
  · rw [heq]
    simp [WithinCap]
  · rw [heq]
    simp [WithinCap]

end Capped

section TotalCost

variable (data : EvmTransactionData) (params : PriceParams)

@[simp]
theorem withTotalCost_gasPrice : (withTotalCost data params).gasPrice = params.gasPrice := by
  unfold withTotalCost
  split <;> rfl

@[simp]
theorem withTotalCost_maxFeePerGas :
    (withTotalCost data params).maxFeePerGas = params.maxFeePerGas := by
  unfold withTotalCost
  split <;> rfl

@[simp]
theorem withTotalCost_maxPriorityFeePerGas :
    (withTotalCost data params).maxPriorityFeePerGas = params.maxPriorityFeePerGas := by
  unfold withTotalCost
  split <;> rfl

@[simp]
theorem withTotalCost_isMinBumped :
    (withTotalCost data params).isMinBumped = params.isMinBumped := by
  unfold withTotalCost
  split <;> rfl

theorem oneFamily_withTotalCost :
    OneFamily (withTotalCost data params) ↔ OneFamily params := by
  simp [OneFamily]

theorem priorityWithinMaxFee_withTotalCost :
    PriorityWithinMaxFee (withTotalCost data params) ↔ PriorityWithinMaxFee params := by
  simp [PriorityWithinMaxFee]

theorem withinCap_withTotalCost (cap : ℕ) :
    WithinCap cap (withTotalCost data params) ↔ WithinCap cap params := by
  simp [WithinCap]

end TotalCost

namespace PriceCalculator

variable (calculator : PriceCalculator)

/-- The prices of a new transaction that the last cap is applied to: what the chain's handler
makes of them, where there is one. -/
def settledParams (data : EvmTransactionData) (policy : RelayerEvmPolicy) :
    Except TransactionError PriceParams := do
  let params ← calculator.fetchPriceParamsBasedOnTxType data policy
  match calculator.priceParamsHandler with
  | none => return params
  | some handlePriceParams =>
      handlePriceParams data (applyGasPriceCapAndConstraints policy params)

theorem getTransactionPriceParams_eq (data : EvmTransactionData) (policy : RelayerEvmPolicy) :
    calculator.getTransactionPriceParams data policy =
      (calculator.settledParams data policy).map fun settled =>
        withTotalCost data (applyGasPriceCapAndConstraints policy settled) := by
  unfold getTransactionPriceParams settledParams finalizePriceParams
  cases calculator.fetchPriceParamsBasedOnTxType data policy with
  | error e => rfl
  | ok params =>
      cases hhandler : calculator.priceParamsHandler with
      | none => rfl
      | some handlePriceParams =>
          change (handlePriceParams data (applyGasPriceCapAndConstraints policy params) >>= _) =
            (handlePriceParams data (applyGasPriceCapAndConstraints policy params)).map _
          cases handlePriceParams data (applyGasPriceCapAndConstraints policy params) with
          | error e => rfl
          | ok handled => rfl

theorem calculateBumpedGasPrice_eq {calculator : PriceCalculator} {data : EvmTransactionData}
    {policy : RelayerEvmPolicy} {forceBump : Bool} (hmempool : calculator.skipsBump = false) :
    calculator.calculateBumpedGasPrice data policy forceBump =
      (calculator.prices >>= calculator.bumpPrices data policy forceBump) >>=
        calculator.finalizePriceParams policy data := by
  rw [calculateBumpedGasPrice, hmempool, bind_assoc]
  rfl

/-- The two kinds of resubmission. -/
theorem bumpPrices_ok {calculator : PriceCalculator} {data : EvmTransactionData}
    {policy : RelayerEvmPolicy} {forceBump : Bool} {prices : GasPrices} {params : PriceParams}
    (hok : calculator.bumpPrices data policy forceBump prices = .ok params) :
    (∃ maxFee maxPriority cap, data.maxFeePerGas = some maxFee ∧
        data.maxPriorityFeePerGas = some maxPriority ∧
        params = calculator.handleEip1559Bump prices cap data.speed maxFee maxPriority) ∨
    (∃ gasPrice cap, data.gasPrice = some gasPrice ∧
        params = handleLegacyBump prices cap data.speed gasPrice) := by
  unfold bumpPrices at hok
  dsimp only at hok
  split at hok
  · rename_i maxFee maxPriority hfee hpriority
    exact Or.inl ⟨maxFee, maxPriority, _, hfee, hpriority, (Except.ok.inj hok).symm⟩
  · rename_i gasPrice _ _ hgas
    exact Or.inr ⟨gasPrice, _, hgas, (Except.ok.inj hok).symm⟩
  · cases hok

/-! ## Well-formed prices -/

/-- The recommended maximum fee of a resubmission fits into 128 bits at every step. -/
def NoOverflow (baseFee maxPriorityFee : ℕ) : Prop :=
  baseFee * calculator.getBaseFeeMultiplier < 2 ^ 128 ∧
    baseFee * calculator.getBaseFeeMultiplier / precision + maxPriorityFee < 2 ^ 128

theorem le_calculateMaxFeePerGas {calculator : PriceCalculator} {baseFee maxPriorityFee : ℕ}
    (hfits : calculator.NoOverflow baseFee maxPriorityFee) :
    maxPriorityFee ≤ calculator.calculateMaxFeePerGas baseFee maxPriorityFee := by
  unfold calculateMaxFeePerGas
  rw [Nat.mod_eq_of_lt hfits.1, Nat.mod_eq_of_lt hfits.2]
  exact Nat.le_add_left _ _

/-- The priority fee and the maximum fee are capped apart, and the maximum fee was computed
from the priority fee. -/
theorem priorityWithinMaxFee_handleEip1559Bump {calculator : PriceCalculator}
    {prices : GasPrices} {cap : ℕ} {speed : Option Speed} {maxFee maxPriority : ℕ}
    (hfits : calculator.NoOverflow prices.baseFeePerGas
      (bumpedPriorityFee prices speed maxPriority)) :
    PriorityWithinMaxFee
      (calculator.handleEip1559Bump prices cap speed maxFee maxPriority) := by
  apply priorityWithinMaxFee_eip1559Params
  exact min_le_min_right cap ((le_calculateMaxFeePerGas hfits).trans (le_max_right _ _))

variable (data : EvmTransactionData) (policy : RelayerEvmPolicy)

theorem getTransactionPriceParams_wellFormed {calculator : PriceCalculator}
    {data : EvmTransactionData} {policy : RelayerEvmPolicy} {params : PriceParams}
    (hok : calculator.getTransactionPriceParams data policy = .ok params) :
    OneFamily params ∧ PriorityWithinMaxFee params ∧ WithinCap (gasPriceCap policy) params := by
  rw [getTransactionPriceParams_eq] at hok
  obtain ⟨settled, -, rfl⟩ := exists_of_map_eq_ok hok
  rw [oneFamily_withTotalCost, priorityWithinMaxFee_withTotalCost, withinCap_withTotalCost]
  exact ⟨oneFamily_applyGasPriceCapAndConstraints policy settled,
    priorityWithinMaxFee_applyGasPriceCapAndConstraints policy settled,
    withinCap_applyGasPriceCapAndConstraints policy settled⟩

/-- Every priced transaction has the prices of one family, with a priority fee that the
maximum fee covers; new ones stay within the cap as well. -/
theorem prices_wellFormed (hhandler : calculator.priceParamsHandler = none)
    (hfits : calculator.skipsBump = false → ∀ prices, calculator.prices = .ok prices →
      ∀ maxPriority ∈ data.maxPriorityFeePerGas,
        calculator.NoOverflow prices.baseFeePerGas
          (bumpedPriorityFee prices data.speed maxPriority)) :
    (∀ params, calculator.getTransactionPriceParams data policy = .ok params →
      OneFamily params ∧ PriorityWithinMaxFee params ∧
        WithinCap (gasPriceCap policy) params) ∧
    (∀ forceBump params,
      calculator.calculateBumpedGasPrice data policy forceBump = .ok params →
        OneFamily params ∧ PriorityWithinMaxFee params) := by
  constructor
  · intro params hok
    exact getTransactionPriceParams_wellFormed hok
  · intro forceBump params hok
    cases hmempool : calculator.skipsBump with
    | true =>
        rw [calculateBumpedGasPrice, hmempool] at hok
        obtain ⟨market, hmarket, hflag⟩ := bind_eq_ok.mp hok
        obtain ⟨hfamily, hpriority, -⟩ := getTransactionPriceParams_wellFormed hmarket
        cases hflag
        exact ⟨hfamily, hpriority⟩
    | false =>
        rw [calculateBumpedGasPrice_eq hmempool] at hok
        obtain ⟨bumped, hbumped, hfinal⟩ := bind_eq_ok.mp hok
        obtain ⟨prices, hprices, hbump⟩ := bind_eq_ok.mp hbumped
        simp only [finalizePriceParams, hhandler] at hfinal
        obtain rfl := Except.ok.inj hfinal
        rw [oneFamily_withTotalCost, priorityWithinMaxFee_withTotalCost]
        rcases bumpPrices_ok hbump with
          ⟨maxFee, maxPriority, cap, -, hold, rfl⟩ | ⟨gasPrice, cap, -, rfl⟩
        · exact ⟨oneFamily_eip1559Params _ _ _,
            priorityWithinMaxFee_handleEip1559Bump (hfits hmempool prices hprices maxPriority hold)⟩
        · exact ⟨oneFamily_legacyParams _ _, priorityWithinMaxFee_legacyParams _ _⟩

end PriceCalculator

/-- A network with a mempool, where a fast transaction tips 2 over a base fee of 10. -/
def sampleCalculator (features : List String)
    (handler : Option (EvmTransactionData → PriceParams → Except TransactionError PriceParams)) :
    PriceCalculator where
  network := sampleNetwork features
  baseFeeGrowth _ := 2281000000
  prices := .ok ⟨⟨15, 18, 20, 25⟩, ⟨1, 1, 2, 3⟩, 10⟩
  legacyPrices := .ok ⟨15, 18, 20, 25⟩
  priceParamsHandler := handler

def samplePolicy (cap : Option ℕ) : RelayerEvmPolicy := ⟨none, none, cap, none, none, none, none⟩

/-- A transaction with prices of both fees, resubmitted at a price the cap allows. -/
def sampleEip1559 : EvmTransactionData :=
  { EvmReplacement.sampleData with
    gasPrice := none
    maxFeePerGas := some 30
    maxPriorityFeePerGas := some 2 }

theorem prices_wellFormed_sampleEip1559 :
    ∃ params, (sampleCalculator ["eip1559"] none).calculateBumpedGasPrice sampleEip1559
        (samplePolicy (some 100)) false = .ok params ∧
      params.maxFeePerGas = some 33 ∧ OneFamily params ∧ PriorityWithinMaxFee params := by
  refine ⟨_, rfl, by decide, ?_⟩
  exact (PriceCalculator.prices_wellFormed (sampleCalculator ["eip1559"] none) sampleEip1559
    (samplePolicy (some 100)) rfl
    (by rintro _ _ ⟨⟩ _ ⟨⟩; unfold PriceCalculator.NoOverflow; decide)).2 false _ rfl

/-! ## The flag of a resubmission -/

/-- Each price is at least the smallest bump of the old price that it takes the place of. -/
def MeetsMinBump (old : EvmTransactionData) (params : PriceParams) : Prop :=
  (∀ price ∈ params.gasPrice, ∀ oldPrice ∈ old.gasPrice, calculateMinBump oldPrice ≤ price) ∧
  (∀ price ∈ params.maxFeePerGas, ∀ oldPrice ∈ old.maxFeePerGas,
    calculateMinBump oldPrice ≤ price) ∧
  ∀ price ∈ params.maxPriorityFeePerGas, ∀ oldPrice ∈ old.maxPriorityFeePerGas,
    calculateMinBump oldPrice ≤ price

instance (old : EvmTransactionData) (params : PriceParams) :
    Decidable (MeetsMinBump old params) := by
  unfold MeetsMinBump
  infer_instance

theorem meetsMinBump_withTotalCost (old data : EvmTransactionData) (params : PriceParams) :
    MeetsMinBump old (withTotalCost data params) ↔ MeetsMinBump old params := by
  simp [MeetsMinBump]

/-- Prices that stay a bump once they are capped: they and the cap are large enough, and the
maximum fee leaves room for the bump of the priority fee. -/
def SurvivesCap (cap : ℕ) (old : EvmTransactionData) (params : PriceParams) : Prop :=
  match params.maxFeePerGas, params.maxPriorityFeePerGas with
  | some maxFee, some maxPriority =>
      (∀ oldFee ∈ old.maxFeePerGas,
        calculateMinBump oldFee ≤ maxFee ∧ calculateMinBump oldFee ≤ cap) ∧
      ∀ oldPriority ∈ old.maxPriorityFeePerGas,
        calculateMinBump oldPriority ≤ maxPriority ∧ calculateMinBump oldPriority ≤ maxFee ∧
          calculateMinBump oldPriority ≤ cap
  | _, _ =>
      ∀ oldPrice ∈ old.gasPrice,
        calculateMinBump oldPrice ≤ params.gasPrice.getD 0 ∧ calculateMinBump oldPrice ≤ cap

theorem meetsMinBump_applyGasPriceCapAndConstraints (policy : RelayerEvmPolicy)
    (old : EvmTransactionData) (params : PriceParams) :
    MeetsMinBump old (applyGasPriceCapAndConstraints policy params) ↔
      SurvivesCap (gasPriceCap policy) old params := by
  rcases applyGasPriceCapAndConstraints_cases policy params with
    ⟨maxFee, maxPriority, hfee, hpriority, heq⟩ | ⟨hmissing, heq⟩
  · rw [heq]
    simp [MeetsMinBump, SurvivesCap, hfee, hpriority]
  · have hsurvives : SurvivesCap (gasPriceCap policy) old params ↔
        ∀ oldPrice ∈ old.gasPrice, calculateMinBump oldPrice ≤ params.gasPrice.getD 0 ∧
          calculateMinBump oldPrice ≤ gasPriceCap policy := by
      unfold SurvivesCap
      rcases hmissing with hnone | hnone
      · rw [hnone]
      · rw [hnone]
        cases params.maxFeePerGas <;> rfl
    rw [heq, hsurvives]
    simp [MeetsMinBump]

namespace PriceCalculator

variable (calculator : PriceCalculator) (data : EvmTransactionData) (policy : RelayerEvmPolicy)
  (forceBump : Bool)

/-- The flag says what the prices are. -/
def TruthfulFlag : Prop :=
  ∀ params, calculator.calculateBumpedGasPrice data policy forceBump = .ok params →
    params.isMinBumped = some true → MeetsMinBump data params

/-- What the chain's handler answers to the prices of the resubmission, if it has a say. -/
def handlerAnswer : Option PriceParams :=
  match calculator.priceParamsHandler,
    calculator.prices >>= calculator.bumpPrices data policy forceBump with
  | some handlePriceParams, .ok bumped => (handlePriceParams data bumped).toOption
  | _, _ => none

theorem handlerAnswer_eq_some {calculator : PriceCalculator} {data : EvmTransactionData}
    {policy : RelayerEvmPolicy} {forceBump : Bool} {handled : PriceParams} :
    calculator.handlerAnswer data policy forceBump = some handled ↔
      ∃ handlePriceParams bumped, calculator.priceParamsHandler = some handlePriceParams ∧
        calculator.prices >>= calculator.bumpPrices data policy forceBump = .ok bumped ∧
        handlePriceParams data bumped = .ok handled := by
  unfold handlerAnswer
  constructor
  · intro hanswer
    split at hanswer
    · rename_i handlePriceParams bumped hhandler hbumped
      exact ⟨handlePriceParams, bumped, hhandler, hbumped, ok_of_toOption hanswer⟩
    · cases hanswer
  · rintro ⟨handlePriceParams, bumped, hhandler, hbumped, hhandled⟩
    rw [hhandler, hbumped]
    dsimp only
    rw [hhandled]
    rfl

/-- Arbitrum is among the networks without a mempool. -/
theorem skipsBump_eq : calculator.skipsBump = calculator.network.lacksMempool := by
  unfold skipsBump
  cases hmempool : calculator.network.lacksMempool with
  | true => rfl
  | false =>
      have hno : calculator.network.isArbitrum = false := by
        rw [EvmNetwork.lacksMempool, List.any_eq_false] at hmempool
        rw [EvmNetwork.isArbitrum]
        apply Bool.eq_false_iff.mpr
        intro hcontains
        exact hmempool "arbitrum-based" (List.contains_iff_mem.mp hcontains) (by decide)
      rw [hno]
      rfl

/-- The flag is computed from the prices before the handler. -/
theorem meetsMinBump_of_bumpPrices {calculator : PriceCalculator} {data : EvmTransactionData}
    {policy : RelayerEvmPolicy} {forceBump : Bool} {prices : GasPrices} {params : PriceParams}
    (hok : calculator.bumpPrices data policy forceBump prices = .ok params)
    (hflag : params.isMinBumped = some true) : MeetsMinBump data params := by
  rcases bumpPrices_ok hok with
    ⟨maxFee, maxPriority, cap, hfee, hpriority, rfl⟩ | ⟨gasPrice, cap, hgas, rfl⟩
  · have hbumps := Option.some.inj hflag
    rw [Bool.and_eq_true, decide_eq_true_iff, decide_eq_true_iff] at hbumps
    refine ⟨fun _ hnone => (nomatch hnone), ?_, ?_⟩
    · rintro _ ⟨⟩ oldFee hold
      obtain rfl := Option.some.inj (hfee.symm.trans hold)
      exact hbumps.2
    · rintro _ ⟨⟩ oldPriority hold
      obtain rfl := Option.some.inj (hpriority.symm.trans hold)
      exact hbumps.1
  · refine ⟨?_, fun _ hnone => (nomatch hnone), fun _ hnone => (nomatch hnone)⟩
    rintro _ ⟨⟩ oldPrice hold
    obtain rfl := Option.some.inj (hgas.symm.trans hold)
    exact of_decide_eq_true (Option.some.inj hflag)

/-- On a network with a mempool the flag is truthful unless the chain's handler answered with
a flag that its prices, or the cap that is applied to them, do not bear out. -/
theorem truthfulFlag_iff (hmempool : calculator.network.lacksMempool = false) :
    calculator.TruthfulFlag data policy forceBump ↔
      ∀ handled ∈ calculator.handlerAnswer data policy forceBump,
        handled.isMinBumped = some true → SurvivesCap (gasPriceCap policy) data handled := by
  have hskips : calculator.skipsBump = false := by rw [skipsBump_eq, hmempool]
  constructor
  · intro htruthful handled hanswer hflag
    obtain ⟨handlePriceParams, bumped, hhandler, hbumped, hhandled⟩ :=
      handlerAnswer_eq_some.mp hanswer
    have hresult : calculator.calculateBumpedGasPrice data policy forceBump =
        .ok (withTotalCost data (applyGasPriceCapAndConstraints policy handled)) := by
      rw [calculateBumpedGasPrice_eq hskips, hbumped]
      change calculator.finalizePriceParams policy data bumped = _
      simp only [finalizePriceParams, hhandler, hhandled]
      rfl
    have hmeets := htruthful _ hresult (by simpa using hflag)
    rwa [meetsMinBump_withTotalCost, meetsMinBump_applyGasPriceCapAndConstraints] at hmeets
  · intro hcondition params hok hflag
    rw [calculateBumpedGasPrice_eq hskips] at hok
    obtain ⟨bumped, hbumped, hfinal⟩ := bind_eq_ok.mp hok
    unfold finalizePriceParams at hfinal
    split at hfinal
    · obtain rfl := Except.ok.inj hfinal
      obtain ⟨prices, -, hbump⟩ := bind_eq_ok.mp hbumped
      rw [withTotalCost_isMinBumped] at hflag
      rw [meetsMinBump_withTotalCost]
      exact meetsMinBump_of_bumpPrices hbump hflag
    · rename_i handlePriceParams hhandler
      obtain ⟨handled, hhandled, hrest⟩ := bind_eq_ok.mp hfinal
      obtain rfl := Except.ok.inj hrest
      rw [meetsMinBump_withTotalCost, meetsMinBump_applyGasPriceCapAndConstraints]
      apply hcondition handled (handlerAnswer_eq_some.mpr
        ⟨handlePriceParams, bumped, hhandler, hbumped, hhandled⟩)
      simpa using hflag

end PriceCalculator

/-- The handler of Polygon zkEVM: the chain's own estimate becomes the total cost, and
nothing changes where the chain has no such estimate. -/
def polygonZkEvmHandler (zkevmEstimateFee : Except String (Option ℕ))
    (_ : EvmTransactionData) (params : PriceParams) : Except TransactionError PriceParams :=
  match zkevmEstimateFee with
  | .error e => .error (.unexpectedError s!"Failed to estimate zkEVM fee: {e}")
  | .ok none => .ok params
  | .ok (some fee) => .ok { params with totalCost := fee }

/-- A legacy transaction resubmitted under a cap that leaves room for the bump. -/
theorem truthfulFlag_roomy_cap :
    (sampleCalculator [] (some (polygonZkEvmHandler (.ok none)))).TruthfulFlag
      EvmReplacement.sampleData (samplePolicy (some 100)) true := by
  apply (PriceCalculator.truthfulFlag_iff _ _ _ _ rfl).mpr
  intro handled hanswer _
  have hhandled : handled = legacyParams 20 (some true) :=
    Option.some.inj (hanswer.symm.trans (by decide))
  rw [hhandled]
  rintro _ ⟨⟩
  decide

/-- A forced bump ignores the cap at first, and keeps its flag when the cap is applied again
after the handler. -/
theorem forced_bump_recapped :
    ¬ (sampleCalculator [] (some (polygonZkEvmHandler (.ok none)))).TruthfulFlag
      EvmReplacement.sampleData (samplePolicy (some 10)) true := by
  intro htruthful
  have hmeets := htruthful ⟨some 10, none, none, some true, none, 210000⟩ (by decide) rfl
  revert hmeets
  decide

end Relayer.EvmPriceCalculator
