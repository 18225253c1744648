import Relayer.Models.Transaction

/-!
# EVM transaction data and replacement pricing

The data an EVM transaction carries, and how the price of a replacement is
chosen: explicit prices are checked against the gas price cap and the minimum
bump of the old price, and market prices are raised to that bump.  Prices are
natural numbers below `2^128`, with the saturating arithmetic of the source.
-/

namespace Relayer.EvmPricing

open Relayer.Transaction

structure EvmNetwork where
  network : String
  averageBlocktimeMs : ℕ
  tags : List String
  chainId : ℕ
  requiredConfirmations : UInt64
  statusCheckInitialDelaySeconds : UInt64
  statusCheckRetryDelaySeconds : UInt64
  features : List String
  deriving DecidableEq, Repr

def lacksMempoolTags : List String :=
  ["no-mempool", "arbitrum-based", "optimism-based", "optimism"]

namespace EvmNetwork

variable (network : EvmNetwork)

def isArbitrum : Bool := network.tags.contains "arbitrum-based"

def isRollup : Bool := network.tags.contains "rollup"

def lacksMempool : Bool := network.tags.any lacksMempoolTags.contains

def isLegacy : Bool := !network.features.contains "eip1559"

end EvmNetwork

def sampleNetwork (features : List String) : EvmNetwork :=
  ⟨"mainnet", 12000, [], 1, 12, 8, 8, features⟩

inductive Speed where
  | fastest
  | fast
  | average
  | safeLow
  deriving DecidableEq, Repr

structure EvmTransactionDataSignature where
  r : String
  s : String
  v : UInt8
  sig : String
  deriving DecidableEq, Repr

structure EvmTransactionData where
  gasPrice : Option ℕ
  gasLimit : Option ℕ
  nonce : Option ℕ
  value : ℕ
  data : Option String
  «from» : String
  «to» : Option String
  chainId : ℕ
  hash : Option String
  signature : Option EvmTransactionDataSignature
  speed : Option Speed
  maxFeePerGas : Option ℕ
  maxPriorityFeePerGas : Option ℕ
  raw : Option (List UInt8)
  deriving DecidableEq, Repr

structure EvmTransactionRequest where
  «to» : Option String
  value : ℕ
  data : Option String
  gasLimit : Option ℕ
  gasPrice : Option ℕ
  speed : Option Speed
  maxFeePerGas : Option ℕ
  maxPriorityFeePerGas : Option ℕ
  validUntil : Option String
  deriving DecidableEq, Repr

structure RelayerEvmPolicy where
  minBalance : Option ℕ
  gasLimitEstimation : Option Bool
  gasPriceCap : Option ℕ
  whitelistReceivers : Option (List String)
  eip1559Pricing : Option Bool
  privateTransactions : Option Bool
  includeRevertData : Option Bool
  deriving DecidableEq, Repr

structure PriceParams where
  gasPrice : Option ℕ
  maxFeePerGas : Option ℕ
  maxPriorityFeePerGas : Option ℕ
  isMinBumped : Option Bool
  extraFee : Option ℕ
  totalCost : ℕ
  deriving DecidableEq, Repr

def defaultTransactionSpeed : Speed := .fast
def defaultGasLimit : ℕ := 21000
def defaultEvmGasPriceCap : ℕ := 100000000000
def defaultEvmMinBalance : ℕ := 1

namespace EvmTransactionData

def isLegacy (data : EvmTransactionData) : Bool := data.gasPrice.isSome

def isEip1559 (data : EvmTransactionData) : Bool :=
  data.maxFeePerGas.isSome && data.maxPriorityFeePerGas.isSome

/-- Keeps chain, sender and nonce of the old transaction and takes the rest from
the request; pricing and signing fields are cleared. -/
def forReplacement (oldData : EvmTransactionData) (request : EvmTransactionRequest) :
    EvmTransactionData where
  chainId := oldData.chainId
  «from» := oldData.«from»
  nonce := oldData.nonce
  «to» := request.«to»
  value := request.value
  data := request.data
  gasLimit := request.gasLimit
  speed := (request.speed.or oldData.speed).or (some defaultTransactionSpeed)
  gasPrice := none
  maxFeePerGas := none
  maxPriorityFeePerGas := none
  signature := none
  hash := none
  raw := none

def withPriceParams (data : EvmTransactionData) (params : PriceParams) :
    EvmTransactionData :=
  { data with
    gasPrice := params.gasPrice
    maxFeePerGas := params.maxFeePerGas
    maxPriorityFeePerGas := params.maxPriorityFeePerGas }

end EvmTransactionData

/-- 256-bit wrapping arithmetic of the cost in wei. -/
def PriceParams.calculateTotalCost (params : PriceParams) (isEip1559 : Bool)
    (gasLimit value : ℕ) : ℕ :=
  let price :=
    if isEip1559 then params.maxFeePerGas.getD 0 else params.gasPrice.getD 0
  (price * gasLimit + value + params.extraFee.getD 0) % 2 ^ 256

def u128Max : ℕ := 2 ^ 128 - 1

/-- The smallest price that replaces `basePrice`: 110% of it, and more than it. -/
def calculateMinBump (basePrice : ℕ) : ℕ :=
  let bumpedPrice := min (basePrice * 11) u128Max / 10
  max bumpedPrice (min (basePrice + 1) u128Max)

/-! ## Replacement pricing -/

def hasExplicitPrices (data : EvmTransactionData) : Bool :=
  data.gasPrice.isSome || data.maxFeePerGas.isSome || data.maxPriorityFeePerGas.isSome

def checkTransactionCompatibility (oldData newData : EvmTransactionData) :
    Except TransactionError Unit :=
  if !hasExplicitPrices newData then .ok ()
  else if oldData.isLegacy && newData.isEip1559 then
    .error (.validationError "Cannot replace legacy transaction with EIP1559 transaction")
  else if !oldData.isLegacy && newData.isLegacy then
    .error (.validationError "Cannot replace EIP1559 transaction with legacy transaction")
  else .ok ()

def partialEip1559Error : TransactionError :=
  .validationError ("Partial EIP1559 transaction: both max_fee_per_gas and " ++
    "max_priority_fee_per_gas must be provided together")

def insufficientBumpError : TransactionError :=
  .validationError "Gas price increase does not meet minimum bump requirement"

def validatePriceBumpRequirements (oldData newData : EvmTransactionData) :
    Except TransactionError Unit :=
  if !newData.isLegacy && !newData.isEip1559 then
    .error (.validationError "New transaction must have pricing data")
  else if !newData.isLegacy &&
      newData.maxFeePerGas.isSome != newData.maxPriorityFeePerGas.isSome then
    .error partialEip1559Error
  -- an old transaction without prices accepts any new ones
  else if !oldData.isLegacy && !oldData.isEip1559 then .ok ()
  else match oldData.gasPrice, newData.gasPrice with
    | some oldGasPrice, some newGasPrice =>
        if calculateMinBump oldGasPrice ≤ newGasPrice then .ok ()
        else .error insufficientBumpError
    | _, _ =>
        match oldData.maxFeePerGas, newData.maxFeePerGas,
          oldData.maxPriorityFeePerGas, newData.maxPriorityFeePerGas with
        | some oldMaxFee, some newMaxFee, some oldPriority, some newPriority =>
            if calculateMinBump oldMaxFee ≤ newMaxFee ∧
                calculateMinBump oldPriority ≤ newPriority then .ok ()
            else .error insufficientBumpError
        | _, _, _, _ => .error partialEip1559Error

/-- `Some(price)` above the cap. -/
def exceedsCap (price : Option ℕ) (gasPriceCap : ℕ) : Bool :=
  price.any (gasPriceCap < ·)

def explicitPriceParams (newData : EvmTransactionData) : PriceParams where
  gasPrice := newData.gasPrice
  maxFeePerGas := newData.maxFeePerGas
  maxPriorityFeePerGas := newData.maxPriorityFeePerGas
  isMinBumped := none
  extraFee := none
  totalCost := 0

def priorityExceedsMaxFee (params : PriceParams) : Bool :=
  match params.maxFeePerGas, params.maxPriorityFeePerGas with
  | some maxFee, some maxPriority => maxFee < maxPriority
  | _, _ => false

def validateExplicitPriceBump (oldData newData : EvmTransactionData)
    (policy : RelayerEvmPolicy) (networkLacksMempool : Bool) :
    Except TransactionError PriceParams := do
  let params := explicitPriceParams newData
  let gasPriceCap := policy.gasPriceCap.getD defaultEvmGasPriceCap
  if exceedsCap newData.gasPrice gasPriceCap then
    let gasPrice := newData.gasPrice.getD 0
    throw (.validationError s!"Gas price {gasPrice} exceeds gas price cap {gasPriceCap}")
  if exceedsCap newData.maxFeePerGas gasPriceCap then
    let maxFee := newData.maxFeePerGas.getD 0
    throw (.validationError s!"Max fee per gas {maxFee} exceeds gas price cap {gasPriceCap}")
  if params.maxFeePerGas.isSome != params.maxPriorityFeePerGas.isSome then
    throw partialEip1559Error
  if !networkLacksMempool then
    validatePriceBumpRequirements oldData newData
  if priorityExceedsMaxFee params then
    throw (.validationError "Max priority fee cannot exceed max fee per gas")
  let totalCost := params.calculateTotalCost params.maxFeePerGas.isSome
    (oldData.gasLimit.getD defaultGasLimit) newData.value
  return { params with totalCost := totalCost, isMinBumped := some true }

/-- The market price raised to the minimum bump of the old price. -/
def bumpMarketPrice (oldData : EvmTransactionData) (policy : RelayerEvmPolicy)
    (networkLacksMempool : Bool) (params : PriceParams) :
    Except TransactionError PriceParams :=
  let useLegacy := oldData.isLegacy || policy.eip1559Pricing == some false
  let noBump : Except TransactionError PriceParams := .error (.validationError
    "Unable to calculate sufficient price bump for speed-based replacement")
  if networkLacksMempool then .ok { params with isMinBumped := some true }
  else if useLegacy then
    match oldData.gasPrice, params.gasPrice with
    | some oldGasPrice, some newGasPrice =>
        .ok { params with
          gasPrice := some (max newGasPrice (calculateMinBump oldGasPrice))
          isMinBumped := some true }
    | _, _ => noBump
  else
    match oldData.maxFeePerGas, params.maxFeePerGas, oldData.maxPriorityFeePerGas,
      params.maxPriorityFeePerGas with
    | some oldMaxFee, some newMaxFee, some oldPriority, some newPriority =>
        .ok { params with
          maxFeePerGas := some (max newMaxFee (calculateMinBump oldMaxFee))
          maxPriorityFeePerGas := some (max newPriority (calculateMinBump oldPriority))
          isMinBumped := some true }
    | _, _, _, _ => noBump

end Relayer.EvmPricing
