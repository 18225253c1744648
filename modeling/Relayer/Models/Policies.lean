import Relayer.Core.Numbers

/-!
# Relayer policies and their documents

The policies of the three networks with every field they have, and how each of
them is written to a document and read from one.  A policy is read twice when it
is updated: on its own, and as a variant of the relayer's policies, told apart
by its `network_type`.  Variants are buffered before they are read, which admits
a few more documents.
-/

namespace Relayer.Policies

open Relayer.Json
open Relayer.Numbers

variable {A : Type}

inductive RelayerNetworkType where
  | evm
  | solana
  | stellar
  deriving DecidableEq, Repr

namespace RelayerNetworkType

def toText : RelayerNetworkType → String
  | evm => "evm"
  | solana => "solana"
  | stellar => "stellar"

def parse (text : String) : Option RelayerNetworkType :=
  if text = "evm" then some evm
  else if text = "solana" then some solana
  else if text = "stellar" then some stellar
  else none

theorem parse_toText (networkType : RelayerNetworkType) :
    parse networkType.toText = some networkType := by
  cases networkType <;> rfl

end RelayerNetworkType

/-! ## EVM -/

structure RelayerEvmPolicy where
  minBalance : Option (BitVec 128)
  gasLimitEstimation : Option Bool
  gasPriceCap : Option (BitVec 128)
  whitelistReceivers : Option (List String)
  eip1559Pricing : Option Bool
  privateTransactions : Option Bool
  includeRevertData : Option Bool
  deriving DecidableEq

def RelayerEvmPolicy.default : RelayerEvmPolicy := ⟨none, none, none, none, none, none, none⟩

/-- An optional field that is left out when it is empty. -/
abbrev skipped (key : String) (codec : Codec Number A)
    (hplain : ∀ value, (codec.encode value).isObject = false := by exact fun _ => rfl) :
    Field Number (Option A) :=
  .optional key codec true hplain

/-- An optional field that is null when it is empty. -/
abbrev nullable (key : String) (codec : Codec Number A)
    (hplain : ∀ value, (codec.encode value).isObject = false := by exact fun _ => rfl) :
    Field Number (Option A) :=
  .optional key codec false hplain

def relayerEvmPolicy : Struct Number RelayerEvmPolicy where
  Row := _
  fields :=
    .cons (skipped "min_balance" u128) <|
    .cons (skipped "gas_limit_estimation" .bool) <|
    .cons (skipped "gas_price_cap" u128) <|
    .cons (skipped "whitelist_receivers" (.list .string)) <|
    .cons (skipped "eip1559_pricing" .bool) <|
    .cons (skipped "private_transactions" .bool) <|
    .cons (skipped "include_revert_data" .bool) .nil
  row :=
    { toFun := fun policy =>
        (policy.minBalance, policy.gasLimitEstimation, policy.gasPriceCap,
          policy.whitelistReceivers, policy.eip1559Pricing, policy.privateTransactions,
          policy.includeRevertData, ())
      invFun := fun (a, b, c, d, e, f, g, ()) => ⟨a, b, c, d, e, f, g⟩
      left_inv := fun _ => rfl
      right_inv := fun _ => rfl }
  denyUnknown := true
  nodup := by decide

/-! ## Solana -/

structure SolanaAllowedTokensSwapConfig where
  slippagePercentage : Option (Value single)
  minAmount : Option UInt64
  maxAmount : Option UInt64
  retainMinAmount : Option UInt64
  deriving DecidableEq

structure SolanaAllowedTokensPolicy where
  mint : String
  decimals : Option UInt8
  symbol : Option String
  maxAllowedFee : Option UInt64
  swapConfig : Option SolanaAllowedTokensSwapConfig
  deriving DecidableEq

inductive SolanaFeePaymentStrategy where
  | user
  | relayer
  deriving DecidableEq, Repr

inductive SolanaSwapStrategy where
  | jupiterSwap
  | jupiterUltra
  | noop
  deriving DecidableEq, Repr

structure JupiterSwapOptions where
  priorityFeeMaxLamports : Option UInt64
  priorityLevel : Option String
  dynamicComputeUnitLimit : Option Bool
  deriving DecidableEq

structure RelayerSolanaSwapConfig where
  strategy : Option SolanaSwapStrategy
  cronSchedule : Option String
  minBalanceThreshold : Option UInt64
  jupiterSwapOptions : Option JupiterSwapOptions
  deriving DecidableEq

structure RelayerSolanaPolicy where
  allowedPrograms : Option (List String)
  maxSignatures : Option UInt8
  maxTxDataSize : Option UInt16
  minBalance : Option UInt64
  allowedTokens : Option (List SolanaAllowedTokensPolicy)
  feePaymentStrategy : Option SolanaFeePaymentStrategy
  feeMarginPercentage : Option (Value single)
  allowedAccounts : Option (List String)
  disallowedAccounts : Option (List String)
  maxAllowedFeeLamports : Option UInt64
  swapConfig : Option RelayerSolanaSwapConfig
  deriving DecidableEq

def RelayerSolanaPolicy.default : RelayerSolanaPolicy :=
  ⟨none, none, none, none, none, none, none, none, none, none, none⟩

def solanaFeePaymentStrategy (buffered : Bool) : Codec Number SolanaFeePaymentStrategy :=
  .variants buffered
    (fun
      | .user => "user"
      | .relayer => "relayer")
    (fun text =>
      if text = "user" then some .user else if text = "relayer" then some .relayer else none)
    fun strategy => by cases strategy <;> rfl

def solanaSwapStrategy (buffered : Bool) : Codec Number SolanaSwapStrategy :=
  .variants buffered
    (fun
      | .jupiterSwap => "jupiter-swap"
      | .jupiterUltra => "jupiter-ultra"
      | .noop => "noop")
    (fun text =>
      if text = "jupiter-swap" then some .jupiterSwap
      else if text = "jupiter-ultra" then some .jupiterUltra
      else if text = "noop" then some .noop
      else none)
    fun strategy => by cases strategy <;> rfl

def solanaAllowedTokensSwapConfig : Struct Number SolanaAllowedTokensSwapConfig where
  Row := _
  fields :=
    .cons (nullable "slippage_percentage" singleCodec isObject_encodeSingle) <|
    .cons (nullable "min_amount" u64) <|
    .cons (nullable "max_amount" u64) <|
    .cons (nullable "retain_min_amount" u64) .nil
  row :=
    { toFun := fun config =>
        (config.slippagePercentage, config.minAmount, config.maxAmount,
          config.retainMinAmount, ())
      invFun := fun (a, b, c, d, ()) => ⟨a, b, c, d⟩
      left_inv := fun _ => rfl
      right_inv := fun _ => rfl }
  denyUnknown := true
  nodup := by decide

def solanaAllowedTokensPolicy : Struct Number SolanaAllowedTokensPolicy where
  Row := _
  fields :=
    .cons (.required "mint" .string fun _ => rfl) <|
    .cons (skipped "decimals" u8) <|
    .cons (skipped "symbol" .string) <|
    .cons (skipped "max_allowed_fee" u64) <|
    .cons (.nested "swap_config" solanaAllowedTokensSwapConfig.patchable true) .nil
  row :=
    { toFun := fun token =>
        (token.mint, token.decimals, token.symbol, token.maxAllowedFee, token.swapConfig, ())
      invFun := fun (a, b, c, d, e, ()) => ⟨a, b, c, d, e⟩
      left_inv := fun _ => rfl
      right_inv := fun _ => rfl }
  denyUnknown := true
  nodup := by decide

def jupiterSwapOptions : Struct Number JupiterSwapOptions where
  Row := _
  fields :=
    .cons (nullable "priority_fee_max_lamports" u64) <|
    .cons (nullable "priority_level" .string) <|
    .cons (nullable "dynamic_compute_unit_limit" .bool) .nil
  row :=
    { toFun := fun options =>
        (options.priorityFeeMaxLamports, options.priorityLevel,
          options.dynamicComputeUnitLimit, ())
      invFun := fun (a, b, c, ()) => ⟨a, b, c⟩
      left_inv := fun _ => rfl
      right_inv := fun _ => rfl }
  denyUnknown := true
  nodup := by decide

def relayerSolanaSwapConfig (buffered : Bool) : Struct Number RelayerSolanaSwapConfig where
  Row := _
  fields :=
    .cons (nullable "strategy" (solanaSwapStrategy buffered)) <|
    .cons (nullable "cron_schedule" .string) <|
    .cons (nullable "min_balance_threshold" u64) <|
    .cons (.nested "jupiter_swap_options" jupiterSwapOptions.patchable false) .nil
  row :=
    { toFun := fun config =>
        (config.strategy, config.cronSchedule, config.minBalanceThreshold,
          config.jupiterSwapOptions, ())
      invFun := fun (a, b, c, d, ()) => ⟨a, b, c, d⟩
      left_inv := fun _ => rfl
      right_inv := fun _ => rfl }
  denyUnknown := true
  nodup := by cases buffered <;> decide

def relayerSolanaPolicy (buffered : Bool) : Struct Number RelayerSolanaPolicy where
  Row := _
  fields :=
    .cons (skipped "allowed_programs" (.list .string)) <|
    .cons (skipped "max_signatures" u8) <|
    .cons (skipped "max_tx_data_size" u16) <|
    .cons (skipped "min_balance" u64) <|
    .cons (skipped "allowed_tokens" (.list solanaAllowedTokensPolicy.codec)) <|
    .cons (skipped "fee_payment_strategy" (solanaFeePaymentStrategy buffered)) <|
    .cons (skipped "fee_margin_percentage" singleCodec isObject_encodeSingle) <|
    .cons (skipped "allowed_accounts" (.list .string)) <|
    .cons (skipped "disallowed_accounts" (.list .string)) <|
    .cons (skipped "max_allowed_fee_lamports" u64) <|
    .cons (.nested "swap_config" (relayerSolanaSwapConfig buffered).patchable true) .nil
  row :=
    { toFun := fun policy =>
        (policy.allowedPrograms, policy.maxSignatures, policy.maxTxDataSize,
          policy.minBalance, policy.allowedTokens, policy.feePaymentStrategy,
          policy.feeMarginPercentage, policy.allowedAccounts, policy.disallowedAccounts,
          policy.maxAllowedFeeLamports, policy.swapConfig, ())
      invFun := fun (a, b, c, d, e, f, g, h, i, j, k, ()) => ⟨a, b, c, d, e, f, g, h, i, j, k⟩
      left_inv := fun _ => rfl
      right_inv := fun _ => rfl }
  denyUnknown := true
  nodup := by cases buffered <;> decide

/-! ## Stellar -/

structure StellarAllowedTokensSwapConfig where
  slippagePercentage : Option (Value single)
  minAmount : Option UInt64
  maxAmount : Option UInt64
  retainMinAmount : Option UInt64
  deriving DecidableEq

inductive StellarTokenKind where
  | native
  | classic (code issuer : String)
  | contract (contractId : String)
  deriving DecidableEq, Repr

structure StellarTokenMetadata where
  kind : StellarTokenKind
  decimals : UInt32
  canonicalAssetId : String
  deriving DecidableEq

structure StellarAllowedTokensPolicy where
  asset : String
  metadata : Option StellarTokenMetadata
  maxAllowedFee : Option UInt64
  swapConfig : Option StellarAllowedTokensSwapConfig
  deriving DecidableEq

inductive StellarFeePaymentStrategy where
  | user
  | relayer
  deriving DecidableEq, Repr

inductive StellarSwapStrategy where
  | orderBook
  | soroswap
  deriving DecidableEq, Repr

structure RelayerStellarSwapConfig where
  strategies : List StellarSwapStrategy
  cronSchedule : Option String
  minBalanceThreshold : Option UInt64
  deriving DecidableEq

structure RelayerStellarPolicy where
  minBalance : Option UInt64
  maxFee : Option UInt32
  timeoutSeconds : Option UInt64
  concurrentTransactions : Option Bool
  allowedTokens : Option (List StellarAllowedTokensPolicy)
  feePaymentStrategy : Option StellarFeePaymentStrategy
  slippagePercentage : Option (Value single)
  feeMarginPercentage : Option (Value single)
  swapConfig : Option RelayerStellarSwapConfig
  deriving DecidableEq

def RelayerStellarPolicy.default : RelayerStellarPolicy :=
  ⟨none, none, none, none, none, none, none, none, none⟩

def stellarFeePaymentStrategy (buffered : Bool) : Codec Number StellarFeePaymentStrategy :=
  .variants buffered
    (fun
      | .user => "user"
      | .relayer => "relayer")
    (fun text =>
      if text = "user" then some .user else if text = "relayer" then some .relayer else none)
    fun strategy => by cases strategy <;> rfl

def stellarSwapStrategy (buffered : Bool) : Codec Number StellarSwapStrategy :=
  .variants buffered
    (fun
      | .orderBook => "order-book"
      | .soroswap => "soroswap")
    (fun text =>
      if text = "order-book" then some .orderBook
      else if text = "soroswap" then some .soroswap
      else none)
    fun strategy => by cases strategy <;> rfl

def stellarAllowedTokensSwapConfig : Struct Number StellarAllowedTokensSwapConfig where
  Row := _
  fields :=
    .cons (nullable "slippage_percentage" singleCodec isObject_encodeSingle) <|
    .cons (nullable "min_amount" u64) <|
    .cons (nullable "max_amount" u64) <|
    .cons (nullable "retain_min_amount" u64) .nil
  row :=
    { toFun := fun config =>
        (config.slippagePercentage, config.minAmount, config.maxAmount,
          config.retainMinAmount, ())
      invFun := fun (a, b, c, d, ()) => ⟨a, b, c, d⟩
      left_inv := fun _ => rfl
      right_inv := fun _ => rfl }
  denyUnknown := true
  nodup := by decide

/-- The data of a classic asset. -/
def classicToken : Struct Number (String × String) where
  Row := _
  fields :=
    .cons (.required "code" .string fun _ => rfl) <|
    .cons (.required "issuer" .string fun _ => rfl) .nil
  row :=
    { toFun := fun (code, issuer) => (code, issuer, ())
      invFun := fun (code, issuer, ()) => (code, issuer)
      left_inv := fun _ => rfl
      right_inv := fun _ => rfl }
  denyUnknown := false
  nodup := by decide

/-- The data of a contract asset. -/
def contractToken : Struct Number String where
  Row := _
  fields := .cons (.required "contract_id" .string fun _ => rfl) .nil
  row :=
    { toFun := fun contractId => (contractId, ())
      invFun := fun (contractId, ()) => contractId
      left_inv := fun _ => rfl
      right_inv := fun _ => rfl }
  denyUnknown := false
  nodup := by decide

def encodeTokenKind : StellarTokenKind → Document Number
  | .native => .str "native"
  | .classic code issuer => .object [("classic", classicToken.encode (code, issuer))]
  | .contract contractId => .object [("contract", contractToken.encode contractId)]

/-- A kind is read from its name, or from an object with the name as its only key.  Data
may come as an array where it is buffered. -/
def decodeTokenKind (buffered : Bool) : Document Number → Option StellarTokenKind
  | .str text => if text = "native" then some .native else none
  | .obj keys value =>
      match keys.dedup with
      | [name] =>
          let data := value name
          if name = "native" then
            if data.isNull || (buffered && data.isEmptyObject) then some .native else none
          else if !buffered && !data.isObject then none
          else if name = "classic" then
            (classicToken.decode data).map fun (code, issuer) => .classic code issuer
          else if name = "contract" then (contractToken.decode data).map .contract
          else none
      | _ => none
  | _ => none

theorem decodeTokenKind_encodeTokenKind (buffered : Bool) (kind : StellarTokenKind) :
    decodeTokenKind buffered (encodeTokenKind kind) = some kind := by
  cases kind with
  | native => rfl
  | classic code issuer =>
      have hread : classicToken.decode (classicToken.encode (code, issuer)) =
          some (code, issuer) := by
        rw [Struct.decode_encode_iff]
        exact ⟨trivial, trivial, trivial⟩
      cases buffered <;>
        simp [decodeTokenKind, encodeTokenKind, Document.object, hread,
          Struct.isObject_encode]
  | contract contractId =>
      have hread : contractToken.decode (contractToken.encode contractId) =
          some contractId := by
        rw [Struct.decode_encode_iff]
        exact ⟨trivial, trivial⟩
      cases buffered <;>
        simp [decodeTokenKind, encodeTokenKind, Document.object, hread,
          Struct.isObject_encode]

def stellarTokenKind (buffered : Bool) : Codec Number StellarTokenKind :=
  .lossless encodeTokenKind (decodeTokenKind buffered) rfl
    (decodeTokenKind_encodeTokenKind buffered)

def stellarTokenMetadata (buffered : Bool) : Struct Number StellarTokenMetadata where
  Row := _
  fields :=
    .cons (.requiredWhole "kind" (stellarTokenKind buffered)) <|
    .cons (.required "decimals" u32 fun _ => rfl) <|
    .cons (.required "canonical_asset_id" .string fun _ => rfl) .nil
  row :=
    { toFun := fun metadata =>
        (metadata.kind, metadata.decimals, metadata.canonicalAssetId, ())
      invFun := fun (a, b, c, ()) => ⟨a, b, c⟩
      left_inv := fun _ => rfl
      right_inv := fun _ => rfl }
  denyUnknown := true
  nodup := by cases buffered <;> decide

def stellarAllowedTokensPolicy (buffered : Bool) :
    Struct Number StellarAllowedTokensPolicy where
  Row := _
  fields :=
    .cons (.required "asset" .string fun _ => rfl) <|
    .cons (.nested "metadata" (stellarTokenMetadata buffered).patchable true) <|
    .cons (skipped "max_allowed_fee" u64) <|
    .cons (.nested "swap_config" stellarAllowedTokensSwapConfig.patchable true) .nil
  row :=
    { toFun := fun token =>
        (token.asset, token.metadata, token.maxAllowedFee, token.swapConfig, ())
      invFun := fun (a, b, c, d, ()) => ⟨a, b, c, d⟩
      left_inv := fun _ => rfl
      right_inv := fun _ => rfl }
  denyUnknown := true
  nodup := by cases buffered <;> decide

def relayerStellarSwapConfig (buffered : Bool) : Struct Number RelayerStellarSwapConfig where
  Row := _
  fields :=
    .cons (.defaulted "strategies" (.list (stellarSwapStrategy buffered)) []
      (fun _ hvalue => nomatch hvalue) fun _ => rfl) <|
    .cons (nullable "cron_schedule" .string) <|
    .cons (nullable "min_balance_threshold" u64) .nil
  row :=
    { toFun := fun config =>
        (config.strategies, config.cronSchedule, config.minBalanceThreshold, ())
      invFun := fun (a, b, c, ()) => ⟨a, b, c⟩
      left_inv := fun _ => rfl
      right_inv := fun _ => rfl }
  denyUnknown := true
  nodup := by cases buffered <;> decide

def relayerStellarPolicy (buffered : Bool) : Struct Number RelayerStellarPolicy where
  Row := _
  fields :=
    .cons (skipped "min_balance" u64) <|
    .cons (skipped "max_fee" u32) <|
    .cons (skipped "timeout_seconds" u64) <|
    .cons (skipped "concurrent_transactions" .bool) <|
    .cons (skipped "allowed_tokens" (.list (stellarAllowedTokensPolicy buffered).codec)) <|
    .cons (skipped "fee_payment_strategy" (stellarFeePaymentStrategy buffered)) <|
    .cons (skipped "slippage_percentage" singleCodec isObject_encodeSingle) <|
    .cons (skipped "fee_margin_percentage" singleCodec isObject_encodeSingle) <|
    .cons (.nested "swap_config" (relayerStellarSwapConfig buffered).patchable true) .nil
  row :=
    { toFun := fun policy =>
        (policy.minBalance, policy.maxFee, policy.timeoutSeconds,
          policy.concurrentTransactions, policy.allowedTokens, policy.feePaymentStrategy,
          policy.slippagePercentage, policy.feeMarginPercentage, policy.swapConfig, ())
      invFun := fun (a, b, c, d, e, f, g, h, i, ()) => ⟨a, b, c, d, e, f, g, h, i⟩
      left_inv := fun _ => rfl
      right_inv := fun _ => rfl }
  denyUnknown := true
  nodup := by cases buffered <;> decide

/-! ## The policies of a relayer -/

inductive RelayerNetworkPolicy where
  | evm (policy : RelayerEvmPolicy)
  | solana (policy : RelayerSolanaPolicy)
  | stellar (policy : RelayerStellarPolicy)
  deriving DecidableEq

/-- The policy type of a network. -/
def PolicyOf : RelayerNetworkType → Type
  | .evm => RelayerEvmPolicy
  | .solana => RelayerSolanaPolicy
  | .stellar => RelayerStellarPolicy

namespace RelayerNetworkPolicy

def networkType : RelayerNetworkPolicy → RelayerNetworkType
  | .evm _ => .evm
  | .solana _ => .solana
  | .stellar _ => .stellar

/-- The default policy of a network. -/
def default : RelayerNetworkType → RelayerNetworkPolicy
  | .evm => .evm .default
  | .solana => .solana .default
  | .stellar => .stellar .default

def kinds : RelayerNetworkPolicy ≃ Σ networkType, PolicyOf networkType where
  toFun
    | .evm policy => ⟨.evm, policy⟩
    | .solana policy => ⟨.solana, policy⟩
    | .stellar policy => ⟨.stellar, policy⟩
  invFun
    | ⟨.evm, policy⟩ => .evm policy
    | ⟨.solana, policy⟩ => .solana policy
    | ⟨.stellar, policy⟩ => .stellar policy
  left_inv policy := by cases policy <;> rfl
  right_inv := by rintro ⟨networkType, policy⟩; cases networkType <;> rfl

end RelayerNetworkPolicy

/-- The record of a network's policy. -/
def policyStruct (buffered : Bool) :
    (networkType : RelayerNetworkType) → Struct Number (PolicyOf networkType)
  | .evm => relayerEvmPolicy
  | .solana => relayerSolanaPolicy buffered
  | .stellar => relayerStellarPolicy buffered

theorem networkType_notMem_keys (buffered : Bool) (networkType : RelayerNetworkType) :
    "network_type" ∉ (policyStruct buffered networkType).fields.keys := by
  cases networkType <;> cases buffered <;> decide

def relayerNetworkPolicy : Union Number RelayerNetworkPolicy RelayerNetworkType PolicyOf where
  tag := "network_type"
  name := RelayerNetworkType.toText
  parse := RelayerNetworkType.parse
  parse_name := RelayerNetworkType.parse_toText
  variant := policyStruct true
  fresh := networkType_notMem_keys true
  kinds := RelayerNetworkPolicy.kinds

end Relayer.Policies
