import Relayer.Models.Policies
import Relayer.Models.Transaction
import Relayer.Net.UrlSecurity
import Relayer.Core.Checks

/-!
# Relayers

The relayer as the API knows it, its validation, and the record that the
repository keeps of it.  A relayer is patched by writing it to a document,
merging the patch into the document, and reading the result back.
-/

namespace Relayer.RelayerModel

open Relayer.Checks
open Relayer.Json
open Relayer.Numbers
open Relayer.Policies
open Relayer.Transaction
open Relayer.UrlSecurity

structure RpcConfig where
  url : String
  weight : UInt8
  deriving DecidableEq

/-- `DEFAULT_RPC_WEIGHT`. -/
def defaultRpcWeight : UInt8 := 100

def rpcConfig : Struct Number RpcConfig where
  Row := _
  fields :=
    .cons (.required "url" .string Codec.isObject_string) <|
    .cons (.fallingBack "weight" u8 defaultRpcWeight (fun _ => trivial) isObject_u8) .nil
  row :=
    { toFun := fun config => (config.url, config.weight, ())
      invFun := fun (a, b, ()) => ⟨a, b⟩
      left_inv := fun _ => rfl
      right_inv := fun _ => rfl }
  denyUnknown := false
  nodup := by decide

theorem isObject_rpcConfigs (configs : List RpcConfig) :
    ((Codec.list rpcConfig.codec).encode configs).isObject = false := rfl

structure RelayerDomainModel where
  id : String
  name : String
  network : String
  paused : Bool
  networkType : RelayerNetworkType
  policies : Option RelayerNetworkPolicy
  signerId : String
  notificationId : Option String
  customRpcUrls : Option (List RpcConfig)
  deriving DecidableEq

def relayerNetworkType : Codec Number RelayerNetworkType :=
  .variants false RelayerNetworkType.toText RelayerNetworkType.parse
    RelayerNetworkType.parse_toText

def relayerStruct : Struct Number RelayerDomainModel where
  Row := _
  fields :=
    .cons (.required "id" .string Codec.isObject_string) <|
    .cons (.required "name" .string Codec.isObject_string) <|
    .cons (.required "network" .string Codec.isObject_string) <|
    .cons (.required "paused" .bool Codec.isObject_bool) <|
    .cons (.required "network_type" relayerNetworkType fun _ => rfl) <|
    .cons (.nested "policies" relayerNetworkPolicy.patchable false) <|
    .cons (.required "signer_id" .string Codec.isObject_string) <|
    .cons (nullable "notification_id" .string Codec.isObject_string) <|
    .cons (nullable "custom_rpc_urls" (.list rpcConfig.codec) isObject_rpcConfigs) .nil
  row :=
    { toFun := fun relayer =>
        (relayer.id, relayer.name, relayer.network, relayer.paused, relayer.networkType,
          relayer.policies, relayer.signerId, relayer.notificationId,
          relayer.customRpcUrls, ())
      invFun := fun (a, b, c, d, e, f, g, h, i, ()) => ⟨a, b, c, d, e, f, g, h, i⟩
      left_inv := fun _ => rfl
      right_inv := fun _ => rfl }
  denyUnknown := false
  nodup := by decide

/-! ## Validation -/

inductive RelayerValidationError where
  | emptyId
  | invalidIdFormat
  | idTooLong
  | emptyName
  | emptyNetwork
  | invalidPolicy (message : String)
  | invalidRpcUrl (message : String)
  | invalidRpcWeight
  | invalidField (message : String)
  deriving DecidableEq, Repr

/-- `From<RelayerValidationError> for ApiError`. -/
def RelayerValidationError.toApiError (error : RelayerValidationError) : ApiError :=
  .badRequest (match error with
    | .emptyId => "ID cannot be empty"
    | .invalidIdFormat => "ID must contain only letters, numbers, dashes and underscores " ++
        "and must be at most 36 characters long"
    | .idTooLong => "ID must not exceed 36 characters"
    | .emptyName => "Name cannot be empty"
    | .emptyNetwork => "Network cannot be empty"
    | .invalidPolicy message => s!"Invalid relayer policy: {message}"
    | .invalidRpcUrl url => s!"Invalid RPC URL: {url}"
    | .invalidRpcWeight => "RPC URL weight must be in range 0-100"
    | .invalidField message => message)

/-- What validation takes from outside: the URL parser and the server's settings for RPC
URLs, the schedule parser, the alphanumeric characters, the texts of the document reader's
errors, and which of several field errors is reported. -/
structure Validation where
  parseUrl : String → Except String Url
  port : String → Option UInt16
  rpcAllowedHosts : List String
  rpcBlockPrivateIps : Bool
  parsesSchedule : String → Bool
  isAlphanumeric : Char → Bool
  readError : Document Number → String
  pick : List RelayerValidationError → ℕ

def isIdChar (char : Char) : Bool :=
  char.isAlphanum || char == '-' || char == '_'

def isBase58Char (char : Char) : Bool :=
  char.isAlphanum && char != '0' && char != 'I' && char != 'O' && char != 'l'

def isSolanaPubKey (key : String) : Bool :=
  decide (32 ≤ key.toList.length ∧ key.toList.length ≤ 44) && key.toList.all isBase58Char

def validateSolanaPubKeys : Option (List String) → Except RelayerValidationError Unit
  | none => .ok ()
  | some keys => checkAll (fun key => require (isSolanaPubKey key)
      (.invalidPolicy "Public key must be a valid Solana address")) keys

def validateFeeMargin : Option (Value single) → Except RelayerValidationError Unit
  | none => .ok ()
  | some feeMargin => require (!feeMargin.isNegative)
      (.invalidPolicy "Negative fee margin percentage values are not accepted")

def validateCronSchedule (validation : Validation) :
    Option String → Except RelayerValidationError Unit
  | none => .ok ()
  | some schedule => do
      require (!schedule.isEmpty) (.invalidPolicy "Empty cron schedule is not accepted")
      require (validation.parsesSchedule schedule)
        (.invalidPolicy "Invalid cron schedule format")

def SolanaSwapStrategy.debugText : SolanaSwapStrategy → String
  | .jupiterSwap => "JupiterSwap"
  | .jupiterUltra => "JupiterUltra"
  | .noop => "Noop"

def validateSwapStrategy (network : String) :
    Option SolanaSwapStrategy → Except RelayerValidationError Unit
  | none | some .noop => .ok ()
  | some strategy =>
      let name := SolanaSwapStrategy.debugText strategy
      require (network == "mainnet-beta")
        (.invalidPolicy s!"{name} strategy is only supported on mainnet-beta")

def validatePriorityLevel : Option String → Except RelayerValidationError Unit
  | none => .ok ()
  | some level => do
      require (!level.isEmpty) (.invalidPolicy "Priority level cannot be empty")
      require (["medium", "high", "veryHigh"].contains level)
        (.invalidPolicy "Priority level must be one of: medium, high, veryHigh")

def validateJupiterSwapOptions (strategy : Option SolanaSwapStrategy) :
    Option JupiterSwapOptions → Except RelayerValidationError Unit
  | none => .ok ()
  | some options => do
      require (strategy == some .jupiterSwap)
        (.invalidPolicy "JupiterSwap options are only valid for JupiterSwap strategy")
      require (options.priorityFeeMaxLamports != some 0)
        (.invalidPolicy "Max lamports must be greater than 0")
      validatePriorityLevel options.priorityLevel
      match options.priorityLevel, options.priorityFeeMaxLamports with
      | some _, none => .error (.invalidPolicy
          "Priority Fee Max lamports must be set if priority level is set")
      | none, some _ => .error (.invalidPolicy
          "Priority level must be set if priority fee max lamports is set")
      | _, _ => .ok ()

def validateSolanaSwapConfig (validation : Validation) (relayer : RelayerDomainModel)
    (policy : RelayerSolanaPolicy) :
    Option RelayerSolanaSwapConfig → Except RelayerValidationError Unit
  | none => .ok ()
  | some config => do
      require (policy.feePaymentStrategy != some .relayer)
        (.invalidPolicy "Swap config only supported for user fee payment strategy")
      validateSwapStrategy relayer.network config.strategy
      validateCronSchedule validation config.cronSchedule
      validateJupiterSwapOptions config.strategy config.jupiterSwapOptions

def validateSolanaPolicy (validation : Validation) (relayer : RelayerDomainModel)
    (policy : RelayerSolanaPolicy) : Except RelayerValidationError Unit := do
  validateSolanaPubKeys policy.allowedAccounts
  validateSolanaPubKeys policy.disallowedAccounts
  validateSolanaPubKeys policy.allowedPrograms
  validateSolanaPubKeys (policy.allowedTokens.map fun tokens => tokens.map fun token =>
    token.mint)
  validateFeeMargin policy.feeMarginPercentage
  require (!(policy.allowedAccounts.isSome && policy.disallowedAccounts.isSome))
    (.invalidPolicy "allowed_accounts and disallowed_accounts cannot be both present")
  validateSolanaSwapConfig validation relayer policy policy.swapConfig

/-- The text before the first colon and the text after it. -/
def splitAtColon (chars : List Char) : Option (List Char × List Char) :=
  match chars.span (· != ':') with
  | (code, _ :: issuer) => some (code, issuer)
  | (_, []) => none

def byteLength (chars : List Char) : ℕ :=
  (String.ofList chars).utf8ByteSize

def validateClassicAsset (validation : Validation) (code issuer : List Char) :
    Except RelayerValidationError Unit := do
  require (decide (1 ≤ code.length ∧ byteLength code ≤ 12))
    (.invalidPolicy "Asset code must be between 1 and 12 characters")
  require (code.all validation.isAlphanumeric)
    (.invalidPolicy "Asset code must contain only alphanumeric characters")
  require (byteLength issuer == 56)
    (.invalidPolicy "Issuer address must be 56 characters long")
  require (issuer.head? == some 'G')
    (.invalidPolicy "Issuer address must start with 'G'")
  require (issuer.length == 56 && issuer.all fun char => char.isDigit || char.isUpper)
    (.invalidPolicy "Issuer address must be a valid Stellar address")

def validateStellarAssetIdentifier (validation : Validation) (asset : String) :
    Except RelayerValidationError Unit :=
  if asset == "native" || asset == "XLM" || asset.isEmpty then .ok ()
  else if asset.toList.head? == some 'C' && asset.utf8ByteSize == 56 &&
      !asset.toList.contains ':' then .ok ()
  else match splitAtColon asset.toList with
    | some (code, issuer) => validateClassicAsset validation code issuer
    | none => .error (.invalidPolicy
        "Asset identifier must be 'native', 'XLM', 'CODE:ISSUER', or a contract address")

def validateStellarSwapConfig (validation : Validation) (policy : RelayerStellarPolicy) :
    Option RelayerStellarSwapConfig → Except RelayerValidationError Unit
  | none => .ok ()
  | some config => do
      require (policy.feePaymentStrategy != some .relayer)
        (.invalidPolicy "Swap config only supported for user fee payment strategy")
      validateCronSchedule validation config.cronSchedule
      require (!config.strategies.isEmpty)
        (.invalidPolicy "Swap config must include at least one strategy")

def validateStellarPolicy (validation : Validation) (policy : RelayerStellarPolicy) :
    Except RelayerValidationError Unit := do
  require policy.feePaymentStrategy.isSome
    (.invalidPolicy "Fee payment strategy is required")
  validateFeeMargin policy.feeMarginPercentage
  require (policy.slippagePercentage.all (Value.isWithin 100))
    (.invalidPolicy "Slippage percentage must be between 0 and 100")
  checkAll (fun token => validateStellarAssetIdentifier validation token.asset)
    (policy.allowedTokens.getD [])
  validateStellarSwapConfig validation policy policy.swapConfig

def RelayerNetworkType.debugText : RelayerNetworkType → String
  | .evm => "Evm"
  | .solana => "Solana"
  | .stellar => "Stellar"

def RelayerNetworkPolicy.typeText : RelayerNetworkPolicy → String
  | .evm _ => "EVM"
  | .solana _ => "Solana"
  | .stellar _ => "Stellar"

def validatePolicies (validation : Validation) (relayer : RelayerDomainModel) :
    Except RelayerValidationError Unit :=
  match relayer.networkType, relayer.policies with
  | .solana, some (.solana policy) => validateSolanaPolicy validation relayer policy
  | .evm, some (.evm _) => .ok ()
  | .stellar, some (.stellar policy) => validateStellarPolicy validation policy
  | .stellar, none => .error (.invalidPolicy
      "Stellar policy is required. fee_payment_strategy is required")
  | networkType, some policy =>
      let network := RelayerNetworkType.debugText networkType
      let kind := RelayerNetworkPolicy.typeText policy
      .error (.invalidPolicy s!"Network type {network} does not match policy type {kind}")
  | _, none => .ok ()

def sanitizeUrlForError (validation : Validation) (url : String) : String :=
  match validation.parseUrl url with
  | .error _ => "[invalid URL]"
  | .ok parsed =>
      let scheme := parsed.scheme
      let host := (parsed.host.map Host.hostStr).getD "[no host]"
      let port := match validation.port url with
        | some port => ":" ++ toString port
        | none => ""
      s!"{scheme}://{host}{port}/[path redacted]"

def validateRpcConfig (validation : Validation) (config : RpcConfig) :
    Except RelayerValidationError Unit := do
  let text := sanitizeUrlForError validation config.url
  require (validation.parseUrl config.url).isOk (.invalidRpcUrl text)
  match validateSafeUrl validation.parseUrl config.url validation.rpcAllowedHosts
      validation.rpcBlockPrivateIps with
  | .error message => .error (.invalidRpcUrl s!"{text}: {message}")
  | .ok () => require (decide (config.weight ≤ 100)) .invalidRpcWeight

def validateCustomRpcUrls (validation : Validation) (relayer : RelayerDomainModel) :
    Except RelayerValidationError Unit :=
  checkAll (validateRpcConfig validation) (relayer.customRpcUrls.getD [])

/-- The errors of the validator's own field checks. -/
def fieldErrors (relayer : RelayerDomainModel) : List RelayerValidationError :=
  (if relayer.id.toList.all isIdChar then [] else [.invalidIdFormat]) ++
  (if relayer.name.isEmpty then [.emptyName] else []) ++
  (if relayer.network.isEmpty then [.emptyNetwork] else []) ++
  (if relayer.signerId.isEmpty then [.invalidPolicy "Signer ID cannot be empty"] else [])

/-- One error is reported; which one is not determined, since the fields with errors are
kept in a hash map. -/
def validateFields (validation : Validation) (relayer : RelayerDomainModel) :
    Except RelayerValidationError Unit :=
  match fieldErrors relayer with
  | [] => .ok ()
  | first :: rest =>
      .error ((first :: rest).getD (validation.pick (first :: rest)) first)

def validate (validation : Validation) (relayer : RelayerDomainModel) :
    Except RelayerValidationError Unit := do
  require (!relayer.id.isEmpty) .emptyId
  require (decide (relayer.id.utf8ByteSize ≤ 36)) .idTooLong
  validateFields validation relayer
  validatePolicies validation relayer
  validateCustomRpcUrls validation relayer

/-- A valid relayer has a policy of its own network, if it has one. -/
theorem networkType_of_validate {validation : Validation} {relayer : RelayerDomainModel}
    {policy : RelayerNetworkPolicy} (hvalid : validate validation relayer = .ok ())
    (hpolicy : relayer.policies = some policy) : policy.networkType = relayer.networkType := by
  obtain ⟨_, _, hvalid⟩ := bind_eq_ok.mp hvalid
  obtain ⟨_, _, hvalid⟩ := bind_eq_ok.mp hvalid
  obtain ⟨_, _, hvalid⟩ := bind_eq_ok.mp hvalid
  obtain ⟨_, hpolicies, _⟩ := bind_eq_ok.mp hvalid
  rw [validatePolicies, hpolicy] at hpolicies
  cases hnetwork : relayer.networkType <;> cases policy <;>
    first
      | rfl
      | (rw [hnetwork] at hpolicies; cases hpolicies)

/-! ## Patches -/

def applyJsonPatch (validation : Validation) (relayer : RelayerDomainModel)
    (patch : Document Number) : Except RelayerValidationError RelayerDomainModel := do
  let merged := Document.mergePatch (relayerStruct.encode relayer) patch
  match relayerStruct.decode merged with
  | none =>
      let error := validation.readError merged
      .error (.invalidField s!"Invalid result after patch: {error}")
  | some updated =>
      validate validation updated
      return updated

/-! ## Stored relayers -/

inductive DisabledReason where
  | nonceSyncFailed (message : String)
  | rpcValidationFailed (message : String)
  | balanceCheckFailed (message : String)
  | sequenceSyncFailed (message : String)
  | multiple (reasons : List DisabledReason)
  deriving Repr

mutual

def DisabledReason.decEq : (left right : DisabledReason) → Decidable (left = right)
  | .nonceSyncFailed left, right =>
      match right with
      | .nonceSyncFailed other => decidable_of_iff (left = other) (by simp)
      | .rpcValidationFailed _ | .balanceCheckFailed _ | .sequenceSyncFailed _
      | .multiple _ => isFalse nofun
  | .rpcValidationFailed left, right =>
      match right with
      | .rpcValidationFailed other => decidable_of_iff (left = other) (by simp)
      | .nonceSyncFailed _ | .balanceCheckFailed _ | .sequenceSyncFailed _
      | .multiple _ => isFalse nofun
  | .balanceCheckFailed left, right =>
      match right with
      | .balanceCheckFailed other => decidable_of_iff (left = other) (by simp)
      | .nonceSyncFailed _ | .rpcValidationFailed _ | .sequenceSyncFailed _
      | .multiple _ => isFalse nofun
  | .sequenceSyncFailed left, right =>
      match right with
      | .sequenceSyncFailed other => decidable_of_iff (left = other) (by simp)
      | .nonceSyncFailed _ | .rpcValidationFailed _ | .balanceCheckFailed _
      | .multiple _ => isFalse nofun
  | .multiple left, right =>
      match right with
      | .multiple other =>
          match DisabledReason.decEqList left other with
          | isTrue hsame => isTrue (hsame ▸ rfl)
          | isFalse hother => isFalse fun hsame => hother (DisabledReason.multiple.inj hsame)
      | .nonceSyncFailed _ | .rpcValidationFailed _ | .balanceCheckFailed _
      | .sequenceSyncFailed _ => isFalse nofun

def DisabledReason.decEqList : (left right : List DisabledReason) → Decidable (left = right)
  | [], [] => isTrue rfl
  | [], _ :: _ => isFalse nofun
  | _ :: _, [] => isFalse nofun
  | head :: tail, first :: rest =>
      match DisabledReason.decEq head first, DisabledReason.decEqList tail rest with
      | isTrue hhead, isTrue htail => isTrue (hhead ▸ htail ▸ rfl)
      | isFalse hhead, _ => isFalse fun hsame => hhead (List.cons.inj hsame).1
      | _, isFalse htail => isFalse fun hsame => htail (List.cons.inj hsame).2

end

instance : DecidableEq DisabledReason := DisabledReason.decEq

structure RelayerRepoModel where
  id : String
  name : String
  network : String
  paused : Bool
  networkType : RelayerNetworkType
  signerId : String
  policies : RelayerNetworkPolicy
  address : String
  notificationId : Option String
  systemDisabled : Bool
  disabledReason : Option DisabledReason
  customRpcUrls : Option (List RpcConfig)
  deriving DecidableEq

/-- `From<RelayerRepoModel> for Relayer`. -/
def RelayerRepoModel.toDomain (model : RelayerRepoModel) : RelayerDomainModel where
  id := model.id
  name := model.name
  network := model.network
  paused := model.paused
  networkType := model.networkType
  policies := some model.policies
  signerId := model.signerId
  notificationId := model.notificationId
  customRpcUrls := model.customRpcUrls

/-- `From<Relayer> for RelayerRepoModel`. -/
def RelayerRepoModel.ofDomain (relayer : RelayerDomainModel) : RelayerRepoModel where
  id := relayer.id
  name := relayer.name
  network := relayer.network
  paused := relayer.paused
  networkType := relayer.networkType
  signerId := relayer.signerId
  policies := relayer.policies.getD (RelayerNetworkPolicy.default relayer.networkType)
  address := ""
  notificationId := relayer.notificationId
  systemDisabled := false
  disabledReason := none
  customRpcUrls := relayer.customRpcUrls

/-- `RelayerRepoUpdater::apply_domain_update`. -/
def applyDomainUpdate (original : RelayerRepoModel) (domain : RelayerDomainModel) :
    RelayerRepoModel :=
  { RelayerRepoModel.ofDomain domain with
    address := original.address
    systemDisabled := original.systemDisabled
    disabledReason := original.disabledReason }

end Relayer.RelayerModel
