import Relayer.Core.Program
import Relayer.Repositories.Relayers

/-!
# Managing relayers

The controllers that create, update and delete relayers.  Every repository and
service they use is one call of the program, in the order of the source, so that
concurrent requests interleave between any two of them.
-/

namespace Relayer.Relayers

open Relayer.Checks
open Relayer.Interaction
open Relayer.Json
open Relayer.Numbers
open Relayer.Policies
open Relayer.RelayerModel
open Relayer.RelayerRepository
open Relayer.Transaction

/-- Everything a controller asks for outside of its own control flow.  A signer is known
by its id. -/
inductive Request where
  | generateUuid
  | getSigner (id : String)
  | getNetworkByName (networkType : RelayerNetworkType) (name : String)
  | listBySignerId (signerId : String)
  | getNotification (id : String)
  | createSigner (networkType : RelayerNetworkType) (signer : String)
  | signerAddress (signer : String)
  | createRelayer (relayer : RelayerRepoModel)
  | networkRelayer (relayer : RelayerRepoModel) (signer : String)
  | initializeRelayer (id : String)
  | getRelayer (id : String)
  | updateRelayer (id : String) (relayer : RelayerRepoModel)
  | countByStatus (relayerId : String) (statuses : List TransactionStatus)
  | deleteRelayer (id : String)

abbrev Answer : Request → Type
  | .generateUuid => String
  | .getSigner _ => Except RepositoryError String
  | .getNetworkByName .. => Except RepositoryError Bool
  | .listBySignerId _ => Except RepositoryError (List RelayerRepoModel)
  | .getNotification _ => Except RepositoryError Unit
  | .createSigner .. => Except String Unit
  | .signerAddress _ => Except String String
  | .createRelayer _ => Except RepositoryError RelayerRepoModel
  | .networkRelayer .. => Except RelayerError Unit
  | .initializeRelayer _ => Except RelayerError Unit
  | .getRelayer _ => Except RepositoryError RelayerRepoModel
  | .updateRelayer .. => Except RepositoryError RelayerRepoModel
  | .countByStatus .. => Except RepositoryError ℕ
  | .deleteRelayer _ => Except RepositoryError Unit

abbrev Step (A : Type) := Task Request Answer ApiError A

section Steps

open Task

variable {A : Type}

def fromRepository (answer : Except RepositoryError A) : Step A :=
  Task.ofExcept (answer.mapError apiErrorOfRepository)

def getRelayerById (id : String) : Step RelayerRepoModel := do
  let answer ← ask (Request.getRelayer id)
  fromRepository answer

/-! ## Creation -/

structure CreateRelayerRequest where
  id : Option String
  name : String
  network : String
  paused : Bool
  networkType : RelayerNetworkType
  policies : Option RelayerNetworkPolicy
  signerId : String
  notificationId : Option String
  customRpcUrls : Option (List RpcConfig)

/-- `CreateRelayerPolicyRequest::to_domain_policy`. -/
def toDomainPolicy (policy : RelayerNetworkPolicy) (networkType : RelayerNetworkType) :
    Except ApiError RelayerNetworkPolicy :=
  if policy.networkType = networkType then .ok policy
  else .error (.badRequest "Policy type does not match relayer network type")

/-- `TryFrom<CreateRelayerRequest> for Relayer`, under the id given or drawn. -/
def domainOfRequest (validation : Validation) (request : CreateRelayerRequest) (id : String) :
    Except ApiError RelayerDomainModel := do
  let policies ← match request.policies with
    | some policy => (toDomainPolicy policy request.networkType).map some
    | none => .ok none
  let relayer : RelayerDomainModel :=
    { id := id
      name := request.name
      network := request.network
      paused := request.paused
      networkType := request.networkType
      policies := policies
      signerId := request.signerId
      notificationId := request.notificationId
      customRpcUrls := request.customRpcUrls }
  (validate validation relayer).mapError RelayerValidationError.toApiError
  return relayer

def requestedId (request : CreateRelayerRequest) : Step String :=
  match request.id with
  | some id => pure id
  | none => ask Request.generateUuid

def checkNetwork (relayer : RelayerDomainModel) : Step Unit := do
  let answer ← ask (Request.getNetworkByName relayer.networkType relayer.network)
  let found ← fromRepository answer
  if found then pure ()
  else
    let network := relayer.network
    let networkType := relayer.networkType.toText
    throw (.badRequest (s!"Network '{network}' not found for network type '{networkType}'. " ++
      "Please ensure the network configuration exists."))

def signerInUseMessage (signerId existingId network : String) : String :=
  s!"Cannot create relayer: signer '{signerId}' is already in use by relayer " ++
    s!"'{existingId}' on network '{network}'. Each signer can only be connected to one " ++
    "relayer per network for security reasons. Please use a different signer or create " ++
    "the relayer on a different network."

/-- No relayer listed for the signer is on the network. -/
def checkSignerUnused (relayer : RelayerDomainModel) : Step Unit := do
  let answer ← ask (Request.listBySignerId relayer.signerId)
  let relayers ← fromRepository answer
  match relayers.find? fun existing => existing.network == relayer.network with
  | some existing =>
      throw (.badRequest (signerInUseMessage relayer.signerId existing.id relayer.network))
  | none => pure ()

def checkNotification (notificationId : Option String) : Step Unit :=
  match notificationId with
  | some id => do
      let answer ← ask (Request.getNotification id)
      fromRepository answer
  | none => pure ()

/-- The address of the signer on the relayer's network. -/
def addressOf (networkType : RelayerNetworkType) (signer : String) : Step String := do
  let created ← ask (Request.createSigner networkType signer)
  Task.ofExcept (created.mapError ApiError.internalError)
  let address ← ask (Request.signerAddress signer)
  Task.ofExcept (address.mapError ApiError.internalError)

/-- Everything that is checked before the relayer is stored. -/
def prepareRelayer (validation : Validation) (request : CreateRelayerRequest) :
    Step (RelayerRepoModel × String) := do
  let id ← requestedId request
  let relayer ← Task.ofExcept (domainOfRequest validation request id)
  let answer ← ask (Request.getSigner relayer.signerId)
  let signer ← fromRepository answer
  checkNetwork relayer
  checkSignerUnused relayer
  checkNotification relayer.notificationId
  let address ← addressOf relayer.networkType signer
  return ({ RelayerRepoModel.ofDomain relayer with address := address }, signer)

def createRelayer (validation : Validation) (request : CreateRelayerRequest) :
    Step RelayerRepoModel := do
  let (relayer, signer) ← prepareRelayer validation request
  let answer ← ask (Request.createRelayer relayer)
  let created ← fromRepository answer
  let built ← ask (Request.networkRelayer created signer)
  Task.ofExcept (built.mapError RelayerError.toApiError)
  let initialized ← ask (Request.initializeRelayer created.id)
  Task.ofExcept (initialized.mapError RelayerError.toApiError)
  return created

/-! ## Updates -/

structure UpdateRelayerRequestRaw where
  name : Option String
  paused : Option Bool
  policies : Option (Document Number)
  notificationId : Option String
  customRpcUrls : Option (List RpcConfig)

/-- Any value but null. -/
def anyDocument : Codec Number (Document Number) where
  encode := id
  decode document := if document.isNull then none else some document
  faithful document := document.isNull = false
  decode_null := rfl
  roundtrip document := by
    cases hnull : document.isNull with
    | false => simp [hnull]
    | true => simp [hnull]
  settles value result hread := by
    cases hnull : value.isNull with
    | false =>
        simp only [id, hnull, Bool.false_eq_true, if_false, Option.some.injEq] at hread
        rw [← hread, hnull]
    | true => simp [hnull] at hread

def updateRelayerRequestRaw : Struct Number UpdateRelayerRequestRaw where
  Row := _
  fields :=
    .cons (nullable "name" .string Codec.isObject_string) <|
    .cons (nullable "paused" .bool Codec.isObject_bool) <|
    .cons (.optionalWhole "policies" anyDocument true) <|
    .cons (skipped "notification_id" .string Codec.isObject_string) <|
    .cons (nullable "custom_rpc_urls" (.list rpcConfig.codec) isObject_rpcConfigs) .nil
  row :=
    { toFun := fun request =>
        (request.name, request.paused, request.policies, request.notificationId,
          request.customRpcUrls, ())
      invFun := fun (a, b, c, d, e, ()) => ⟨a, b, c, d, e⟩
      left_inv := fun _ => rfl
      right_inv := fun _ => rfl }
  denyUnknown := true
  nodup := by decide

def policyTypeText : RelayerNetworkType → String
  | .evm => "EVM"
  | .solana => "Solana"
  | .stellar => "Stellar"

def deserializePolicyForNetworkType (validation : Validation) (policies : Document Number)
    (networkType : RelayerNetworkType) : Except ApiError RelayerNetworkPolicy :=
  match (policyStruct false networkType).decode policies with
  | some policy => .ok (RelayerNetworkPolicy.kinds.symm ⟨networkType, policy⟩)
  | none =>
      let kind := policyTypeText networkType
      let error := validation.readError policies
      .error (.badRequest s!"Invalid {kind} policy: {error}")

def apiErrorText : ApiError → String
  | .internalError message => s!"Internal Server Error: {message}"
  | .notFound message => s!"Not Found: {message}"
  | .badRequest message => s!"Bad Request: {message}"
  | .unauthorized message => s!"Unauthorized: {message}"
  | .notSupported message => s!"Not Supported: {message}"
  | .forbiddenError message => s!"Forbidden: {message}"
  | .conflict message => s!"Conflict: {message}"
  | .unprocessableEntity message => s!"Unprocessable Entity: {message}"

/-- The patch read on its own, with policies of the relayer's network. -/
def readPatch (validation : Validation) (relayer : RelayerRepoModel)
    (patch : Document Number) : Except ApiError UpdateRelayerRequestRaw :=
  match updateRelayerRequestRaw.decode patch with
  | none =>
      let error := validation.readError patch
      .error (.badRequest s!"Invalid update request: {error}")
  | some request =>
      match request.policies with
      | none => .ok request
      | some policies =>
          match deserializePolicyForNetworkType validation policies relayer.networkType with
          | .ok _ => .ok request
          | .error error =>
              let text := apiErrorText error
              .error (.badRequest s!"Invalid policy: {text}")

/-- The record that the patched relayer is stored as. -/
def patchedRelayer (validation : Validation) (relayer : RelayerRepoModel)
    (patch : Document Number) : Except ApiError RelayerRepoModel :=
  ((applyJsonPatch validation relayer.toDomain patch).map (applyDomainUpdate relayer)).mapError
    RelayerValidationError.toApiError

def updateRelayer (validation : Validation) (relayerId : String) (patch : Document Number) :
    Step RelayerRepoModel := do
  let relayer ← getRelayerById relayerId
  let request ← Task.ofExcept (readPatch validation relayer patch)
  Task.ofExcept (require (!relayer.systemDisabled) (.badRequest "Relayer is disabled"))
  checkNotification request.notificationId
  let updated ← Task.ofExcept (patchedRelayer validation relayer patch)
  let answer ← ask (Request.updateRelayer relayerId updated)
  fromRepository answer

/-! ## Deletion -/

/-- The statuses whose transactions keep a relayer from being deleted. -/
def activeStatuses : List TransactionStatus := [.pending, .sent, .submitted]

def deleteRelayer (relayerId : String) : Step Unit := do
  let _ ← getRelayerById relayerId
  let answer ← ask (Request.countByStatus relayerId activeStatuses)
  let count ← fromRepository answer
  Task.ofExcept (require (count == 0) (.badRequest
    (s!"Cannot delete relayer '{relayerId}' because it has {count} transaction(s). " ++
      "Please wait for all transactions to complete or cancel them before deleting the " ++
      "relayer.")))
  let deleted ← ask (Request.deleteRelayer relayerId)
  fromRepository deleted

end Steps

end Relayer.Relayers
