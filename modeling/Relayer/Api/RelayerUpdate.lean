import Relayer.Api.Relayers

/-!
# Relayer updates are merge patches

An update runs against the in-memory repositories.  The stored relayer
keeps its identity and the kind of its policy, and every other field is what the
patch means for it.  The document that the patch is merged into cannot hold
infinite numbers or the number that is none, so a percentage with such a value
is lost when the patch does not mention it, and nothing else is.

Redis keeps the text of such a document, so that a percentage of this kind would already
be lost when it is stored; the updates here are those of the in-memory repository.
-/

namespace Relayer.RelayerUpdate

open Relayer.Checks
open Relayer.Interaction
open Relayer.Json
open Relayer.Numbers
open Relayer.Policies
open Relayer.RelayerModel
open Relayer.RelayerRepository
open Relayer.Relayers
open Relayer.Transaction

/-! ## The application -/

/-- What the in-memory relayer and notification repositories hold. -/
structure InMemoryState where
  relayers : RelayerStore
  notifications : List String

def getNotification (state : InMemoryState) (id : String) : Except RepositoryError Unit :=
  if id ∈ state.notifications then .ok ()
  else .error (.notFound s!"Notification with ID '{id}' not found")

/-- How the in-memory repositories answer; other calls are answered by the services. -/
def serve (services : (request : Request) → Answer request) (state : InMemoryState) :
    (request : Request) → Answer request × InMemoryState
  | .getRelayer id => (state.relayers.getById id, state)
  | .listBySignerId signerId => (.ok (state.relayers.listBySignerId signerId), state)
  | .getNotification id => (getNotification state id, state)
  | .createRelayer relayer =>
      match state.relayers.create relayer with
      | .ok store => (.ok relayer, { state with relayers := store })
      | .error error => (.error error, state)
  | .updateRelayer id relayer =>
      match state.relayers.update id relayer with
      | .ok (saved, store) => (.ok saved, { state with relayers := store })
      | .error error => (.error error, state)
  | .deleteRelayer id =>
      match state.relayers.deleteById id with
      | .ok store => (.ok (), { state with relayers := store })
      | .error error => (.error error, state)
  | .generateUuid => (services .generateUuid, state)
  | .getSigner id => (services (.getSigner id), state)
  | .getNetworkByName networkType name => (services (.getNetworkByName networkType name), state)
  | .createSigner networkType signer => (services (.createSigner networkType signer), state)
  | .signerAddress signer => (services (.signerAddress signer), state)
  | .networkRelayer relayer signer => (services (.networkRelayer relayer signer), state)
  | .initializeRelayer id => (services (.initializeRelayer id), state)
  | .countByStatus relayerId statuses => (services (.countByStatus relayerId statuses), state)

/-- One update request, alone. -/
def runUpdate (validation : Validation) (services : (request : Request) → Answer request)
    (relayerId : String) (patch : Document Number) (state : InMemoryState) :
    Except ApiError RelayerRepoModel × InMemoryState :=
  Task.handle (serve services) (updateRelayer validation relayerId patch) state

/-! ## What an update is for -/

/-- The stored relayer after a patch: its identity is kept, its policy is of its network,
and its fields are those of the patch's meaning for the old ones. -/
structure MergePatched (patch : Document Number) (old new : RelayerRepoModel) : Prop where
  id : new.id = old.id
  network : new.network = old.network
  networkType : new.networkType = old.networkType
  signerId : new.signerId = old.signerId
  address : new.address = old.address
  systemDisabled : new.systemDisabled = old.systemDisabled
  disabledReason : new.disabledReason = old.disabledReason
  kind : new.policies.networkType = old.networkType
  merged : ∃ domain, relayerStruct.update patch old.toDomain = some domain ∧
    new = applyDomainUpdate old domain

/-- The policies keep what they have under a key. -/
def Untouched (patch : Document Number) (key : String) : Prop :=
  match patch.lookup "policies" with
  | none => True
  | some policies => policies.isObject = true ∧ policies.lookup key = none

def FiniteIfAny (percentage : Option (Value single)) : Prop :=
  ∀ value, percentage = some value → value.isFinite = true

/-- Every percentage under one of the keys is a finite number. -/
def PercentagesFinite (among : String → Prop) : RelayerNetworkPolicy → Prop
  | .evm _ => True
  | .solana policy =>
      (among "fee_margin_percentage" → FiniteIfAny policy.feeMarginPercentage) ∧
        (among "allowed_tokens" → ∀ tokens, policy.allowedTokens = some tokens →
          ∀ token ∈ tokens, ∀ config, token.swapConfig = some config →
            FiniteIfAny config.slippagePercentage)
  | .stellar policy =>
      (among "slippage_percentage" → FiniteIfAny policy.slippagePercentage) ∧
      (among "fee_margin_percentage" → FiniteIfAny policy.feeMarginPercentage) ∧
        (among "allowed_tokens" → ∀ tokens, policy.allowedTokens = some tokens →
          ∀ token ∈ tokens, ∀ config, token.swapConfig = some config →
            FiniteIfAny config.slippagePercentage)

/-! ## Which fields survive -/

theorem lossless_relayerEvmPolicy : relayerEvmPolicy.fields.Lossless :=
  ⟨Field.lossless_optional fun _ => trivial, Field.lossless_optional fun _ => trivial,
    Field.lossless_optional fun _ => trivial, Field.lossless_optional fun _ _ _ => trivial,
    Field.lossless_optional fun _ => trivial, Field.lossless_optional fun _ => trivial,
    Field.lossless_optional fun _ => trivial, trivial⟩

theorem lossless_relayerSolanaSwapConfig (buffered : Bool) :
    (relayerSolanaSwapConfig buffered).fields.Lossless :=
  ⟨Field.lossless_optional fun _ => trivial, Field.lossless_optional fun _ => trivial,
    Field.lossless_optional fun _ => trivial,
    Field.lossless_nested (Struct.lossless_patchable
      ⟨Field.lossless_optional fun _ => trivial, Field.lossless_optional fun _ => trivial,
        Field.lossless_optional fun _ => trivial, trivial⟩),
    trivial⟩

theorem lossless_relayerStellarSwapConfig (buffered : Bool) :
    (relayerStellarSwapConfig buffered).fields.Lossless :=
  ⟨Field.lossless_defaulted fun _ _ _ => trivial, Field.lossless_optional fun _ => trivial,
    Field.lossless_optional fun _ => trivial, trivial⟩

theorem lossless_stellarTokenMetadata (buffered : Bool) :
    (stellarTokenMetadata buffered).fields.Lossless :=
  ⟨Field.lossless_requiredWhole fun _ => trivial, Field.lossless_required fun _ => trivial,
    Field.lossless_required fun _ => trivial, trivial⟩

theorem lossless_rpcConfig : rpcConfig.fields.Lossless :=
  ⟨Field.lossless_required fun _ => trivial, Field.lossless_fallingBack, trivial⟩

/-- A Solana token survives when the slippage of its swaps is finite. -/
theorem faithful_solanaAllowedTokensPolicy_iff {token : SolanaAllowedTokensPolicy} :
    solanaAllowedTokensPolicy.Faithful token ↔ ∀ config, token.swapConfig = some config →
      FiniteIfAny config.slippagePercentage := by
  constructor
  · rintro ⟨-, -, -, -, hconfig, -⟩ config hsome
    exact (hconfig config hsome).1
  · intro hfinite
    refine ⟨trivial, fun _ _ => trivial, fun _ _ => trivial, fun _ _ => trivial, ?_, trivial⟩
    intro config hsome
    exact ⟨hfinite config hsome, fun _ _ => trivial, fun _ _ => trivial, fun _ _ => trivial,
      trivial⟩

theorem faithful_stellarAllowedTokensPolicy_iff {buffered : Bool}
    {token : StellarAllowedTokensPolicy} :
    (stellarAllowedTokensPolicy buffered).Faithful token ↔
      ∀ config, token.swapConfig = some config → FiniteIfAny config.slippagePercentage := by
  constructor
  · rintro ⟨-, -, -, hconfig, -⟩ config hsome
    exact (hconfig config hsome).1
  · intro hfinite
    refine ⟨trivial, ?_, fun _ _ => trivial, ?_, trivial⟩
    · intro metadata _
      exact (lossless_stellarTokenMetadata buffered).faithful _
    · intro config hsome
      exact ⟨hfinite config hsome, fun _ _ => trivial, fun _ _ => trivial,
        fun _ _ => trivial, trivial⟩

section Fields

variable {validation : Validation} {relayer old : RelayerRepoModel} {patch : Document Number}
  {request : UpdateRelayerRequestRaw} {policies : RelayerNetworkPolicy}
  {look : String → Option (Document Number)}

/-- Of a Solana policy only its percentages can be lost. -/
theorem kept_relayerSolanaPolicy_iff {policy : RelayerSolanaPolicy} :
    (relayerSolanaPolicy true).fields.Kept look ((relayerSolanaPolicy true).row policy) ↔
      (look "fee_margin_percentage" = none → FiniteIfAny policy.feeMarginPercentage) ∧
        (look "allowed_tokens" = none → ∀ tokens, policy.allowedTokens = some tokens →
          ∀ token ∈ tokens, ∀ config, token.swapConfig = some config →
            FiniteIfAny config.slippagePercentage) := by
  constructor
  · rintro ⟨-, -, -, -, htokens, -, hmargin, -⟩
    refine ⟨(Field.kept_iff_of_keeps fun _ _ => trivial).mp hmargin, ?_⟩
    intro hnone tokens hsome token hmem
    have hfaithful := (Field.kept_iff_of_keeps fun _ _ => trivial).mp htokens hnone
    exact faithful_solanaAllowedTokensPolicy_iff.mp (hfaithful tokens hsome token hmem)
  · rintro ⟨hmargin, htokens⟩
    refine ⟨(Field.lossless_optional fun _ _ _ => trivial).kept _ _,
      (Field.lossless_optional fun _ => trivial).kept _ _,
      (Field.lossless_optional fun _ => trivial).kept _ _,
      (Field.lossless_optional fun _ => trivial).kept _ _,
      (Field.kept_iff_of_keeps fun _ _ => trivial).mpr ?_,
      (Field.lossless_optional fun _ => trivial).kept _ _,
      (Field.kept_iff_of_keeps fun _ _ => trivial).mpr hmargin,
      (Field.lossless_optional fun _ _ _ => trivial).kept _ _,
      (Field.lossless_optional fun _ _ _ => trivial).kept _ _,
      (Field.lossless_optional fun _ => trivial).kept _ _,
      (Field.lossless_nested (Struct.lossless_patchable
        (lossless_relayerSolanaSwapConfig true))).kept _ _, trivial⟩
    intro hnone tokens hsome token hmem
    exact faithful_solanaAllowedTokensPolicy_iff.mpr (htokens hnone tokens hsome token hmem)

/-- Of a Stellar policy only its percentages can be lost. -/
theorem kept_relayerStellarPolicy_iff {policy : RelayerStellarPolicy} :
    (relayerStellarPolicy true).fields.Kept look ((relayerStellarPolicy true).row policy) ↔
      (look "slippage_percentage" = none → FiniteIfAny policy.slippagePercentage) ∧
      (look "fee_margin_percentage" = none → FiniteIfAny policy.feeMarginPercentage) ∧
        (look "allowed_tokens" = none → ∀ tokens, policy.allowedTokens = some tokens →
          ∀ token ∈ tokens, ∀ config, token.swapConfig = some config →
            FiniteIfAny config.slippagePercentage) := by
  constructor
  · rintro ⟨-, -, -, -, htokens, -, hslippage, hmargin, -⟩
    refine ⟨(Field.kept_iff_of_keeps fun _ _ => trivial).mp hslippage,
      (Field.kept_iff_of_keeps fun _ _ => trivial).mp hmargin, ?_⟩
    intro hnone tokens hsome token hmem
    have hfaithful := (Field.kept_iff_of_keeps fun _ _ => trivial).mp htokens hnone
    exact faithful_stellarAllowedTokensPolicy_iff.mp (hfaithful tokens hsome token hmem)
  · rintro ⟨hslippage, hmargin, htokens⟩
    refine ⟨(Field.lossless_optional fun _ => trivial).kept _ _,
      (Field.lossless_optional fun _ => trivial).kept _ _,
      (Field.lossless_optional fun _ => trivial).kept _ _,
      (Field.lossless_optional fun _ => trivial).kept _ _,
      (Field.kept_iff_of_keeps fun _ _ => trivial).mpr ?_,
      (Field.lossless_optional fun _ => trivial).kept _ _,
      (Field.kept_iff_of_keeps fun _ _ => trivial).mpr hslippage,
      (Field.kept_iff_of_keeps fun _ _ => trivial).mpr hmargin,
      (Field.lossless_nested (Struct.lossless_patchable
        (lossless_relayerStellarSwapConfig true))).kept _ _, trivial⟩
    intro hnone tokens hsome token hmem
    exact faithful_stellarAllowedTokensPolicy_iff.mpr (htokens hnone tokens hsome token hmem)

theorem lossless_tagField (tag name : String) :
    (Union.tagField tag name : Field Number Unit).Lossless :=
  Field.lossless_required fun _ => trivial

/-- Of a policy only its percentages can be lost, each under its own key. -/
theorem kept_policies_iff :
    (relayerNetworkPolicy.tagged (RelayerNetworkPolicy.kinds policies).1).fields.Kept look
        ((relayerNetworkPolicy.tagged (RelayerNetworkPolicy.kinds policies).1).row
          (RelayerNetworkPolicy.kinds policies).2) ↔
      PercentagesFinite (fun key => look key = none) policies := by
  cases policies with
  | evm policy =>
      refine iff_of_true ⟨(lossless_tagField _ _).kept _ _, ?_⟩ trivial
      exact lossless_relayerEvmPolicy.kept look _
  | solana policy =>
      exact (Fields.kept_cons_of_lossless (lossless_tagField _ _)).trans
        kept_relayerSolanaPolicy_iff
  | stellar policy =>
      exact (Fields.kept_cons_of_lossless (lossless_tagField _ _)).trans
        kept_relayerStellarPolicy_iff

/-- The policies as a field of the relayer. -/
def policiesField : Field Number (Option RelayerNetworkPolicy) :=
  .nested "policies" relayerNetworkPolicy.patchable false

theorem PercentagesFinite.congr {among other : String → Prop}
    (hsame : ∀ key, among key ↔ other key) :
    PercentagesFinite among policies ↔ PercentagesFinite other policies := by
  have hequal : among = other := funext fun key => propext (hsame key)
  rw [hequal]

theorem percentagesFinite_of_none (policies : RelayerNetworkPolicy) {among : String → Prop}
    (hnone : ∀ key, ¬ among key) : PercentagesFinite among policies := by
  cases policies with
  | evm policy => trivial
  | solana policy =>
      exact ⟨fun hamong => absurd hamong (hnone _), fun hamong => absurd hamong (hnone _)⟩
  | stellar policy =>
      exact ⟨fun hamong => absurd hamong (hnone _), fun hamong => absurd hamong (hnone _),
        fun hamong => absurd hamong (hnone _)⟩

theorem kept_policiesField_iff :
    policiesField.Kept (patch.lookup "policies") (some policies) ↔
      PercentagesFinite (Untouched patch) policies := by
  cases hlookup : patch.lookup "policies" with
  | none =>
      have hall : ∀ key, Untouched patch key ↔ (none : Option (Document Number)) = none := by
        intro key
        simp [Untouched, hlookup]
      rw [PercentagesFinite.congr hall, ← kept_policies_iff, Fields.kept_nothing_iff]
      constructor
      · intro hfaithful
        exact hfaithful policies rfl
      · rintro hfaithful inner hinner
        cases hinner
        exact hfaithful
  | some value =>
      cases hobject : value.isObject with
      | true =>
          have hkeys : ∀ key, Untouched patch key ↔ value.lookup key = none := by
            intro key
            simp [Untouched, hlookup, hobject]
          rw [PercentagesFinite.congr hkeys, ← kept_policies_iff]
          constructor
          · intro hkept
            exact hkept (by cases value <;> first | rfl | cases hobject) policies rfl hobject
          · rintro hkept - inner hinner -
            cases hinner
            exact hkept
      | false =>
          have hnone : ∀ key, ¬ Untouched patch key := by
            intro key
            simp [Untouched, hlookup, hobject]
          refine iff_of_true ?_ (percentagesFinite_of_none policies hnone)
          intro _ inner _ hobject'
          exact absurd (hobject.symm.trans hobject') (by decide)

/-- Of a relayer only the percentages of its policies can be lost. -/
theorem kept_relayerStruct_iff :
    relayerStruct.Kept patch old.toDomain ↔ PercentagesFinite (Untouched patch) old.policies := by
  rw [← kept_policiesField_iff]
  constructor
  · rintro ⟨-, -, -, -, -, hpolicies, -⟩
    exact hpolicies
  · intro hpolicies
    exact ⟨(Field.lossless_required fun _ => trivial).kept _ _,
      (Field.lossless_required fun _ => trivial).kept _ _,
      (Field.lossless_required fun _ => trivial).kept _ _,
      (Field.lossless_required fun _ => trivial).kept _ _,
      (Field.lossless_required fun _ => trivial).kept _ _, hpolicies,
      (Field.lossless_required fun _ => trivial).kept _ _,
      (Field.lossless_optional fun _ => trivial).kept _ _,
      (Field.lossless_optional fun _ _ _ =>
        lossless_rpcConfig.faithful _).kept _ _, trivial⟩

/-- A relayer is read back as it was written exactly when its percentages are finite numbers. -/
theorem relayer_roundtrip_iff (relayer : RelayerRepoModel) :
    relayerStruct.decode (relayerStruct.encode relayer.toDomain) = some relayer.toDomain ↔
      PercentagesFinite (fun _ => True) relayer.policies := by
  rw [Struct.decode_encode_iff, Struct.Faithful, ← Fields.kept_nothing_iff]
  exact (kept_relayerStruct_iff : relayerStruct.Kept (.obj [] fun _ => .null) _ ↔ _)

/-! ## Which patches are admitted -/

theorem open_jupiterSwapOptions : jupiterSwapOptions.fields.Open :=
  ⟨Field.open_optional, Field.open_optional, Field.open_optional, trivial⟩

theorem open_relayerSolanaSwapConfig (buffered : Bool) :
    (relayerSolanaSwapConfig buffered).fields.Open :=
  ⟨Field.open_optional, Field.open_optional, Field.open_optional,
    Field.open_nested fun patch => open_jupiterSwapOptions.admits patch.lookup, trivial⟩

theorem open_relayerStellarSwapConfig (buffered : Bool) :
    (relayerStellarSwapConfig buffered).fields.Open :=
  ⟨Field.open_defaulted, Field.open_optional, Field.open_optional, trivial⟩

theorem open_tagged (networkType : RelayerNetworkType) :
    (relayerNetworkPolicy.tagged networkType).fields.Open := by
  cases networkType with
  | evm =>
      exact ⟨Field.open_required, Field.open_optional, Field.open_optional,
        Field.open_optional, Field.open_optional, Field.open_optional, Field.open_optional,
        Field.open_optional, trivial⟩
  | solana =>
      exact ⟨Field.open_required, Field.open_optional, Field.open_optional,
        Field.open_optional, Field.open_optional, Field.open_optional, Field.open_optional,
        Field.open_optional, Field.open_optional, Field.open_optional, Field.open_optional,
        Field.open_nested fun patch =>
          (open_relayerSolanaSwapConfig true).admits patch.lookup, trivial⟩
  | stellar =>
      exact ⟨Field.open_required, Field.open_optional, Field.open_optional,
        Field.open_optional, Field.open_optional, Field.open_optional, Field.open_optional,
        Field.open_optional, Field.open_optional, Field.open_nested fun patch =>
          (open_relayerStellarSwapConfig true).admits patch.lookup, trivial⟩

/-- A patch whose policies were read on their own leaves their tag alone. -/
theorem admits_of_untagged
    (huntagged : ∀ value, patch.lookup "policies" = some value →
      value.lookup "network_type" = none) :
    relayerStruct.Admits patch := by
  refine ⟨fun _ _ => trivial, fun _ _ => trivial, fun _ _ => trivial, fun _ _ => trivial,
    fun _ _ => trivial, ?_, fun _ _ => trivial, fun _ _ => trivial, fun _ _ => trivial,
    trivial⟩
  intro value hvalue
  exact ⟨huntagged value hvalue, fun networkType => (open_tagged networkType).admits _⟩

theorem readPatch_ok (hread : readPatch validation relayer patch = .ok request) :
    updateRelayerRequestRaw.decode patch = some request ∧
      ∀ policies, request.policies = some policies →
        ∃ policy, (policyStruct false relayer.networkType).decode policies = some policy := by
  rw [readPatch] at hread
  cases hdecode : updateRelayerRequestRaw.decode patch with
  | none => simp [hdecode] at hread
  | some raw =>
      simp only [hdecode] at hread
      cases hraw : raw.policies with
      | none =>
          simp only [hraw] at hread
          cases hread
          exact ⟨rfl, fun policies hpolicies => nomatch hraw.symm.trans hpolicies⟩
      | some policies =>
          simp only [hraw, deserializePolicyForNetworkType] at hread
          cases hpolicy : (policyStruct false relayer.networkType).decode policies with
          | none => simp [hpolicy] at hread
          | some policy =>
              simp only [hpolicy] at hread
              cases hread
              refine ⟨rfl, fun other hother => ?_⟩
              rw [hraw] at hother
              cases hother
              exact ⟨policy, hpolicy⟩

theorem denyUnknown_policyStruct (buffered : Bool) (networkType : RelayerNetworkType) :
    (policyStruct buffered networkType).denyUnknown = true := by
  cases networkType <;> rfl

theorem untagged_of_readPatch (hread : readPatch validation relayer patch = .ok request) :
    ∀ value, patch.lookup "policies" = some value → value.lookup "network_type" = none := by
  intro value hvalue
  obtain ⟨hdecode, hpolicies⟩ := readPatch_ok hread
  have hobject : patch.isObject = true := by
    cases patch with
    | obj keys entries => rfl
    | _ => cases hvalue
  obtain ⟨_, hrow⟩ := (Struct.decode_eq_some_of_isObject hobject).mp hdecode
  obtain ⟨_, hrow⟩ := Fields.decode_cons_eq_some.mp hrow
  obtain ⟨_, hrow⟩ := Fields.decode_cons_eq_some.mp hrow
  obtain ⟨hentry, _⟩ := Fields.decode_cons_eq_some.mp hrow
  change Field.decodeOptional anyDocument (patch.lookup "policies") =
    some request.policies at hentry
  rw [hvalue, Field.decodeOptional_some] at hentry
  cases hnull : value.isNull with
  | true =>
      cases value with
      | null => rfl
      | _ => cases hnull
  | false =>
      have hsame : request.policies = some value := by
        simp only [hnull, anyDocument, Bool.false_eq_true, if_false, Option.map_some,
          Option.some.injEq] at hentry
        exact hentry.symm
      obtain ⟨policy, hpolicy⟩ := hpolicies value hsame
      exact Struct.lookup_eq_none_of_decode (denyUnknown_policyStruct false _) hpolicy
        (networkType_notMem_keys false _)

/-- A patch cannot be read on its own and have a key of its own. -/
theorem lookup_eq_none_of_readPatch (hread : readPatch validation relayer patch = .ok request)
    {key : String} (hkey : key ∉ updateRelayerRequestRaw.fields.keys) : patch.lookup key = none :=
  Struct.lookup_eq_none_of_decode rfl (readPatch_ok hread).1 hkey

/-- Arrays that can be read as a patch are too short for a relayer. -/
theorem isObject_of_decode {old : RelayerDomainModel} {domain : RelayerDomainModel}
    (hread : updateRelayerRequestRaw.decode patch = some request)
    (hmerged : relayerStruct.decode (Document.mergePatch (relayerStruct.encode old) patch) =
      some domain) :
    patch.isObject = true := by
  cases patch with
  | obj keys entries => rfl
  | arr items =>
      obtain ⟨row, hitems, _⟩ := Option.map_eq_some_iff.mp hread
      obtain ⟨merged, hmerged, _⟩ := Option.map_eq_some_iff.mp hmerged
      have hshort := Fields.length_of_decodeItems hitems
      have hlong := Fields.length_of_decodeItems hmerged
      exact absurd (hshort.symm.trans hlong) (by decide)
  | _ => cases hread

end Fields

/-! ## Runs -/

section Runs

variable {validation : Validation} {services : (request : Request) → Answer request}
  {relayerId : String} {patch : Document Number} {state after : InMemoryState}
  {saved : RelayerRepoModel}

theorem handle_getRelayerById (id : String) (state : InMemoryState) :
    Task.handle (serve services) (getRelayerById id) state =
      ((state.relayers.getById id).mapError apiErrorOfRepository, state) := rfl

theorem handle_checkNotification (notificationId : Option String) (state : InMemoryState) :
    Task.handle (serve services) (checkNotification notificationId) state =
      (notificationId.elim (.ok ()) fun id =>
        (getNotification state id).mapError apiErrorOfRepository, state) := by
  cases notificationId <;> rfl

theorem getById_ok_iff {store : RelayerStore} {id : String} {relayer : RelayerRepoModel} :
    store.getById id = .ok relayer ↔ store.find id = some relayer := by
  rw [RelayerStore.getById]
  cases store.find id <;> simp

theorem getNotification_ok_iff {id : String} :
    getNotification state id = .ok () ↔ id ∈ state.notifications := by
  rw [getNotification]
  by_cases hmem : id ∈ state.notifications <;> simp [hmem]

theorem mapError_ok_iff {Error Rendered A : Type} {value : Except Error A}
    {render : Error → Rendered} {result : A} :
    value.mapError render = .ok result ↔ value = .ok result := by
  cases value <;> simp [Except.mapError]

theorem notified_iff {notificationId : Option String} :
    (notificationId.elim (.ok ()) fun id =>
        (getNotification state id).mapError apiErrorOfRepository) = .ok () ↔
      ∀ id, notificationId = some id → id ∈ state.notifications := by
  cases notificationId with
  | none => simp
  | some id => simp [mapError_ok_iff, getNotification_ok_iff]

/-- Storing succeeds where there is a relayer to update. -/
theorem handle_store {updated : RelayerRepoModel} {old : RelayerRepoModel}
    (hold : state.relayers.find relayerId = some old) :
    Task.handle (serve services) (do
      let answer ← Task.ask (Request.updateRelayer relayerId updated)
      fromRepository answer) state =
        (.ok { updated with id := relayerId },
          { state with relayers := state.relayers.modify relayerId fun _ => updated }) := by
  have hupdate : state.relayers.update relayerId updated =
      .ok ({ updated with id := relayerId },
        state.relayers.modify relayerId fun _ => updated) := by
    rw [RelayerStore.update, hold]
  change (fun answered : Except RepositoryError RelayerRepoModel × InMemoryState =>
    (answered.1.mapError apiErrorOfRepository, answered.2))
      (serve services state (.updateRelayer relayerId updated)) = _
  simp only [serve, hupdate]
  rfl

/-- What a successful update has done. -/
theorem runUpdate_ok_iff :
    runUpdate validation services relayerId patch state = (.ok saved, after) ↔
      ∃ old request updated, state.relayers.find relayerId = some old ∧
        readPatch validation old patch = .ok request ∧ old.systemDisabled = false ∧
        (∀ id, request.notificationId = some id → id ∈ state.notifications) ∧
        patchedRelayer validation old patch = .ok updated ∧
        saved = { updated with id := relayerId } ∧
        after = { state with relayers := state.relayers.modify relayerId fun _ => updated } := by
  constructor
  · intro hrun
    obtain ⟨old, _, hget, hrun⟩ := Task.handle_bind_ok.mp hrun
    rw [handle_getRelayerById, Prod.mk.injEq, mapError_ok_iff, getById_ok_iff] at hget
    obtain ⟨hold, rfl⟩ := hget
    obtain ⟨request, _, hread, hrun⟩ := Task.handle_bind_ok.mp hrun
    rw [Task.handle_ofExcept, Prod.mk.injEq] at hread
    obtain ⟨hread, rfl⟩ := hread
    obtain ⟨_, _, henabled, hrun⟩ := Task.handle_bind_ok.mp hrun
    rw [Task.handle_ofExcept, Prod.mk.injEq, require_eq_ok_iff, Bool.not_eq_true'] at henabled
    obtain ⟨henabled, rfl⟩ := henabled
    obtain ⟨_, _, hnotified, hrun⟩ := Task.handle_bind_ok.mp hrun
    rw [handle_checkNotification, Prod.mk.injEq, notified_iff] at hnotified
    obtain ⟨hnotified, rfl⟩ := hnotified
    obtain ⟨updated, _, hpatched, hrun⟩ := Task.handle_bind_ok.mp hrun
    rw [Task.handle_ofExcept, Prod.mk.injEq] at hpatched
    obtain ⟨hpatched, rfl⟩ := hpatched
    rw [handle_store hold, Prod.mk.injEq, Except.ok.injEq] at hrun
    exact ⟨old, request, updated, hold, hread, henabled, hnotified, hpatched, hrun.1.symm,
      hrun.2.symm⟩
  · rintro ⟨old, request, updated, hold, hread, henabled, hnotified, hpatched, rfl, rfl⟩
    refine Task.handle_bind_ok.mpr ⟨old, state, ?_, ?_⟩
    · rw [handle_getRelayerById, getById_ok_iff.mpr hold]
      rfl
    refine Task.handle_bind_ok.mpr ⟨request, state, ?_, ?_⟩
    · rw [Task.handle_ofExcept, hread]
    refine Task.handle_bind_ok.mpr ⟨(), state, ?_, ?_⟩
    · rw [Task.handle_ofExcept, henabled]
      rfl
    refine Task.handle_bind_ok.mpr ⟨(), state, ?_, ?_⟩
    · rw [handle_checkNotification, notified_iff.mpr hnotified]
    refine Task.handle_bind_ok.mpr ⟨updated, state, ?_, ?_⟩
    · rw [Task.handle_ofExcept, hpatched]
    exact handle_store hold

/-- What the response shows is what was stored. -/
theorem find_of_runUpdate
    (hrun : runUpdate validation services relayerId patch state = (.ok saved, after)) :
    after.relayers.find relayerId = some saved := by
  obtain ⟨old, _, _, hold, _, _, _, _, rfl, rfl⟩ := runUpdate_ok_iff.mp hrun
  exact RelayerStore.find_modify hold

end Runs

/-! ## Updates are merge patches -/

section Merge

variable {validation : Validation} {old updated : RelayerRepoModel} {domain : RelayerDomainModel}
  {patch : Document Number}

theorem patchedRelayer_ok_iff :
    patchedRelayer validation old patch = .ok updated ↔
      ∃ domain, relayerStruct.decode
          (Document.mergePatch (relayerStruct.encode old.toDomain) patch) = some domain ∧
        validate validation domain = .ok () ∧ applyDomainUpdate old domain = updated := by
  rw [patchedRelayer, mapError_ok_iff, applyJsonPatch]
  cases hread : relayerStruct.decode
      (Document.mergePatch (relayerStruct.encode old.toDomain) patch) with
  | none => simp [Except.map]
  | some domain =>
      cases hvalid : validate validation domain with
      | error error => simp [hvalid, Except.map, Bind.bind, Except.bind]
      | ok => simp [hvalid, Except.map, Bind.bind, Except.bind, pure, Except.pure]

theorem networkType_default (networkType : RelayerNetworkType) :
    (RelayerNetworkPolicy.default networkType).networkType = networkType := by
  cases networkType <;> rfl

/-- Patched policies are missing only where the patch removes them. -/
theorem policies_removed {patch : Option (Document Number)} {policies : RelayerNetworkPolicy}
    (hread : policiesField.decode (Document.patchedAt (policiesField.encode (some policies))
      patch) = some none) : ∃ value, patch = some value ∧ value.isNull = true := by
  cases patch with
  | none =>
      obtain ⟨_, _, hnone⟩ := (Field.decodeOptional_of_isObject
        (relayerNetworkPolicy.patchable.isObject_encode policies)).mp hread
      cases hnone
  | some value =>
      refine ⟨value, rfl, ?_⟩
      by_contra hnull
      rw [Bool.not_eq_true] at hnull
      have hmerged : ∀ target : Document Number,
          (Document.mergePatch target value).isNull = false := by
        intro target
        cases value with
        | null => cases hnull
        | _ => rfl
      simp only [Document.patchedAt, hnull, Bool.false_eq_true, if_false] at hread
      change Field.decodeOptional _ (some _) = _ at hread
      rw [Field.decodeOptional_some, hmerged] at hread
      simp at hread

/-- What a patch that was read on its own and merged leaves of each field. -/
theorem patched_of_decode (hobject : patch.isObject = true) :
    relayerStruct.decode (Document.mergePatch (relayerStruct.encode old.toDomain) patch) =
        some domain ↔
      relayerStruct.fields.Patched patch.lookup (relayerStruct.row old.toDomain)
        (relayerStruct.row domain) := by
  rw [Struct.decode_mergePatch_iff hobject]
  exact and_iff_right fun _ _ hdeny => nomatch hdeny

/-- The identity of a relayer is out of a patch's reach. -/
theorem identity_of_patched {relayer : RelayerRepoModel} {request : UpdateRelayerRequestRaw}
    (hread : readPatch validation relayer patch = .ok request)
    (hpatched : relayerStruct.fields.Patched patch.lookup
      (relayerStruct.row relayer.toDomain) (relayerStruct.row domain)) :
    domain.id = relayer.id ∧ domain.network = relayer.network ∧
      domain.networkType = relayer.networkType ∧ domain.signerId = relayer.signerId := by
  obtain ⟨hid, _, hnetwork, _, htype, _, hsigner, _⟩ := hpatched
  have hlossless : ∀ key, (Field.required key (Codec.string : Codec Number String)
      fun _ => rfl).Lossless := fun _ => Field.lossless_required fun _ => trivial
  exact ⟨Field.eq_of_untouched hid (lookup_eq_none_of_readPatch hread (by decide))
      (hlossless _),
    Field.eq_of_untouched hnetwork (lookup_eq_none_of_readPatch hread (by decide))
      (hlossless _),
    Field.eq_of_untouched htype (lookup_eq_none_of_readPatch hread (by decide))
      (Field.lossless_required fun _ => trivial),
    Field.eq_of_untouched hsigner (lookup_eq_none_of_readPatch hread (by decide))
      (hlossless _)⟩

/-- A relayer keeps or gets a policy of its own network. -/
theorem networkType_policies {original : RelayerRepoModel}
    (hvalid : validate validation domain = .ok ()) :
    (applyDomainUpdate original domain).policies.networkType = domain.networkType := by
  cases hpolicies : domain.policies with
  | none =>
      simp only [applyDomainUpdate, RelayerRepoModel.ofDomain, hpolicies, Option.getD_none]
      exact networkType_default domain.networkType
  | some policies =>
      simp only [applyDomainUpdate, RelayerRepoModel.ofDomain, hpolicies, Option.getD_some]
      exact networkType_of_validate hvalid hpolicies

/-- Patching what was stored reads the same relayer once more. -/
theorem patched_again (hadmits : relayerStruct.Admits patch)
    (hpatched : relayerStruct.fields.Patched patch.lookup (relayerStruct.row old.toDomain)
      (relayerStruct.row domain)) :
    relayerStruct.fields.Patched patch.lookup
      (relayerStruct.row (applyDomainUpdate old domain).toDomain)
      (relayerStruct.row domain) := by
  obtain ⟨hid, hname, hnetwork, hpaused, htype, hpolicies, hsigner, hnotification, hurls, _⟩ :=
    hpatched
  obtain ⟨aid, aname, anetwork, apaused, atype, apolicies, asigner, anotification, aurls, _⟩ :=
    hadmits
  refine ⟨Field.decode_again aid (.inr ⟨_, rfl⟩) hid,
    Field.decode_again aname (.inr ⟨_, rfl⟩) hname,
    Field.decode_again anetwork (.inr ⟨_, rfl⟩) hnetwork,
    Field.decode_again apaused (.inr ⟨_, rfl⟩) hpaused,
    Field.decode_again atype (.inr ⟨_, rfl⟩) htype, ?_,
    Field.decode_again asigner (.inr ⟨_, rfl⟩) hsigner,
    Field.decode_again anotification (.inr ⟨_, rfl⟩) hnotification,
    Field.decode_again aurls (.inr ⟨_, rfl⟩) hurls, trivial⟩
  have hagain := Field.decode_again apolicies (.inr ⟨_, rfl⟩) hpolicies
  change policiesField.decode (Document.patchedAt (policiesField.encode
    (some (domain.policies.getD (RelayerNetworkPolicy.default domain.networkType))))
    (patch.lookup "policies")) = some domain.policies
  -- Removed policies are stored as the default, and removed again.
  cases hdomain : domain.policies with
  | some policies =>
      rw [Option.getD_some, ← hdomain]
      exact hagain
  | none =>
      have hremoved : policiesField.decode (Document.patchedAt
          (policiesField.encode (some old.policies)) (patch.lookup "policies")) =
            some none := by
        rw [← hdomain]
        exact hpolicies
      obtain ⟨value, hvalue, hnull⟩ := policies_removed hremoved
      rw [hvalue]
      simp only [Document.patchedAt, hnull, if_true]
      rfl

/-- The patch means the removal of the policies exactly where it removes them. -/
theorem update_policies_removed {patch : Option (Document Number)}
    {policies : RelayerNetworkPolicy} :
    policiesField.update patch (some policies) = some none ↔
      ∃ value, patch = some value ∧ value.isNull = true := by
  cases patch with
  | none => simp [Field.update]
  | some value =>
      cases hnull : value.isNull with
      | true =>
          refine iff_of_true ?_ ⟨value, rfl, hnull⟩
          simp only [Field.update, hnull, if_true]
          rfl
      | false =>
          refine iff_of_false ?_ ?_
          · simp only [Field.update, hnull, Bool.false_eq_true, if_false]
            change ¬ (if value.isObject then _ else _) = _
            simp only [Field.decodeOptional_some, hnull, Bool.false_eq_true, if_false]
            split_ifs <;> simp
          · rintro ⟨other, hother, hnull'⟩
            cases hother
            exact absurd (hnull.symm.trans hnull') (by decide)

/-- What a patch of the relayer means for its policies. -/
theorem policies_of_update (hupdate : relayerStruct.update patch old.toDomain = some domain) :
    policiesField.update (patch.lookup "policies") (some old.policies) =
      some domain.policies := by
  rw [Struct.update, Struct.map_row_eq_some] at hupdate
  obtain ⟨_, hupdate⟩ := Fields.update_cons_eq_some.mp hupdate
  obtain ⟨_, hupdate⟩ := Fields.update_cons_eq_some.mp hupdate
  obtain ⟨_, hupdate⟩ := Fields.update_cons_eq_some.mp hupdate
  obtain ⟨_, hupdate⟩ := Fields.update_cons_eq_some.mp hupdate
  obtain ⟨_, hupdate⟩ := Fields.update_cons_eq_some.mp hupdate
  exact (Fields.update_cons_eq_some.mp hupdate).1

/-- The stored record determines the meaning of the patch that it was stored for. -/
theorem domain_unique {other : RelayerDomainModel}
    (hpatched : relayerStruct.fields.Patched patch.lookup (relayerStruct.row old.toDomain)
      (relayerStruct.row domain))
    (hupdate : relayerStruct.update patch old.toDomain = some other)
    (hsame : applyDomainUpdate old domain = applyDomainUpdate old other) : other = domain := by
  have hpolicies : other.policies = none ↔ domain.policies = none := by
    have hupdate := policies_of_update hupdate
    obtain ⟨_, _, _, _, _, hread, _⟩ := hpatched
    change policiesField.decode (Document.patchedAt (policiesField.encode (some old.policies))
      (patch.lookup "policies")) = some domain.policies at hread
    constructor
    · intro hother
      rw [hother, update_policies_removed] at hupdate
      obtain ⟨value, hvalue, hnull⟩ := hupdate
      simp only [hvalue, Document.patchedAt, hnull, if_true] at hread
      exact (Option.some.inj hread).symm
    · intro hdomain
      rw [hdomain] at hread
      rw [update_policies_removed.mpr (policies_removed hread)] at hupdate
      exact (Option.some.inj hupdate).symm
  have hequal : other.policies = domain.policies := by
    cases hdomain : domain.policies with
    | none => exact hpolicies.mpr hdomain
    | some policies =>
        cases hother : other.policies with
        | none => exact absurd (hpolicies.mp hother) (by simp [hdomain])
        | some otherPolicies =>
            have hgetD := congrArg RelayerRepoModel.policies hsame
            simp only [applyDomainUpdate, RelayerRepoModel.ofDomain, hdomain, hother,
              Option.getD_some] at hgetD
            rw [hgetD]
  cases domain
  cases other
  simp only [applyDomainUpdate, RelayerRepoModel.ofDomain, RelayerRepoModel.mk.injEq] at hsame
  simp only [RelayerDomainModel.mk.injEq] at hequal ⊢
  simp [hsame, hequal]

variable {services : (request : Request) → Answer request}

/-- An update that succeeds in memory stores a relayer of the same identity whose fields are what
the patch means for the old ones, and would store it again, exactly when every percentage
that the patch leaves alone is a finite number. -/
theorem inMemory_update_merges_patch_iff {relayerId : String} {patch : Document Number}
    {state after : InMemoryState} {old saved : RelayerRepoModel}
    (hold : state.relayers.find relayerId = some old)
    (hrun : runUpdate validation services relayerId patch state = (.ok saved, after)) :
    (after.relayers.find relayerId = some saved ∧ MergePatched patch old saved ∧
        runUpdate validation services relayerId patch after = (.ok saved, after)) ↔
      PercentagesFinite (Untouched patch) old.policies := by
  obtain ⟨stored, request, updated, hstored, hread, henabled, hnotified, hupdated, rfl, rfl⟩ :=
    runUpdate_ok_iff.mp hrun
  cases Option.some.inj (hstored.symm.trans hold)
  obtain ⟨domain, hdecode, hvalid, rfl⟩ := patchedRelayer_ok_iff.mp hupdated
  have hobject : patch.isObject = true := isObject_of_decode (readPatch_ok hread).1 hdecode
  have hadmits : relayerStruct.Admits patch := admits_of_untagged (untagged_of_readPatch hread)
  have hpatched := (patched_of_decode hobject).mp hdecode
  obtain ⟨hid, hnetwork, htype, hsigner⟩ := identity_of_patched hread hpatched
  have hkey : old.id = relayerId := (RelayerStore.find_eq_some_iff.mp hold).2
  have hsame : { applyDomainUpdate old domain with id := relayerId } =
      applyDomainUpdate old domain := by
    rw [← hkey, ← hid]
    rfl
  have hfind : (state.relayers.modify relayerId fun _ => applyDomainUpdate old domain).find
      relayerId = some (applyDomainUpdate old domain) := by
    rw [RelayerStore.find_modify hold, hsame]
  have hmerged := Struct.update_iff_of_decode hobject hadmits hdecode
  rw [hsame, ← kept_relayerStruct_iff, ← hmerged]
  constructor
  · rintro ⟨_, hmerge, _⟩
    obtain ⟨other, hother, hrecord⟩ := hmerge.merged
    rw [← domain_unique hpatched hother hrecord]
    exact hother
  · intro hmeaning
    refine ⟨hfind, ⟨hid, hnetwork, htype, hsigner, rfl, rfl, rfl,
      (networkType_policies hvalid).trans htype, domain, hmeaning, rfl⟩, ?_⟩
    rw [runUpdate_ok_iff]
    refine ⟨applyDomainUpdate old domain, request, applyDomainUpdate old domain, hfind, ?_,
      henabled, hnotified, ?_, hsame.symm, ?_⟩
    · rw [← hread, readPatch, readPatch]
      simp only [applyDomainUpdate, RelayerRepoModel.ofDomain, htype]
    · rw [patchedRelayer_ok_iff]
      exact ⟨domain, (patched_of_decode hobject).mpr (patched_again hadmits hpatched), hvalid,
        rfl⟩
    · rw [RelayerStore.modify_modify]

end Merge

/-! ## A percentage that is no number -/

/-- A server without custom RPC URLs to check. -/
def sampleValidation : Validation where
  parseUrl _ := .error "relative URL without a base"
  port _ := none
  rpcAllowedHosts := []
  rpcBlockPrivateIps := true
  parsesSchedule _ := true
  isAlphanumeric := Char.isAlphanum
  readError _ := "invalid type"
  pick _ := 0

/-- Services that no update uses. -/
def unusedServices : (request : Request) → Answer request
  | .generateUuid => ""
  | .getSigner _ | .listBySignerId _ | .getNotification _ | .createRelayer _
  | .getRelayer _ | .deleteRelayer _ | .updateRelayer .. | .countByStatus ..
  | .getNetworkByName .. => .error (.unknown "")
  | .createSigner .. | .signerAddress _ => .error ""
  | .networkRelayer .. | .initializeRelayer _ => .error (.internal "")

def sampleRelayer : RelayerRepoModel where
  id := "solana"
  name := "first"
  network := "devnet"
  paused := false
  networkType := .solana
  signerId := "signer"
  policies := .solana .default
  address := "11111111111111111111111111111111"
  notificationId := none
  systemDisabled := false
  disabledReason := none
  customRpcUrls := none

def sampleState : InMemoryState := ⟨⟨[sampleRelayer], by decide⟩, []⟩

/-- The number 1e39 as a document holds it. -/
def hugeNumber : Number :=
  match double.round false (10 ^ 39) 0 with
  | .finite negative magnitude => .float negative magnitude
  | _ => .posInt 0

/-- Sets the fee margin to a number beyond single precision. -/
def hugeMarginPatch : Document Number :=
  .object [("policies", .object [("fee_margin_percentage", .num hugeNumber)])]

def renamePatch : Document Number := .object [("name", .str "second")]

/-- The relayers after the fee margin was set. -/
def hugeMarginState : InMemoryState :=
  (runUpdate sampleValidation unusedServices "solana" hugeMarginPatch sampleState).2

theorem update_merges_rename :
    ∃ saved after,
      runUpdate sampleValidation unusedServices "solana" renamePatch sampleState =
        (.ok saved, after) ∧
      after.relayers.find "solana" = some saved ∧
      MergePatched renamePatch sampleRelayer saved ∧
      runUpdate sampleValidation unusedServices "solana" renamePatch after =
        (.ok saved, after) := by
  have hok : (runUpdate sampleValidation unusedServices "solana" renamePatch
      sampleState).1.isOk = true := by decide +kernel
  obtain ⟨saved, hsaved⟩ := exists_of_isOk hok
  refine ⟨saved, _, Prod.ext hsaved rfl, ?_⟩
  have hold : sampleState.relayers.find "solana" = some sampleRelayer := rfl
  rw [inMemory_update_merges_patch_iff hold (Prod.ext hsaved rfl)]
  exact ⟨fun _ _ hsome => (nomatch hsome), fun _ _ hsome => (nomatch hsome)⟩

/-- A patch stores an infinite fee margin, and renaming the relayer drops it. -/
theorem rename_drops_infinite_margin :
    ∃ old saved after,
      runUpdate sampleValidation unusedServices "solana" hugeMarginPatch sampleState =
        (.ok old, hugeMarginState) ∧
      hugeMarginState.relayers.find "solana" = some old ∧
      runUpdate sampleValidation unusedServices "solana" renamePatch hugeMarginState =
        (.ok saved, after) ∧
      ¬ MergePatched renamePatch old saved := by
  have hfirst : (runUpdate sampleValidation unusedServices "solana" hugeMarginPatch
      sampleState).1.isOk = true := by decide +kernel
  have hsecond : (runUpdate sampleValidation unusedServices "solana" renamePatch
      hugeMarginState).1.isOk = true := by decide +kernel
  obtain ⟨old, hold⟩ := exists_of_isOk hfirst
  obtain ⟨saved, hsaved⟩ := exists_of_isOk hsecond
  have hrun : runUpdate sampleValidation unusedServices "solana" hugeMarginPatch sampleState =
      (.ok old, hugeMarginState) := Prod.ext hold rfl
  refine ⟨old, saved, _, hrun, find_of_runUpdate hrun, Prod.ext hsaved rfl, ?_⟩
  intro hmerged
  obtain ⟨domain, hdomain, hrecord⟩ := hmerged.merged
  have hkept : domain.policies = some old.policies :=
    (Option.some.inj (policies_of_update hdomain)).symm
  have hbefore : (runUpdate sampleValidation unusedServices "solana" hugeMarginPatch
      sampleState).1.toOption.map RelayerRepoModel.policies =
        some (.solana { RelayerSolanaPolicy.default with
          feeMarginPercentage := some (.infinite false) }) := by decide +kernel
  have hafter : (runUpdate sampleValidation unusedServices "solana" renamePatch
      hugeMarginState).1.toOption.map RelayerRepoModel.policies =
        some (.solana RelayerSolanaPolicy.default) := by decide +kernel
  rw [hold] at hbefore
  rw [hsaved] at hafter
  have hsame : saved.policies = old.policies := by
    rw [hrecord, applyDomainUpdate, RelayerRepoModel.ofDomain, hkept]
    rfl
  have hpolicies := hafter.symm.trans ((congrArg some hsame).trans hbefore)
  exact absurd hpolicies (by decide)

end Relayer.RelayerUpdate
