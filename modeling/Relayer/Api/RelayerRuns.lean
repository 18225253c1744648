import Relayer.Api.RelayerUpdate
import Relayer.Core.Protocol

/-!
# Interleaved relayer management

Any number of requests create, update and delete relayers at the same time.  A
signer should serve one relayer per network, and the code checks this by listing the
relayers of the signer before it creates one.

What the requests do to each other is told in terms of holdings: which relayer holds
which signer on which network.  An update leaves the holdings as they are, provided
that the relayer it writes is the one it read.

With Redis, reads go to a replica, which may be behind the store that is written.
-/

namespace Relayer.RelayerRuns

open Relayer.Interaction
open Relayer.Interleaving
open Relayer.Json
open Relayer.Numbers
open Relayer.Policies
open Relayer.RelayerModel
open Relayer.RelayerRepository
open Relayer.RelayerUpdate
open Relayer.Relayers
open Relayer.Transaction

/-! ## Who holds which signer -/

/-- The signer and the network of a relayer. -/
def assignment (relayer : RelayerRepoModel) : String × String :=
  (relayer.signerId, relayer.network)

/-- The assignment of each stored relayer, under its id. -/
def holdings (store : RelayerStore) : List (String × String × String) :=
  store.records.map fun relayer => (relayer.id, assignment relayer)

/-- No two stored relayers share both signer and network. -/
def SignersUnshared (store : RelayerStore) : Prop :=
  (store.records.map assignment).Nodup

instance (store : RelayerStore) : Decidable (SignersUnshared store) :=
  inferInstanceAs (Decidable (List.Nodup _))

section Holdings

variable {store : RelayerStore} {relayer : RelayerRepoModel} {id : String}

theorem map_snd_holdings (store : RelayerStore) :
    (holdings store).map Prod.snd = store.records.map assignment := by
  simp [holdings, Function.comp_def]

end Holdings

/-! ## The requests and what they share -/

inductive RelayerRequest where
  | create (request : CreateRelayerRequest)
  | update (relayerId : String) (patch : Document Number)
  | delete (relayerId : String)

def RelayerRequest.run (validation : Validation) : RelayerRequest → Step Unit
  | .create request => do
      let _ ← createRelayer validation request
      return ()
  | .update relayerId patch => do
      let _ ← updateRelayer validation relayerId patch
      return ()
  | .delete relayerId => deleteRelayer relayerId

/-- A store as it was when so many assignments had been created and so many ids removed. -/
structure Version where
  store : RelayerStore
  created : ℕ
  removed : ℕ

/-- The stored relayers with their earlier versions, and a record of the assignments that
were created and the ids that were removed.  For each caller, `listed` is how many
assignments had been created in the version in which it last listed the relayers of a
signer, and `read` how many ids had been removed in the version that it last read. -/
structure Shared (Caller : Type) where
  store : RelayerStore
  versions : List Version
  created : List (String × String)
  removed : List String
  listed : Caller → ℕ
  read : Caller → ℕ

section Requests

variable {Caller : Type}

/-- A write that the repository refuses. -/
def refused {A : Type} (shared : Shared Caller) : Except RepositoryError A → List (Shared Caller)
  | .ok _ => []
  | .error _ => [shared]

def Shared.current (shared : Shared Caller) : Version :=
  ⟨shared.store, shared.created.length, shared.removed.length⟩

/-- The versions that a read may see. -/
def Shared.readable (replicated : Bool) (shared : Shared Caller) : List Version :=
  shared.current :: if replicated then shared.versions else []

def Shared.become (shared : Shared Caller) (store : RelayerStore) : Shared Caller :=
  { shared with store := store, versions := shared.current :: shared.versions }

/-- The relayers of a signer in one version, as far as another one has their ids. -/
def Version.listBySignerId (ids version : Version) (signerId : String) : List RelayerRepoModel :=
  (version.store.listBySignerId signerId).filter fun relayer =>
    relayer.id ∈ ids.store.records.map RelayerRepoModel.id

/-- How the repository and the services answer.  Relayers are listed in any order: their
ids are read first, and then the relayers. -/
def serve [DecidableEq Caller] (replicated : Bool) (shared : Shared Caller) (caller : Caller) :
    (request : Request) → Answer request → List (Shared Caller)
  | .listBySignerId signerId, answer =>
      match answer with
      | .ok told => (shared.readable replicated).flatMap fun ids =>
          ((shared.readable replicated).filter fun version =>
            told.Perm (ids.listBySignerId version signerId)).map fun version =>
              { shared with
                listed := Function.update shared.listed caller
                  (min ids.created version.created) }
      | .error _ => [shared]
  | .createRelayer relayer, answer =>
      match shared.store.create relayer with
      | .ok store =>
          written shared
            { shared.become store with created := shared.created ++ [assignment relayer] }
            relayer answer
      | .error _ => refused shared answer
  | .getRelayer id, answer =>
      match answer with
      | .ok told => ((shared.readable replicated).filter fun version =>
          version.store.find id = some told).map fun version =>
            { shared with read := Function.update shared.read caller version.removed }
      | .error _ => [shared]
  | .updateRelayer id relayer, answer =>
      match shared.store.update id relayer with
      | .ok (updated, store) => written shared (shared.become store) updated answer
      | .error _ => refused shared answer
  | .deleteRelayer id, answer =>
      match shared.store.deleteById id with
      | .ok store =>
          written shared { shared.become store with removed := shared.removed ++ [id] } () answer
      | .error _ => refused shared answer
  | _, _ => [shared]

/-- What the running relayers and the policy endpoints change of a stored relayer. -/
structure RuntimeChange where
  id : String
  paused : Bool
  policies : RelayerNetworkPolicy
  systemDisabled : Bool
  disabledReason : Option DisabledReason

def RuntimeChange.apply (change : RuntimeChange) (relayer : RelayerRepoModel) :
    RelayerRepoModel :=
  { relayer with
    paused := change.paused
    policies := change.policies
    systemDisabled := change.systemDisabled
    disabledReason := change.disabledReason }

def occur (shared : Shared Caller) (change : RuntimeChange) : List (Shared Caller) :=
  [shared.become (shared.store.modify change.id change.apply)]

abbrev Management (Caller : Type) :=
  System Request Answer (Shared Caller) RuntimeChange Caller (Except ApiError Unit)

abbrev Management.Config (Caller : Type) :=
  Interleaving.Config Request Answer (Shared Caller) Caller (Except ApiError Unit)

/-- Nobody comes in between: a relayer is created only if its assignment was not created
by another request since the version in which the signer's relayers were listed, and
updated only if its id was not removed since the version that was read. -/
def undisturbed (shared : Shared Caller) (caller : Caller) : Request → Bool
  | .createRelayer relayer =>
      decide (assignment relayer ∉ shared.created.drop (shared.listed caller))
  | .updateRelayer id _ => decide (id ∉ shared.removed.drop (shared.read caller))
  | _ => true

def initial (store : RelayerStore) : Management.Config Caller :=
  ⟨⟨store, [], [], [], fun _ => 0, fun _ => 0⟩, []⟩

/-! ## What one step does to the holdings -/

/-- A step keeps the holdings, adds one whose assignment is free or removes those of an
id. -/
inductive Move (shared after : Shared Caller) : Prop where
  | keep (hholdings : holdings after.store = holdings shared.store)
      (hcreated : after.created = shared.created) (hremoved : after.removed = shared.removed)
  | add (id : String) (pair : String × String)
      (hfree : pair ∉ (holdings shared.store).map Prod.snd)
      (hholdings : holdings after.store = holdings shared.store ++ [(id, pair)])
      (hcreated : after.created = shared.created ++ [pair])
      (hremoved : after.removed = shared.removed)
  | remove (id : String)
      (hholdings : holdings after.store =
        (holdings shared.store).filter fun holding => holding.1 ≠ id)
      (hcreated : after.created = shared.created)
      (hremoved : after.removed = shared.removed ++ [id])

section Moves

variable {shared after : Shared Caller}

/-- No step makes two relayers share an assignment. -/
theorem Move.unshared (hmove : Move shared after) (hunshared : SignersUnshared shared.store) :
    SignersUnshared after.store := by
  rw [SignersUnshared, ← map_snd_holdings] at hunshared ⊢
  cases hmove with
  | keep hholdings hcreated hremoved =>
      rw [hholdings]
      exact hunshared
  | add id pair hfree hholdings hcreated hremoved =>
      rw [hholdings, List.map_append]
      exact List.nodup_append'.mpr
        ⟨hunshared, List.nodup_singleton _, List.disjoint_singleton.mpr hfree⟩
  | remove id hholdings hcreated hremoved =>
      rw [hholdings]
      exact hunshared.sublist (List.filter_sublist.map _)

/-- The last entry of a log is behind every earlier length. -/
theorem mem_drop_append {A : Type} {log : List A} {length : ℕ} {entry last : A}
    (hle : length ≤ log.length) :
    entry ∈ (log ++ [last]).drop length ↔ entry ∈ log.drop length ∨ entry = last := by
  rw [List.drop_append_of_le_length hle, List.mem_append, List.mem_singleton]

end Moves

/-! ## What a request knows -/

/-- Nobody holds the assignment under the id, unless it was created since the position. -/
structure Unused (position : ℕ) (holding : String × String × String) (shared : Shared Caller) :
    Prop where
  listed : position ≤ shared.created.length
  free : holding ∉ holdings shared.store ∨ holding.2 ∈ shared.created.drop position

/-- The relayer holds its assignment, unless it was removed since the position. -/
structure Known (position : ℕ) (holding : String × String × String) (shared : Shared Caller) :
    Prop where
  read : position ≤ shared.removed.length
  holds : holding ∈ holdings shared.store ∨ holding.1 ∈ shared.removed.drop position

/-- What a version says of the stored relayers. -/
structure Recalls (version : Version) (shared : Shared Caller) : Prop where
  unused : ∀ holding, holding ∉ holdings version.store → Unused version.created holding shared
  known : ∀ holding ∈ holdings version.store, Known version.removed holding shared

/-- No signer is shared, and the versions are versions of this store. -/
structure Sound (shared : Shared Caller) : Prop where
  unshared : SignersUnshared shared.store
  recalls : ∀ version ∈ shared.versions, Recalls version shared

/-- The relayers that were listed last, with their signer, and the relayer that was read
last, with its id. -/
structure Notes where
  listed : Option (String × List RelayerRepoModel) := none
  read : Option (String × RelayerRepoModel) := none

/-- No relayer on the network was among those listed for the signer. -/
def Notes.Free (notes : Notes) (signerId network : String) : Prop :=
  ∃ told, notes.listed = some (signerId, told) ∧
    told.find? (fun existing => existing.network == network) = none

/-- A relayer with this assignment was read under the id. -/
def Notes.Read (notes : Notes) (id : String) (pair : String × String) : Prop :=
  ∃ relayer, notes.read = some (id, relayer) ∧ assignment relayer = pair

/-- A relayer is created under an assignment that was found free, and written back under
the one it was read with. -/
def checking : Protocol Request Answer Notes where
  allowed notes
    | .createRelayer relayer => notes.Free relayer.signerId relayer.network
    | .updateRelayer id relayer => notes.Read id (assignment relayer)
    | _ => True
  possible _ _ _ := True
  remember notes
    | .listBySignerId signerId, .ok told => { notes with listed := some (signerId, told) }
    | .getRelayer id, .ok relayer => { notes with read := some (id, relayer) }
    | _, _ => notes

/-- What the notes say of the stored relayers. -/
structure Knows (caller : Caller) (notes : Notes) (shared : Shared Caller) : Prop where
  unused : ∀ signerId network, notes.Free signerId network →
    ∀ id, Unused (shared.listed caller) (id, signerId, network) shared
  known : ∀ id pair, notes.Read id pair → Known (shared.read caller) (id, pair) shared

section Knowledge

variable {caller : Caller} {shared after : Shared Caller} {notes : Notes} {position : ℕ}
  {holding : String × String × String}

theorem Unused.move (hunused : Unused position holding shared) (hmove : Move shared after) :
    Unused position holding after := by
  obtain ⟨hlength, hfree⟩ := hunused
  cases hmove with
  | keep hholdings hcreated hremoved =>
      constructor
      · rwa [hcreated]
      · rwa [hcreated, hholdings]
  | add id added hnew hholdings hcreated hremoved =>
      constructor
      · rw [hcreated, List.length_append]
        exact hlength.trans (Nat.le_add_right _ _)
      · rw [hcreated, hholdings, mem_drop_append hlength, List.mem_append, List.mem_singleton]
        by_cases hsame : holding.2 = added
        · exact .inr (.inr hsame)
        · exact hfree.imp (fun hnone hmem =>
            hmem.elim hnone fun hlast => hsame (congrArg Prod.snd hlast)) .inl
  | remove id hholdings hcreated hremoved =>
      constructor
      · rwa [hcreated]
      · rw [hcreated, hholdings]
        exact hfree.imp_left fun hnone hmem => hnone (List.mem_filter.mp hmem).1

/-- An earlier position says less. -/
theorem Unused.mono {earlier : ℕ} (hunused : Unused position holding shared)
    (hle : earlier ≤ position) : Unused earlier holding shared :=
  ⟨hle.trans hunused.listed,
    hunused.free.imp_right fun hmem => (List.drop_subset_drop_left _ hle) hmem⟩

theorem Known.move (hknown : Known position holding shared) (hmove : Move shared after) :
    Known position holding after := by
  obtain ⟨hlength, hholds⟩ := hknown
  cases hmove with
  | keep hholdings hcreated hremoved =>
      constructor
      · rwa [hremoved]
      · rwa [hremoved, hholdings]
  | add other added hnew hholdings hcreated hremoved =>
      constructor
      · rwa [hremoved]
      · rw [hremoved, hholdings]
        exact hholds.imp_left (List.mem_append_left _)
  | remove gone hholdings hcreated hremoved =>
      constructor
      · rw [hremoved, List.length_append]
        exact hlength.trans (Nat.le_add_right _ _)
      · rw [hremoved, hholdings, mem_drop_append hlength, List.mem_filter]
        by_cases hsame : holding.1 = gone
        · exact .inr (.inr hsame)
        · exact hholds.imp (fun hmem => ⟨hmem, by simpa using hsame⟩) .inl

theorem recalls_current (shared : Shared Caller) : Recalls shared.current shared :=
  ⟨fun _ hnone => ⟨le_rfl, .inl hnone⟩, fun _ hmem => ⟨le_rfl, .inl hmem⟩⟩

theorem Sound.move (hsound : Sound shared) (hmove : Move shared after)
    (hversions : after.versions ⊆ shared.current :: shared.versions) : Sound after := by
  refine ⟨hmove.unshared hsound.unshared, fun version hmem => ?_⟩
  have hrecalls : Recalls version shared := by
    rcases List.mem_cons.mp (hversions hmem) with rfl | hold
    · exact recalls_current shared
    · exact hsound.recalls version hold
  exact ⟨fun holding hnone => (hrecalls.unused holding hnone).move hmove,
    fun holding hheld => (hrecalls.known holding hheld).move hmove⟩

theorem Sound.readable {replicated : Bool} {version : Version} (hsound : Sound shared)
    (hmem : version ∈ shared.readable replicated) : Recalls version shared := by
  rcases List.mem_cons.mp hmem with rfl | hold
  · exact recalls_current shared
  · cases replicated with
    | true => exact hsound.recalls version hold
    | false => cases hold

theorem Knows.move (hknows : Knows caller notes shared) (hmove : Move shared after)
    (hlisted : after.listed caller = shared.listed caller)
    (hread : after.read caller = shared.read caller) : Knows caller notes after := by
  refine ⟨fun signerId network hfree id => ?_, fun id pair hnoted => ?_⟩
  · rw [hlisted]
    exact (hknows.unused signerId network hfree id).move hmove
  · rw [hread]
    exact (hknows.known id pair hnoted).move hmove

theorem Knows.start (caller : Caller) (shared : Shared Caller) : Knows caller {} shared :=
  ⟨fun _ _ ⟨_, hnone, _⟩ => (nomatch hnone), fun _ _ ⟨_, hnone, _⟩ => (nomatch hnone)⟩

end Knowledge

/-! ## The steps keep what the others know -/

/-- What one call leaves: a move, at most one more version, true notes of the caller, and the
log positions of the others. -/
structure Kept (caller : Caller) (notes : Notes) (shared after : Shared Caller) : Prop where
  move : Move shared after
  versions : after.versions ⊆ shared.current :: shared.versions
  knows : Knows caller notes after
  others : ∀ other, other ≠ caller →
    after.listed other = shared.listed other ∧ after.read other = shared.read other

section Steps

variable {caller : Caller} {shared after : Shared Caller} {notes : Notes} {id : String}
  {relayer : RelayerRepoModel}

theorem Knows.kept (hknows : Knows caller notes shared) (hmove : Move shared after)
    (hversions : after.versions ⊆ shared.current :: shared.versions)
    (hlisted : after.listed = shared.listed) (hread : after.read = shared.read) :
    Kept caller notes shared after :=
  ⟨hmove, hversions, hknows.move hmove (congrFun hlisted caller) (congrFun hread caller),
    fun other _ => ⟨congrFun hlisted other, congrFun hread other⟩⟩

variable [DecidableEq Caller] {replicated : Bool}

end Steps

end Requests

/-! ## The requests keep to their checks -/

/-- The calls that neither create nor update a relayer. -/
def Harmless : Request → Prop
  | .createRelayer _ | .updateRelayer .. => False
  | _ => True

section Programs

variable {validation : Validation} {notes : Notes} {A B : Type}
  {request : CreateRelayerRequest} {relayer : RelayerDomainModel} {task : Step A}
  {next : A → Step B} {goal : Notes → B → Prop}

abbrev Keeps (goal : Notes → A → Prop) (notes : Notes) (task : Step A) : Prop :=
  FollowsTask checking (fun _ => True) goal notes task

end Programs

/-! ## Whole runs -/

section Runs

variable {Caller : Type} [DecidableEq Caller]

variable {validation : Validation} {requests : Caller → RelayerRequest}

end Runs

/-! ## Two relayers for one signer -/

end Relayer.RelayerRuns
