import Relayer.Models.Relayer

/-!
# The relayer repository

Relayers are kept under their ids.  Creating refuses an id that is taken,
updating and deleting one that is not, and an update never changes the id.
-/

namespace Relayer.RelayerRepository

open Relayer.RelayerModel
open Relayer.Policies
open Relayer.Transaction

/-- The stored relayers, in the order in which they are listed. -/
structure RelayerStore where
  records : List RelayerRepoModel
  nodup : (records.map RelayerRepoModel.id).Nodup

namespace RelayerStore

def find (store : RelayerStore) (id : String) : Option RelayerRepoModel :=
  store.records.find? fun relayer => relayer.id == id

def notFound (id : String) : RepositoryError :=
  .notFound s!"Relayer with ID {id} not found"

def getById (store : RelayerStore) (id : String) : Except RepositoryError RelayerRepoModel :=
  match store.find id with
  | some relayer => .ok relayer
  | none => .error (notFound id)

def listBySignerId (store : RelayerStore) (signerId : String) : List RelayerRepoModel :=
  store.records.filter fun relayer => relayer.signerId == signerId

/-- Adds a relayer whose id is free. -/
def add (store : RelayerStore) (relayer : RelayerRepoModel)
    (hfree : relayer.id ∉ store.records.map RelayerRepoModel.id) : RelayerStore where
  records := store.records ++ [relayer]
  nodup := by
    rw [List.map_append]
    exact List.nodup_append'.mpr ⟨store.nodup, List.nodup_singleton _,
      List.disjoint_singleton.mpr hfree⟩

def create (store : RelayerStore) (relayer : RelayerRepoModel) :
    Except RepositoryError RelayerStore :=
  if hfree : relayer.id ∉ store.records.map RelayerRepoModel.id then
    .ok (store.add relayer hfree)
  else
    let id := relayer.id
    .error (.constraintViolation s!"Relayer with ID {id} already exists")

/-- Changes the relayer under an id, which it keeps. -/
def modify (store : RelayerStore) (id : String)
    (change : RelayerRepoModel → RelayerRepoModel) : RelayerStore where
  records := store.records.map fun relayer =>
    if relayer.id = id then { change relayer with id := id } else relayer
  nodup := by
    have hids : (store.records.map fun relayer =>
        if relayer.id = id then { change relayer with id := id } else relayer).map
          RelayerRepoModel.id = store.records.map RelayerRepoModel.id := by
      rw [List.map_map]
      apply List.map_congr_left
      intro relayer _
      by_cases hid : relayer.id = id
      · simp [hid]
      · simp [hid]
    rw [hids]
    exact store.nodup

def update (store : RelayerStore) (id : String) (relayer : RelayerRepoModel) :
    Except RepositoryError (RelayerRepoModel × RelayerStore) :=
  match store.find id with
  | some _ => .ok ({ relayer with id := id }, store.modify id fun _ => relayer)
  | none => .error (notFound id)

def remove (store : RelayerStore) (id : String) : RelayerStore where
  records := store.records.filter fun relayer => relayer.id ≠ id
  nodup := store.nodup.sublist (List.filter_sublist.map _)

def deleteById (store : RelayerStore) (id : String) : Except RepositoryError RelayerStore :=
  match store.find id with
  | some _ => .ok (store.remove id)
  | none => .error (notFound id)

/-! ## What the operations leave -/

theorem find_eq_some_iff {store : RelayerStore} {id : String} {relayer : RelayerRepoModel} :
    store.find id = some relayer ↔ relayer ∈ store.records ∧ relayer.id = id := by
  constructor
  · intro hfind
    exact ⟨List.mem_of_find?_eq_some hfind, by simpa using List.find?_some hfind⟩
  · rintro ⟨hmem, rfl⟩
    obtain ⟨first, hfirst⟩ : ∃ first, store.find relayer.id = some first := by
      rw [← Option.isSome_iff_exists, find, List.find?_isSome]
      exact ⟨relayer, hmem, beq_self_eq_true _⟩
    have hid : first.id = relayer.id := by simpa using List.find?_some hfirst
    rw [hfirst, List.inj_on_of_nodup_map store.nodup (List.mem_of_find?_eq_some hfirst) hmem hid]

theorem find_modify {store : RelayerStore} {id : String}
    {change : RelayerRepoModel → RelayerRepoModel} {relayer : RelayerRepoModel}
    (hfind : store.find id = some relayer) :
    (store.modify id change).find id = some { change relayer with id := id } := by
  obtain ⟨hmem, hid⟩ := find_eq_some_iff.mp hfind
  rw [find_eq_some_iff]
  refine ⟨List.mem_map.mpr ⟨relayer, hmem, if_pos hid⟩, rfl⟩

/-- Writing the same record again changes nothing. -/
theorem modify_modify (store : RelayerStore) (id : String) (relayer : RelayerRepoModel) :
    (store.modify id fun _ => relayer).modify id (fun _ => relayer) =
      store.modify id fun _ => relayer := by
  simp only [modify, List.map_map, RelayerStore.mk.injEq]
  apply List.map_congr_left
  intro stored _
  by_cases hid : stored.id = id
  · simp [hid]
  · simp [hid]

end RelayerStore

end Relayer.RelayerRepository
