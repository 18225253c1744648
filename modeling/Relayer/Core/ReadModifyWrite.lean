import Relayer.Core.Protocol

/-!
# Records that are read and written back

An update of a stored record reads it, changes its copy and writes the whole copy back, or
does this in one step.  If every copy is written back while the record is still the one that
was read, then the updates that have succeeded had the effect of one after the other, in the
order of their writes.

What an update makes of a record is a parameter; it may refuse.
-/

namespace Relayer.ReadModifyWrite

open Relayer.Interaction Relayer.Interleaving

variable {Record Update : Type}

/-- The record, all records that were stored so far, the updates that were written, in this
order, and those that have read the record as it still is. -/
structure Shared (Record Update : Type) where
  record : Record
  versions : List Record
  completed : List Update
  current : List Update

def Shared.first (record : Record) : Shared Record Update := ⟨record, [record], [], []⟩

def Shared.read [DecidableEq Record] (shared : Shared Record Update) (update : Update)
    (told : Record) : Shared Record Update :=
  if told = shared.record then { shared with current := update :: shared.current } else shared

def Shared.write (shared : Shared Record Update) (update : Update) (record : Record) :
    Shared Record Update :=
  ⟨record, record :: shared.versions, shared.completed ++ [update], []⟩

/-- The updates one after the other. -/
def applyAll (apply : Update → Record → Option Record) (record : Record)
    (order : List Update) : Option Record :=
  order.foldlM (fun current update => apply update current) record

theorem applyAll_concat {apply : Update → Record → Option Record} {record middle last : Record}
    {order : List Update} {update : Update} (horder : applyAll apply record order = some middle)
    (hlast : apply update middle = some last) :
    applyAll apply record (order ++ [update]) = some last := by
  rw [applyAll, List.foldlM_append]
  change (applyAll apply record order).bind _ = _
  rw [horder]
  simpa using hlast

/-- What an update knows about its own progress. -/
inductive Memory (Record : Type) where
  | fresh
  | read (told : Record)
  | finished

def Recalled (update : Update) (memory : Memory Record) (shared : Shared Record Update) : Prop :=
  match memory with
  | .fresh => update ∉ shared.completed ∧ update ∉ shared.current
  | .read told => update ∉ shared.completed ∧ (update ∈ shared.current → shared.record = told)
  | .finished => update ∈ shared.completed

structure InOrder (apply : Update → Record → Option Record) (first : Record)
    (shared : Shared Record Update) : Prop where
  applied : applyAll apply first shared.completed = some shared.record
  nodup : shared.completed.Nodup

variable {apply : Update → Record → Option Record} {first told record : Record}
  {shared : Shared Record Update} {update other : Update} {memory : Memory Record}

theorem InOrder.start : InOrder apply first (Shared.first first) := ⟨rfl, List.nodup_nil⟩

theorem InOrder.write (horder : InOrder apply first shared) (hnew : update ∉ shared.completed)
    (hrecord : apply update shared.record = some record) :
    InOrder apply first (shared.write update record) := by
  refine ⟨applyAll_concat horder.applied hrecord, ?_⟩
  rw [Shared.write, ← List.concat_eq_append]
  exact horder.nodup.concat hnew

theorem Recalled.mem_completed_iff (hrecalled : Recalled update memory shared) :
    update ∈ shared.completed ↔ memory = .finished := by
  cases memory with
  | fresh => exact iff_of_false hrecalled.1 nofun
  | read told => exact iff_of_false hrecalled.1 nofun
  | finished => exact iff_of_true hrecalled rfl

theorem Recalled.write : Recalled update .finished (shared.write update record) :=
  List.mem_append_right _ (List.mem_singleton_self _)

/-- A write makes the copies of all others old. -/
theorem Recalled.write_other (hother : other ≠ update)
    (hrecalled : Recalled other memory shared) :
    Recalled other memory (shared.write update record) := by
  have hlast : other ∉ shared.completed → other ∉ shared.completed ++ [update] := by
    intro hout hmem
    rcases List.mem_append.mp hmem with hin | hin
    · exact hout hin
    · exact hother (List.mem_singleton.mp hin)
  cases memory with
  | fresh => exact ⟨hlast hrecalled.1, nofun⟩
  | read told => exact ⟨hlast hrecalled.1, nofun⟩
  | finished => exact List.mem_append_left _ hrecalled

section Read

variable [DecidableEq Record]

theorem InOrder.read (horder : InOrder apply first shared) :
    InOrder apply first (shared.read update told) := by
  rw [Shared.read]
  split_ifs
  · exact ⟨horder.applied, horder.nodup⟩
  · exact horder

theorem Recalled.read (hrecalled : Recalled update .fresh shared) :
    Recalled update (.read told) (shared.read update told) := by
  rw [Shared.read]
  split_ifs with hcurrent
  · exact ⟨hrecalled.1, fun _ => hcurrent.symm⟩
  · exact ⟨hrecalled.1, fun hmem => absurd hmem hrecalled.2⟩

theorem Recalled.read_other (hother : other ≠ update)
    (hrecalled : Recalled other memory shared) :
    Recalled other memory (shared.read update told) := by
  rw [Shared.read]
  split_ifs
  · cases memory with
    | fresh => exact ⟨hrecalled.1, by simpa [hother] using hrecalled.2⟩
    | read told => exact ⟨hrecalled.1, fun hmem => hrecalled.2 (by simpa [hother] using hmem)⟩
    | finished => exact hrecalled
  · exact hrecalled

end Read

/-! ## Runs of updates -/

section Runs

variable {Call Event Result : Type} {Answer : Call → Type}
  {config : Config Call Answer (Shared Record Update) Update Result}

/-- The updates that have succeeded. -/
def succeeded (success : Result → Bool)
    (config : Config Call Answer (Shared Record Update) Update Result) : List Update :=
  (config.jobs.filter fun job => match job.2 with
    | .done result => success result
    | .call .. => false).map Prod.fst

/-- The stored record is that of the updates that have succeeded, one after the other. -/
def Linearizable (apply : Update → Record → Option Record) (success : Result → Bool)
    (first : Record) (config : Config Call Answer (Shared Record Update) Update Result) : Prop :=
  ∃ order, order.Perm (succeeded success config) ∧
    applyAll apply first order = some config.state.record

/-- If each update knows its progress, and has written where it succeeds, then those that
have succeeded took effect in the order of their writes. -/
theorem InOrder.linearizable
    {system : System Call Answer (Shared Record Update) Event Update Result}
    {protocol : Update → Protocol Call Answer (Memory Record)}
    {ends : Update → Memory Record → Result → Prop} {memories : Update → Memory Record}
    {success : Result → Bool} (horder : InOrder apply first config.state)
    (hrecalled : ∀ update, Recalled update (memories update) config.state)
    (hrecalls : config.Recalls system protocol ends .fresh memories)
    (hends : ∀ update memory result, ends update memory result →
      (success result = true ↔ memory = .finished))
    (hlast : ∀ update request, ¬ (protocol update).allowed .finished request) :
    Linearizable apply success first config := by
  refine ⟨config.state.completed, ?_, horder.applied⟩
  have hnodup : (succeeded success config).Nodup :=
    hrecalls.nodup.sublist (List.filter_sublist.map Prod.fst)
  refine (List.perm_ext_iff_of_nodup horder.nodup hnodup).mpr fun update => ?_
  rw [(hrecalled update).mem_completed_iff]
  constructor
  · intro hmemory
    have hused : update ∈ config.jobs.map Prod.fst := by
      by_contra hunused
      rw [hrecalls.unused update hunused] at hmemory
      cases hmemory
    obtain ⟨⟨_, program⟩, hmem, rfl⟩ := List.mem_map.mp hused
    have hfollows := hrecalls.follows _ hmem
    rw [hmemory] at hfollows
    cases program with
    | done result =>
        exact List.mem_map_of_mem (List.mem_filter.mpr
          ⟨hmem, (hends _ _ _ hfollows).mpr rfl⟩)
    | call request next => exact absurd hfollows.1 (hlast _ request)
  · intro hsucceeded
    obtain ⟨⟨name, program⟩, hmem, rfl⟩ := List.mem_map.mp hsucceeded
    obtain ⟨hjob, hsuccess⟩ := List.mem_filter.mp hmem
    cases program with
    | done result => exact (hends _ _ _ (hrecalls.ended hjob)).mp hsuccess
    | call request next => cases hsuccess

end Runs

end Relayer.ReadModifyWrite
