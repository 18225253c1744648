import Mathlib

/-!
# Sorted sets

A store of members with scores, where each member is present at most once.  Adding a member
that is there already changes its score.
-/

namespace Relayer.Scored

structure ScoredSet (Member : Type) where
  entries : List (Member × ℤ)
  nodup : (entries.map Prod.fst).Nodup

namespace ScoredSet

variable {Member : Type} [DecidableEq Member] {set : ScoredSet Member} {member : Member}

def members (set : ScoredSet Member) : List Member := set.entries.map Prod.fst

def empty : ScoredSet Member := ⟨[], List.nodup_nil⟩

def add (set : ScoredSet Member) (member : Member) (score : ℤ) : ScoredSet Member where
  entries := set.entries.filter (fun entry => entry.1 ≠ member) ++ [(member, score)]
  nodup := by
    rw [List.map_append, List.map_singleton, ← List.concat_eq_append]
    refine (set.nodup.sublist (List.filter_sublist.map Prod.fst)).concat ?_
    simp

def removeAll (set : ScoredSet Member) (gone : List Member) : ScoredSet Member where
  entries := set.entries.filter fun entry => entry.1 ∉ gone
  nodup := set.nodup.sublist (List.filter_sublist.map Prod.fst)

theorem count_add (hnew : member ∉ set.members) (score : ℤ) (other : Member) :
    (set.add member score).members.count other =
      set.members.count other + [member].count other := by
  have hkept : set.entries.filter (fun entry => entry.1 ≠ member) = set.entries := by
    refine List.filter_eq_self.mpr fun entry hentry => ?_
    have hne : entry.1 ≠ member := fun heq => hnew (heq ▸ List.mem_map_of_mem hentry)
    simpa using hne
  have hmembers : (set.add member score).members = set.members ++ [member] := by
    change (_ ++ [(member, score)]).map Prod.fst = _
    rw [hkept, List.map_append]
    rfl
  rw [hmembers, List.count_append]

/-- A member that was there is removed or still there. -/
theorem count_le_removeAll (set : ScoredSet Member) (gone : List Member) (member : Member) :
    set.members.count member ≤ gone.count member + (set.removeAll gone).members.count member := by
  by_cases hgone : member ∈ gone
  · have honce : set.members.count member ≤ 1 := List.nodup_iff_count_le_one.mp set.nodup member
    have hcount : 0 < gone.count member := List.count_pos_iff.mpr hgone
    omega
  · have hkept : (set.removeAll gone).members.count member = set.members.count member := by
      simp only [members, removeAll, List.count_eq_countP, List.countP_map, List.countP_filter]
      refine List.countP_congr fun entry _ => ?_
      by_cases heq : entry.1 = member <;> simp [heq, hgone]
    omega

/-! ## Scores -/

section Scores

variable (set : ScoredSet Member)

def scoreOf (member : Member) : Option ℤ := set.entries.lookup member

variable {set}

theorem scoreOf_eq_some {score : ℤ} :
    set.scoreOf member = some score ↔ (member, score) ∈ set.entries := by
  obtain ⟨entries, hnodup⟩ := set
  rw [scoreOf]
  dsimp only
  induction entries with
  | nil => simp
  | cons entry rest ih =>
      obtain ⟨first, found⟩ := entry
      rw [List.map_cons, List.nodup_cons] at hnodup
      by_cases heq : member = first
      · subst heq
        have hrest : (member, score) ∉ rest := fun hmem =>
          hnodup.1 (List.mem_map.mpr ⟨_, hmem, rfl⟩)
        simp [hrest, eq_comm]
      · have hother : (member == first) = false := by simpa using heq
        simp [List.lookup_cons, hother, heq, ih hnodup.2]

theorem scoreOf_add (score : ℤ) (other : Member) :
    (set.add member score).scoreOf other =
      if other = member then some score else set.scoreOf other := by
  refine Option.ext fun found => ?_
  rw [scoreOf_eq_some, add, List.mem_append, List.mem_filter, List.mem_singleton]
  split_ifs with heq
  · simp [heq, Prod.ext_iff, eq_comm]
  · simp [heq, scoreOf_eq_some]

theorem scoreOf_removeAll (gone : List Member) (other : Member) :
    (set.removeAll gone).scoreOf other = if other ∈ gone then none else set.scoreOf other := by
  refine Option.ext fun found => ?_
  rw [scoreOf_eq_some, removeAll, List.mem_filter]
  split_ifs with hgone
  · simp [hgone]
  · simp [hgone, scoreOf_eq_some]

theorem removeAll_removeAll (first second : List Member) :
    (set.removeAll first).removeAll second = set.removeAll (first ++ second) := by
  rw [removeAll, removeAll, removeAll, mk.injEq, List.filter_filter]
  exact List.filter_congr fun entry _ => by simp [Bool.and_comm]

end Scores

section Range

variable [LinearOrder Member] (set : ScoredSet Member) (bound : ℤ)

/-- The members with a score up to `bound`, by their scores and then by themselves. -/
def inOrder : List Member :=
  (((set.entries.filter fun entry => entry.2 ≤ bound).map fun entry =>
    toLex (entry.2, entry.1)).insertionSort (· ≤ ·)).map fun entry => (ofLex entry).2

def rangeByScore (offset count : ℕ) : List Member := ((set.inOrder bound).drop offset).take count

omit [DecidableEq Member] in
theorem inOrder_perm :
    (set.inOrder bound).Perm ((set.entries.filter fun entry => entry.2 ≤ bound).map Prod.fst) := by
  refine ((List.perm_insertionSort _ _).map _).trans ?_
  rw [List.map_map]
  rfl

omit [DecidableEq Member] in
theorem nodup_inOrder : (set.inOrder bound).Nodup :=
  (set.inOrder_perm bound).nodup_iff.mpr
    (set.nodup.sublist (List.filter_sublist.map Prod.fst))

theorem mem_inOrder (member : Member) :
    member ∈ set.inOrder bound ↔ (set.scoreOf member).any (· ≤ bound) = true := by
  rw [(set.inOrder_perm bound).mem_iff, Option.any_eq_true]
  simp [scoreOf_eq_some]

/-- The others keep their order when members are removed. -/
theorem inOrder_removeAll (gone : List Member) :
    (set.removeAll gone).inOrder bound = (set.inOrder bound).filter (· ∉ gone) := by
  rw [inOrder, inOrder, List.filter_map]
  refine congrArg _ (List.Perm.eq_of_sortedLE List.sortedLE_insertionSort
    (List.sortedLE_insertionSort.pairwise.filter _).sortedLE ?_)
  refine (List.perm_insertionSort _ _).trans ?_
  refine List.Perm.trans (List.Perm.of_eq ?_) ((List.perm_insertionSort _ _).filter _).symm
  rw [List.filter_map, removeAll, List.filter_comm]
  rfl

end Range

end ScoredSet

end Relayer.Scored
