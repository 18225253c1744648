import Mathlib

/-!
# Custody of redeemable tokens

A token can be redeemed from the moment it is issued until it is dead.  Different
tokens may stand for the same entitlement, so no two of them may be redeemed.  New
tokens are issued by a holder of the custody only, while it is the only one, and
only when everything issued before is settled: dead and not redeemed.

These moves keep at most one token alive.  A holder that waits keeps what it knows,
because nobody else can issue and nothing settled comes back to life.
-/

namespace Relayer.AtMostOnce

structure Custody (Token Holder : Type) where
  issued : List Token
  dead : Set Token
  redeemed : List Token
  holders : List Holder

variable {Token Holder : Type} {custody later : Custody Token Holder} {holder : Holder}

/-- Nothing issued can be redeemed any more and nothing was. -/
def Custody.Settled (custody : Custody Token Holder) : Prop :=
  (∀ token ∈ custody.issued, token ∈ custody.dead) ∧ custody.redeemed = []

/-- Among the issued tokens at most one is alive, and none but the redeemed one once one
was redeemed. -/
structure Exclusive (custody : Custody Token Holder) : Prop where
  one_alive : ∀ left ∈ custody.issued, ∀ right ∈ custody.issued,
    left ∉ custody.dead → right ∉ custody.dead → left = right
  redeemed_once : custody.redeemed = [] ∨
    (custody.redeemed.length = 1 ∧
      ∀ token ∈ custody.issued, token ∈ custody.dead ∨ token ∈ custody.redeemed)
  one_holder : custody.holders.length ≤ 1

theorem Exclusive.redeemed_length_le (hexclusive : Exclusive custody) :
    custody.redeemed.length ≤ 1 := by
  rcases hexclusive.redeemed_once with hnone | ⟨hone, -⟩
  · rw [hnone]
    exact Nat.zero_le 1
  · exact le_of_eq hone

/-- Nobody else holds the custody. -/
theorem Exclusive.not_mem_holders (hexclusive : Exclusive custody) {other : Holder}
    (hholder : holder ∈ custody.holders) (hother : other ≠ holder) :
    other ∉ custody.holders := by
  intro hmem
  obtain ⟨only, honly⟩ := List.length_eq_one_iff.mp
    (le_antisymm hexclusive.one_holder (List.length_pos_of_mem hmem))
  rw [honly, List.mem_singleton] at hholder hmem
  exact hother (hmem.trans hholder.symm)

/-- What a holder knows before it issues a token. -/
structure Holds (holder : Holder) (custody : Custody Token Holder) : Prop where
  mem : holder ∈ custody.holders
  settled : custody.Settled

/-- What a party keeps while it waits. -/
structure Relies (holder : Holder) (custody later : Custody Token Holder) : Prop where
  issued : custody.issued ⊆ later.issued
  holds : Holds holder custody → Holds holder later

theorem Relies.refl (holder : Holder) (custody : Custody Token Holder) :
    Relies holder custody custody :=
  ⟨List.Subset.refl _, id⟩

theorem Relies.trans {last : Custody Token Holder} (hfirst : Relies holder custody later)
    (hsecond : Relies holder later last) : Relies holder custody last :=
  ⟨List.Subset.trans hfirst.issued hsecond.issued, hsecond.holds ∘ hfirst.holds⟩

theorem Custody.Settled.age {dead : Set Token} (hsettled : custody.Settled)
    (hdead : custody.dead ⊆ dead) :
    ({ custody with dead := dead } : Custody Token Holder).Settled :=
  ⟨fun token hmem => hdead (hsettled.1 token hmem), hsettled.2⟩

theorem Exclusive.issue {token : Token} (hexclusive : Exclusive custody)
    (hsettled : custody.Settled) :
    Exclusive { custody with issued := custody.issued ++ [token] } := by
  have hnew : ∀ other ∈ custody.issued ++ [token], other ∉ custody.dead → other = token := by
    intro other hother halive
    rcases List.mem_append.mp hother with hold | hlast
    · exact absurd (hsettled.1 other hold) halive
    · exact List.mem_singleton.mp hlast
  refine ⟨?_, .inl hsettled.2, hexclusive.one_holder⟩
  intro left hleft right hright hleftAlive hrightAlive
  rw [hnew left hleft hleftAlive, hnew right hright hrightAlive]

theorem Exclusive.age {dead : Set Token} (hexclusive : Exclusive custody)
    (hdead : custody.dead ⊆ dead) : Exclusive { custody with dead := dead } := by
  refine ⟨?_, ?_, hexclusive.one_holder⟩
  · intro left hleft right hright hleftAlive hrightAlive
    exact hexclusive.one_alive left hleft right hright
      (fun hmem => hleftAlive (hdead hmem)) (fun hmem => hrightAlive (hdead hmem))
  · rcases hexclusive.redeemed_once with hnone | ⟨hone, hall⟩
    · exact .inl hnone
    · exact .inr ⟨hone, fun token hmem => (hall token hmem).imp (@hdead token) id⟩

/-- Redeeming uses up the only token that was alive. -/
theorem Exclusive.redeem {token : Token} (hexclusive : Exclusive custody)
    (hissued : token ∈ custody.issued) (halive : token ∉ custody.dead)
    (hnew : token ∉ custody.redeemed) :
    Exclusive { custody with redeemed := custody.redeemed ++ [token] } := by
  have hnone : custody.redeemed = [] := by
    rcases hexclusive.redeemed_once with hnone | ⟨-, hall⟩
    · exact hnone
    · rcases hall token hissued with hdead | hredeemed
      · exact absurd hdead halive
      · exact absurd hredeemed hnew
  refine ⟨hexclusive.one_alive, .inr ⟨?_, ?_⟩, hexclusive.one_holder⟩
  · rw [hnone]
    rfl
  · intro other hother
    by_cases hdead : other ∈ custody.dead
    · exact .inl hdead
    · rw [hexclusive.one_alive other hother token hissued hdead halive]
      exact .inr (List.mem_append_right _ (List.mem_singleton_self token))

variable [DecidableEq Holder]

/-- One move, made by a party or by the world.  Whoever holds the custody may issue
while everything is settled; tokens die and are redeemed by themselves. -/
inductive Move : Option Holder → Custody Token Holder → Custody Token Holder → Prop
  | skip (party : Option Holder) (custody : Custody Token Holder) : Move party custody custody
  | take (holder : Holder) (custody : Custody Token Holder) (hfree : custody.holders = []) :
      Move (some holder) custody { custody with holders := [holder] }
  | release (holder : Holder) (custody : Custody Token Holder) :
      Move (some holder) custody
        { custody with holders := custody.holders.filter (· ≠ holder) }
  | issue {holder : Holder} {custody : Custody Token Holder} (token : Token)
      (hholds : Holds holder custody) :
      Move (some holder) custody { custody with issued := custody.issued ++ [token] }
  | age (custody : Custody Token Holder) {dead : Set Token} (hdead : custody.dead ⊆ dead) :
      Move none custody { custody with dead := dead }
  | redeem {custody : Custody Token Holder} {token : Token} (hissued : token ∈ custody.issued)
      (halive : token ∉ custody.dead) (hnew : token ∉ custody.redeemed) :
      Move none custody { custody with redeemed := custody.redeemed ++ [token] }

/-- Every move keeps at most one token alive. -/
theorem Move.exclusive {party : Option Holder} (hmove : Move party custody later)
    (hexclusive : Exclusive custody) : Exclusive later := by
  cases hmove with
  | skip => exact hexclusive
  | take holder _ hfree =>
      exact ⟨hexclusive.one_alive, hexclusive.redeemed_once, le_refl 1⟩
  | release holder =>
      exact ⟨hexclusive.one_alive, hexclusive.redeemed_once,
        le_trans (List.length_filter_le _ _) hexclusive.one_holder⟩
  | issue token hholds => exact hexclusive.issue hholds.settled
  | age _ hdead => exact hexclusive.age hdead
  | redeem hissued halive hnew => exact hexclusive.redeem hissued halive hnew

/-- Nobody loses what it relies on by a move of somebody else. -/
theorem Move.relies {party : Option Holder} (hmove : Move party custody later)
    (hexclusive : Exclusive custody) (hparty : some holder ≠ party) :
    Relies holder custody later := by
  cases hmove with
  | skip => exact Relies.refl holder custody
  | take other _ hfree =>
      refine ⟨List.Subset.refl _, fun hholds => ?_⟩
      exact absurd hholds.mem (hfree ▸ List.not_mem_nil)
  | release other =>
      have hother : holder ≠ other := fun hsame => hparty (congrArg some hsame)
      exact ⟨List.Subset.refl _, fun hholds =>
        ⟨List.mem_filter.mpr ⟨hholds.mem, decide_eq_true hother⟩, hholds.settled⟩⟩
  | issue token hother =>
      refine ⟨List.subset_append_left _ _, fun hholds => ?_⟩
      exact absurd hholds.mem
        (hexclusive.not_mem_holders hother.mem fun hsame => hparty (congrArg some hsame))
  | age _ hdead =>
      exact ⟨List.Subset.refl _, fun hholds => ⟨hholds.mem, hholds.settled.age hdead⟩⟩
  | redeem hissued halive _ =>
      refine ⟨List.Subset.refl _, fun hholds => ?_⟩
      exact absurd (hholds.settled.1 _ hissued) halive

/-- No move takes an issued token back. -/
theorem Move.issued_subset {party : Option Holder} (hmove : Move party custody later) :
    custody.issued ⊆ later.issued := by
  cases hmove with
  | issue token _ => exact List.subset_append_left _ _
  | _ => exact List.Subset.refl _

/-- Any number of moves of one party. -/
abbrev Moves (party : Option Holder) :
    Custody Token Holder → Custody Token Holder → Prop :=
  Relation.ReflTransGen (Move party)

theorem Moves.exclusive {party : Option Holder} (hmoves : Moves party custody later)
    (hexclusive : Exclusive custody) : Exclusive later := by
  induction hmoves with
  | refl => exact hexclusive
  | tail _ hmove ih => exact hmove.exclusive ih

theorem Moves.relies {party : Option Holder} (hmoves : Moves party custody later)
    (hexclusive : Exclusive custody) (hparty : some holder ≠ party) :
    Relies holder custody later := by
  induction hmoves with
  | refl => exact Relies.refl holder custody
  | tail hbefore hmove ih =>
      exact ih.trans (hmove.relies (Moves.exclusive hbefore hexclusive) hparty)

end Relayer.AtMostOnce
