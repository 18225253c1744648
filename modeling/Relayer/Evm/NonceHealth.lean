import Relayer.Core.Numbers
import Relayer.Core.Program
import Relayer.Repositories.NonceIndex

/-!
# Rewinding the nonce counter

When the counter has run ahead of the chain, the health check lowers it again over the slots
that no stored transaction occupies.  It looks at the slots in chunks from the top and stops
at the first chunk that holds a transaction, so it finds the highest occupied slot; a region
that is too wide is left alone.  The counter is lowered by a compare and set, so nothing is
written once it has moved.

Nonces are natural numbers: no sum here exceeds the observed counter.
-/

namespace Relayer.EvmNonceHealth

open Relayer.Transaction Relayer.Interaction
open Relayer.Interaction.Task (exec)
open Relayer.NonceIndex (occupancy TellsSlots)

def maxRewindScanRange : ℕ := 100000

def rewindScanChunk : ℕ := 1000

/-! ## The counter -/

/-- `numlt` of the script: decimal texts are compared by length, then by the alphabet. -/
def numlt (a b : String) : Bool :=
  if a.length ≠ b.length then decide (a.length < b.length) else decide (a < b)

/-- The script of `set_if_equals`, with what the key holds. -/
def setIfEqualsLua (current : Option String) (expected value : String) : Bool × Option String :=
  match current with
  | some text =>
      if text = expected ∧ numlt value expected = true then (true, some value)
      else (false, some text)
  | none => (false, none)

/-- The entry of one relayer and address. -/
inductive TransactionCounterRepositoryStorage where
  | inMemory (entry : Option ℕ)
  | redis (entry : Option String)
  deriving DecidableEq, Repr

namespace TransactionCounterRepositoryStorage

def setIfEquals (storage : TransactionCounterRepositoryStorage) (relayerId address : String)
    (expected value : ℕ) :
    Except RepositoryError Bool × TransactionCounterRepositoryStorage :=
  match storage with
  | .inMemory (some entry) =>
      if entry = expected ∧ value < expected then (.ok true, .inMemory (some value))
      else (.ok false, .inMemory (some entry))
  | .inMemory none => (.ok false, .inMemory none)
  | .redis entry =>
      if relayerId = "" then
        (.error (.invalidData "Relayer ID cannot be empty"), .redis entry)
      else if address = "" then
        (.error (.invalidData "Address cannot be empty"), .redis entry)
      else
        let (applied, after) := setIfEqualsLua entry expected.repr value.repr
        (.ok applied, .redis after)

def Holds (value : ℕ) : TransactionCounterRepositoryStorage → Prop
  | .inMemory entry => entry = some value
  | .redis entry => entry = some value.repr

/-- The check of every Redis call. -/
def checkKey (relayerId address : String) : Except RepositoryError Unit :=
  if relayerId = "" then .error (.invalidData "Relayer ID cannot be empty")
  else if address = "" then .error (.invalidData "Address cannot be empty")
  else .ok ()

def get (storage : TransactionCounterRepositoryStorage) (relayerId address : String) :
    Except RepositoryError (Option ℕ) :=
  match storage with
  | .inMemory entry => .ok entry
  | .redis entry => do
      checkKey relayerId address
      match entry with
      | none => .ok none
      | some text =>
          match text.toNat? with
          | some value => .ok (some value)
          | none => .error (.invalidData "Redis data type error in operation 'get_counter'")

def u64Size : ℕ := 18446744073709551616

def i64Max : ℕ := 9223372036854775807

/-- `INCR` of Redis works on signed integers and refuses to overflow. -/
def incrementText (entry : Option String) : Except RepositoryError ℕ :=
  match (entry.getD "0").toNat? with
  | some value =>
      if value < i64Max then .ok value
      else .error (.other "Redis operation 'get_and_increment' failed")
  | none => .error (.other "Redis operation 'get_and_increment' failed")

/-- The counter in memory wraps around, as the release build does. -/
def getAndIncrement (storage : TransactionCounterRepositoryStorage) (relayerId address : String) :
    Except RepositoryError ℕ × TransactionCounterRepositoryStorage :=
  match storage with
  | .inMemory entry => (.ok (entry.getD 0), .inMemory (some ((entry.getD 0 + 1) % u64Size)))
  | .redis entry =>
      match checkKey relayerId address *> incrementText entry with
      | .error e => (.error e, .redis entry)
      | .ok value => (.ok value, .redis (some (value + 1).repr))

/-- The script of `sync_floor`, with what the key holds. -/
def syncFloorLua (current : Option String) (floor : String) : String :=
  match current with
  | none => floor
  | some text => if numlt text floor then floor else text

def syncFloor (storage : TransactionCounterRepositoryStorage) (relayerId address : String)
    (floor : ℕ) : Except RepositoryError ℕ × TransactionCounterRepositoryStorage :=
  match storage with
  | .inMemory entry =>
      let raised := if entry.getD floor < floor then floor else entry.getD floor
      (.ok raised, .inMemory (some raised))
  | .redis entry =>
      match checkKey relayerId address with
      | .error e => (.error e, .redis entry)
      | .ok _ =>
          let raised := syncFloorLua entry floor.repr
          match raised.toNat? with
          | some value => (.ok value, .redis (some raised))
          | none =>
              (.error (.invalidData "Redis data type error in operation 'sync_floor'"),
                .redis (some raised))

/-- The number that the counter stands at; a missing entry counts as zero. -/
def value : TransactionCounterRepositoryStorage → ℕ
  | .inMemory entry => entry.getD 0
  | .redis entry => (entry.bind String.toNat?).getD 0

/-- Redis holds numbers as they are written by the relayer. -/
def Canonical : TransactionCounterRepositoryStorage → Prop
  | .inMemory _ => True
  | .redis entry => ∀ text, entry = some text → ∃ value : ℕ, text = value.repr

end TransactionCounterRepositoryStorage

/-! ## The rewind -/

inductive Request where
  | getNonceOccupancy (relayerId : String) (fromNonce toNonce : ℕ)
  | setIfEquals (expected value : ℕ)
  deriving DecidableEq, Repr

@[reducible]
def Answer : Request → Type
  | .getNonceOccupancy .. => Except RepositoryError (List (ℕ × Option TransactionStatus))
  | .setIfEquals .. => Except RepositoryError Bool

abbrev Step (A : Type) := Task Request Answer RelayerError A

/-- The chunks below `chunkEnd`, from the top; the first occupied slot from there ends the
scan. -/
def scanDown (relayerId : String) (onChainNonce chunkEnd : ℕ) : Step (Option ℕ) :=
  if onChainNonce < chunkEnd then
    let chunkStart := max onChainNonce (chunkEnd - rewindScanChunk)
    Task.ask (Request.getNonceOccupancy relayerId chunkStart chunkEnd) >>= fun answer =>
      match answer with
      | .error e => throw (.internal e.toText)
      | .ok occupancy =>
          match occupancy.reverse.find? fun slot => slot.2.isSome with
          | some slot => return some slot.1
          | none => scanDown relayerId onChainNonce chunkStart
  else return none
termination_by chunkEnd - onChainNonce
decreasing_by
  have hchunk : 0 < rewindScanChunk := by decide
  omega

def rewindTo (observed target : ℕ) : Step Unit := do
  if target ≥ observed then return
  match ← Task.ask (Request.setIfEquals observed target) with
  | .error e => throw (.transactionSequenceError s!"Counter not found for {e.toText}")
  | .ok _ => return

def tryRewindCounter (relayerId : String) (onChainNonce observed : ℕ) : Step Unit := do
  if observed ≤ onChainNonce then return
  if observed - onChainNonce > maxRewindScanRange then return
  let highestOccupied ← scanDown relayerId onChainNonce observed
  rewindTo observed <|
    match highestOccupied with
    | some nonce => max onChainNonce (nonce + 1)
    | none => onChainNonce

/-! ## The scan in one sweep -/

section Scan

variable {slots : ℕ → Option TransactionStatus}

/-- The highest occupied slot of a region, slot by slot from the top. -/
def highestOccupied (slots : ℕ → Option TransactionStatus) (bottom : ℕ) : ℕ → Option ℕ
  | 0 => none
  | top + 1 =>
      if bottom ≤ top then
        if (slots top).isSome then some top else highestOccupied slots bottom top
      else none

/-- Where the counter can be lowered to. -/
def rewindTarget (slots : ℕ → Option TransactionStatus) (bottom top : ℕ) : ℕ :=
  match highestOccupied slots bottom top with
  | some nonce => max bottom (nonce + 1)
  | none => bottom

theorem highestOccupied_of_le {bottom top : ℕ} (hempty : top ≤ bottom) :
    highestOccupied slots bottom top = none := by
  cases top with
  | zero => rfl
  | succ top => rw [highestOccupied, if_neg (by omega)]

theorem occupancy_succ {bottom top : ℕ} (hle : bottom ≤ top) :
    occupancy slots bottom (top + 1) = occupancy slots bottom top ++ [(top, slots top)] := by
  rw [occupancy, occupancy, if_neg (by omega)]
  by_cases hempty : top ≤ bottom
  · have hsame : top = bottom := le_antisymm hempty hle
    subst hsame
    simp
  · have hlength : top + 1 - bottom = top - bottom + 1 := by omega
    have hlast : bottom + (top - bottom) = top := by omega
    rw [if_neg hempty, hlength, List.range'_concat, List.map_append, one_mul, hlast]
    rfl

/-- The last occupied entry of an answer is the highest occupied slot of its range. -/
theorem find_reverse_occupancy (slots : ℕ → Option TransactionStatus) (bottom top : ℕ) :
    ((occupancy slots bottom top).reverse.find? fun slot => slot.2.isSome).map Prod.fst =
      highestOccupied slots bottom top := by
  induction top with
  | zero => simp [occupancy, highestOccupied]
  | succ top ih =>
      by_cases hle : bottom ≤ top
      · rw [highestOccupied, if_pos hle, occupancy_succ hle, List.reverse_append]
        by_cases hoccupied : (slots top).isSome = true
        · simp [hoccupied]
        · simpa [hoccupied] using ih
      · rw [highestOccupied_of_le (by omega), occupancy, if_pos (by omega)]
        rfl

/-- A region can be looked through in two parts, the upper one first. -/
theorem highestOccupied_split {bottom middle top : ℕ} (hbottom : bottom ≤ middle)
    (htop : middle ≤ top) :
    highestOccupied slots bottom top =
      (highestOccupied slots middle top).or (highestOccupied slots bottom middle) := by
  induction top, htop using Nat.le_induction with
  | base => rw [highestOccupied_of_le le_rfl, Option.none_or]
  | succ top hle ih =>
      rw [highestOccupied, if_pos (hbottom.trans hle), highestOccupied, if_pos hle, ih]
      split <;> rfl

theorem highestOccupied_eq_some {bottom top nonce : ℕ}
    (hhighest : highestOccupied slots bottom top = some nonce) :
    bottom ≤ nonce ∧ nonce < top ∧ (slots nonce).isSome = true ∧
      ∀ other, nonce < other → other < top → slots other = none := by
  induction top with
  | zero => cases hhighest
  | succ top ih =>
      rw [highestOccupied] at hhighest
      split at hhighest
      · next hle =>
          split at hhighest
          · next hoccupied =>
              cases hhighest
              exact ⟨hle, Nat.lt_succ_self _, hoccupied, fun other hlow hhigh => by omega⟩
          · next hfree =>
              obtain ⟨hlow, hhigh, hsome, habove⟩ := ih hhighest
              refine ⟨hlow, by omega, hsome, fun other hother hlt => ?_⟩
              rcases Nat.lt_succ_iff_lt_or_eq.mp hlt with hbelow | rfl
              · exact habove other hother hbelow
              · exact Option.not_isSome_iff_eq_none.mp hfree
      · cases hhighest

theorem highestOccupied_eq_none {bottom top : ℕ}
    (hhighest : highestOccupied slots bottom top = none) :
    ∀ nonce, bottom ≤ nonce → nonce < top → slots nonce = none := by
  induction top with
  | zero => exact fun _ _ hlt => absurd hlt (Nat.not_lt_zero _)
  | succ top ih =>
      intro nonce hlow hlt
      rw [highestOccupied, if_pos (by omega)] at hhighest
      split at hhighest
      · cases hhighest
      · next hfree =>
          rcases Nat.lt_succ_iff_lt_or_eq.mp hlt with hbelow | rfl
          · exact ih hhighest nonce hlow hbelow
          · exact Option.not_isSome_iff_eq_none.mp hfree

/-- Every slot from the target on is empty. -/
theorem empty_above_rewindTarget {bottom top nonce : ℕ}
    (hlow : rewindTarget slots bottom top ≤ nonce) (hlt : nonce < top) : slots nonce = none := by
  rw [rewindTarget] at hlow
  cases hhighest : highestOccupied slots bottom top with
  | none =>
      rw [hhighest] at hlow
      exact highestOccupied_eq_none hhighest nonce hlow hlt
  | some highest =>
      rw [hhighest] at hlow
      have habove : highest < nonce := lt_of_lt_of_le (Nat.lt_succ_self highest)
        ((le_max_right _ _).trans hlow)
      exact (highestOccupied_eq_some hhighest).2.2.2 nonce habove hlt

/-- The target is the bottom or one above the highest occupied slot. -/
theorem rewindTarget_eq_max (slots : ℕ → Option TransactionStatus) (bottom top : ℕ) :
    rewindTarget slots bottom top =
      max bottom (((Finset.Ico bottom top).filter fun nonce => (slots nonce).isSome).sup
        (· + 1)) := by
  rw [rewindTarget]
  cases hhighest : highestOccupied slots bottom top with
  | none =>
      have hnone : (Finset.Ico bottom top).filter (fun nonce => (slots nonce).isSome) = ∅ := by
        apply Finset.filter_false_of_mem
        intro nonce hnonce
        obtain ⟨hlow, hlt⟩ := Finset.mem_Ico.mp hnonce
        rw [highestOccupied_eq_none hhighest nonce hlow hlt]
        exact Bool.false_ne_true
      rw [hnone, Finset.sup_empty]
      exact (max_eq_left (Nat.zero_le bottom)).symm
  | some highest =>
      obtain ⟨hlow, hlt, hsome, habove⟩ := highestOccupied_eq_some hhighest
      have hsup : ((Finset.Ico bottom top).filter fun nonce => (slots nonce).isSome).sup
          (· + 1) = highest + 1 := by
        apply le_antisymm
        · apply Finset.sup_le
          intro nonce hnonce
          obtain ⟨hrange, hoccupied⟩ := Finset.mem_filter.mp hnonce
          by_contra hgt
          rw [habove nonce (by omega) (Finset.mem_Ico.mp hrange).2] at hoccupied
          cases hoccupied
        · exact Finset.le_sup (f := (· + 1))
            (Finset.mem_filter.mpr ⟨Finset.mem_Ico.mpr ⟨hlow, hlt⟩, hsome⟩)
      rw [hsup]

end Scan

/-! ## Runs of the rewind -/

section Rewind

variable {slots : ℕ → Option TransactionStatus} {oracle : Program.Oracle Request Answer}
  {relayerId : String}

def isQuery : Request → Bool
  | .getNonceOccupancy .. => true
  | .setIfEquals .. => false

/-- The scan in chunks finds what the scan in one sweep finds, unless a query fails. -/
theorem exec_scanDown
    (htells : TellsSlots (fun _ => slots) fun n fromNonce toNonce =>
      oracle n (.getNonceOccupancy relayerId fromNonce toNonce))
    (onChainNonce chunkEnd n : ℕ) :
    ∃ calls : List Request, calls.all isQuery = true ∧
      (exec oracle (scanDown relayerId onChainNonce chunkEnd) n =
          (.ok (highestOccupied slots onChainNonce chunkEnd), calls) ∨
        ∃ e, exec oracle (scanDown relayerId onChainNonce chunkEnd) n = (.error e, calls)) := by
  induction chunkEnd using Nat.strong_induction_on generalizing n with
  | _ chunkEnd ih =>
    rw [scanDown]
    by_cases hopen : onChainNonce < chunkEnd
    · have hchunk : 0 < rewindScanChunk := by decide
      rw [if_pos hopen]
      generalize hstart : max onChainNonce (chunkEnd - rewindScanChunk) = chunkStart
      have hlower : chunkStart < chunkEnd := by omega
      simp only [Task.exec_bind, Task.exec_ask, List.length_singleton]
      cases htold : oracle n (.getNonceOccupancy relayerId chunkStart chunkEnd) with
      | error e =>
        exact ⟨[.getNonceOccupancy relayerId chunkStart chunkEnd], rfl, .inr ⟨_, rfl⟩⟩
      | ok told =>
        obtain rfl := htells n chunkStart chunkEnd told htold
        have hsplit : highestOccupied slots onChainNonce chunkEnd =
            (highestOccupied slots chunkStart chunkEnd).or
              (highestOccupied slots onChainNonce chunkStart) :=
          highestOccupied_split (by omega) hlower.le
        have hfind := find_reverse_occupancy slots chunkStart chunkEnd
        cases hlast : (occupancy slots chunkStart chunkEnd).reverse.find?
            fun slot => slot.2.isSome with
        | some slot =>
            rw [hlast, Option.map_some] at hfind
            refine ⟨[.getNonceOccupancy relayerId chunkStart chunkEnd], rfl, .inl ?_⟩
            rw [hsplit, ← hfind]
            simp [hlast]
        | none =>
            rw [hlast, Option.map_none] at hfind
            obtain ⟨calls, hqueries, hrest⟩ := ih chunkStart hlower (n + 1)
            refine ⟨.getNonceOccupancy relayerId chunkStart chunkEnd :: calls, ?_, ?_⟩
            · simpa [isQuery] using hqueries
            · rw [hsplit, ← hfind, Option.none_or]
              simp only [hlast]
              rcases hrest with hok | ⟨e, herror⟩
              · exact .inl (by rw [hok]; rfl)
              · exact .inr ⟨e, by rw [herror]; rfl⟩
    · rw [if_neg hopen, highestOccupied_of_le (by omega)]
      exact ⟨[], rfl, .inl rfl⟩

theorem exec_rewindTo (oracle : Program.Oracle Request Answer) (observed target n : ℕ) :
    (exec oracle (rewindTo observed target) n).2 =
      if target ≥ observed then [] else [.setIfEquals observed target] := by
  rw [rewindTo]
  by_cases hnothing : target ≥ observed
  · simp [hnothing]
  · simp only [hnothing, if_false, Task.exec_bind, Task.exec_ask]
    cases oracle n (Request.setIfEquals observed target) with
    | error e => rfl
    | ok applied => rfl

/-- What a run of the rewind asks for: queries, and then the compare and set where there is
something to release. -/
theorem exec_tryRewindCounter
    (htells : TellsSlots (fun _ => slots) fun n fromNonce toNonce =>
      oracle n (.getNonceOccupancy relayerId fromNonce toNonce))
    (onChainNonce observed : ℕ) :
    ∃ queries : List Request, queries.all isQuery = true ∧
      ((exec oracle (tryRewindCounter relayerId onChainNonce observed) 0).2 = queries ∧
          ((∃ e, (exec oracle (tryRewindCounter relayerId onChainNonce observed) 0).1 = .error e) ∨
            maxRewindScanRange < observed - onChainNonce ∨
            observed ≤ rewindTarget slots onChainNonce observed) ∨
        (exec oracle (tryRewindCounter relayerId onChainNonce observed) 0).2 =
            queries ++ [.setIfEquals observed (rewindTarget slots onChainNonce observed)] ∧
          observed - onChainNonce ≤ maxRewindScanRange ∧
          rewindTarget slots onChainNonce observed < observed) := by
  rw [tryRewindCounter]
  by_cases hbehind : observed ≤ onChainNonce
  · refine ⟨[], rfl, .inl ⟨?_, .inr (.inr ?_)⟩⟩
    · simp [hbehind]
    · rw [rewindTarget, highestOccupied_of_le hbehind]
      exact hbehind
  by_cases hwide : maxRewindScanRange < observed - onChainNonce
  · refine ⟨[], rfl, .inl ⟨?_, .inr (.inl hwide)⟩⟩
    simp [hbehind, hwide]
  obtain ⟨queries, hqueries, hscan⟩ := exec_scanDown htells onChainNonce observed 0
  refine ⟨queries, hqueries, ?_⟩
  simp only [hbehind, if_false, hwide, Task.exec_bind]
  rcases hscan with hok | ⟨e, herror⟩
  · have hlast := exec_rewindTo oracle observed (rewindTarget slots onChainNonce observed)
      (0 + queries.length)
    rw [hok]
    by_cases hnothing : rewindTarget slots onChainNonce observed ≥ observed
    · rw [if_pos hnothing] at hlast
      refine .inl ⟨?_, .inr (.inr hnothing)⟩
      exact (congrArg (queries ++ ·) hlast).trans (List.append_nil queries)
    · rw [if_neg hnothing] at hlast
      exact .inr ⟨congrArg (queries ++ ·) hlast, not_lt.mp hwide, not_le.mp hnothing⟩
  · rw [herror]
    exact .inl ⟨rfl, .inl ⟨e, rfl⟩⟩

end Rewind

namespace TransactionCounterRepositoryStorage

theorem numlt_repr (value expected : ℕ) :
    numlt value.repr expected.repr = decide (value < expected) := by
  have horder := Numbers.repr_lt_iff value expected
  rw [numlt]
  split at horder
  · next hlength => rw [if_pos hlength, decide_eq_decide]; exact horder
  · next hlength => rw [if_neg hlength, decide_eq_decide]; exact horder

/-- The compare and set changes the counter only if it holds the expected value. -/
theorem setIfEquals_changed {storage : TransactionCounterRepositoryStorage}
    {relayerId address : String} {expected value : ℕ}
    (hchanged : (storage.setIfEquals relayerId address expected value).2 ≠ storage) :
    (storage.setIfEquals relayerId address expected value).1 = .ok true ∧
      storage.Holds expected ∧
      (storage.setIfEquals relayerId address expected value).2.Holds value := by
  cases storage with
  | inMemory entry =>
      cases entry with
      | none => exact absurd rfl hchanged
      | some current =>
          rw [setIfEquals] at hchanged ⊢
          split at hchanged
          · next hequal =>
              rw [if_pos hequal]
              exact ⟨rfl, congrArg some hequal.1, rfl⟩
          · exact absurd rfl hchanged
  | redis entry =>
      rw [setIfEquals] at hchanged ⊢
      by_cases hrelayer : relayerId = ""
      · rw [if_pos hrelayer] at hchanged
        exact absurd rfl hchanged
      by_cases haddress : address = ""
      · rw [if_neg hrelayer, if_pos haddress] at hchanged
        exact absurd rfl hchanged
      rw [if_neg hrelayer, if_neg haddress] at hchanged ⊢
      cases entry with
      | none => exact absurd rfl hchanged
      | some text =>
          simp only [setIfEqualsLua] at hchanged ⊢
          split at hchanged
          · next hequal =>
              rw [if_pos hequal]
              exact ⟨rfl, congrArg some hequal.1, rfl⟩
          · exact absurd rfl hchanged

/-- A counter that holds the expected value is lowered. -/
theorem setIfEquals_of_holds {storage : TransactionCounterRepositoryStorage}
    {relayerId address : String} {expected value : ℕ} (hholds : storage.Holds expected)
    (hlower : value < expected) (hrelayer : relayerId ≠ "") (haddress : address ≠ "") :
    (storage.setIfEquals relayerId address expected value).2.Holds value := by
  cases storage with
  | inMemory entry =>
      cases hholds
      rw [setIfEquals, if_pos ⟨rfl, hlower⟩]
      rfl
  | redis entry =>
      cases hholds
      rw [setIfEquals, if_neg hrelayer, if_neg haddress]
      have hnumlt := (numlt_repr value expected).trans (decide_eq_true hlower)
      rw [setIfEqualsLua, if_pos ⟨rfl, hnumlt⟩]
      rfl

section Value

variable {storage : TransactionCounterRepositoryStorage} {relayerId address : String}

theorem value_redis_repr (number : ℕ) : (redis (some number.repr)).value = number := by
  simp [value, Nat.toNat?_repr]

theorem canonical_redis_repr (number : ℕ) : (redis (some number.repr)).Canonical := by
  rintro text ⟨⟩
  exact ⟨number, rfl⟩

theorem value_of_holds {number : ℕ} (hholds : storage.Holds number) : storage.value = number := by
  cases storage with
  | inMemory entry =>
      cases hholds
      rfl
  | redis entry =>
      cases hholds
      exact value_redis_repr number

theorem canonical_of_holds {number : ℕ} (hholds : storage.Holds number) :
    storage.Canonical := by
  cases storage with
  | inMemory entry => trivial
  | redis entry =>
      cases hholds
      exact canonical_redis_repr number

/-- An increment hands out the number of the counter and raises it by one, unless the
counter in memory wraps around. -/
theorem getAndIncrement_spec (relayerId address : String) (hcanonical : storage.Canonical)
    (hsmall : ∀ entry, storage = inMemory entry → storage.value + 1 < u64Size) :
    (∃ e, storage.getAndIncrement relayerId address = (.error e, storage)) ∨
      (storage.getAndIncrement relayerId address).1 = .ok storage.value ∧
      (storage.getAndIncrement relayerId address).2.value = storage.value + 1 ∧
      (storage.getAndIncrement relayerId address).2.Canonical := by
  cases storage with
  | inMemory entry => exact .inr ⟨rfl, Nat.mod_eq_of_lt (hsmall entry rfl), trivial⟩
  | redis entry =>
      have hnumber : ∀ number, incrementText entry = .ok number →
          number = (redis entry).value := by
        intro number hincrement
        rw [incrementText] at hincrement
        cases entry with
        | none =>
            have hzero : ("0" : String).toNat? = some 0 := Nat.toNat?_repr 0
            rw [Option.getD_none, hzero] at hincrement
            cases hincrement
            rfl
        | some text =>
            obtain ⟨held, rfl⟩ := hcanonical text rfl
            rw [Option.getD_some, Nat.toNat?_repr] at hincrement
            rw [value_redis_repr]
            dsimp only at hincrement
            split at hincrement
            · exact (Except.ok.inj hincrement).symm
            · cases hincrement
      rw [getAndIncrement]
      cases hincrement : checkKey relayerId address *> incrementText entry with
      | error e => exact .inl ⟨e, rfl⟩
      | ok number =>
          have hok : incrementText entry = .ok number := by
            cases hkey : checkKey relayerId address with
            | error e =>
                rw [hkey] at hincrement
                cases hincrement
            | ok checked =>
                rw [hkey] at hincrement
                exact hincrement
          obtain rfl := hnumber number hok
          exact .inr ⟨rfl, value_redis_repr _, canonical_redis_repr _⟩

/-- The floor raises the counter, unless Redis refuses the key. -/
theorem syncFloor_spec (relayerId address : String) (floor : ℕ)
    (hcanonical : storage.Canonical) :
    (∃ e, checkKey relayerId address = .error e ∧
        storage.syncFloor relayerId address floor = (.error e, storage)) ∨
      (storage.syncFloor relayerId address floor).2.value = max storage.value floor ∧
      (storage.syncFloor relayerId address floor).2.Canonical := by
  cases storage with
  | inMemory entry =>
      refine .inr ⟨?_, trivial⟩
      cases entry with
      | none => simp [syncFloor, value]
      | some number =>
          change (if number < floor then floor else number) = max number floor
          split
          · next hlt => exact (max_eq_right hlt.le).symm
          · next hge => exact (max_eq_left (not_lt.mp hge)).symm
  | redis entry =>
      rw [syncFloor]
      cases checkKey relayerId address with
      | error e => exact .inl ⟨e, rfl, rfl⟩
      | ok checked =>
          have hraised : syncFloorLua entry floor.repr =
              (max (redis entry).value floor).repr := by
            cases entry with
            | none => simp [syncFloorLua, value]
            | some text =>
                obtain ⟨held, rfl⟩ := hcanonical text rfl
                rw [syncFloorLua, numlt_repr, value_redis_repr]
                by_cases hlt : held < floor
                · simp [hlt, hlt.le]
                · simp [hlt, not_lt.mp hlt]
          rw [hraised]
          dsimp only
          rw [Nat.toNat?_repr]
          exact .inr ⟨value_redis_repr _, canonical_redis_repr _⟩

/-- The compare and set lowers the counter where it stands at the expected number. -/
theorem setIfEquals_spec (storage : TransactionCounterRepositoryStorage)
    (relayerId address : String) (expected lowered : ℕ) :
    (storage.setIfEquals relayerId address expected lowered).2 = storage ∨
      (storage.setIfEquals relayerId address expected lowered).1 = .ok true ∧
      storage.value = expected ∧
      (storage.setIfEquals relayerId address expected lowered).2.value = lowered ∧
      (storage.setIfEquals relayerId address expected lowered).2.Canonical := by
  by_cases hsame : (storage.setIfEquals relayerId address expected lowered).2 = storage
  · exact .inl hsame
  · obtain ⟨happlied, hholds, hlowered⟩ := setIfEquals_changed hsame
    refine .inr ⟨happlied, ?_, ?_, ?_⟩
    · exact value_of_holds hholds
    · exact value_of_holds hlowered
    · exact canonical_of_holds hlowered

end Value

end TransactionCounterRepositoryStorage

/-- A rewind asks to lower the counter from the observed value to one above the highest
occupied slot, below which it does not go and above which every slot is empty; the counter
changes only if it still holds that value.  A region that is too wide, or one with nothing
to release, is left alone, and in every other run that does not fail the rewind is asked
for. -/
theorem rewind_safe_and_maximal (relayerId address : String) (onChainNonce observed : ℕ)
    (slots : ℕ → Option TransactionStatus) (oracle : Program.Oracle Request Answer)
    (htells : TellsSlots (fun _ => slots) fun n fromNonce toNonce =>
      oracle n (.getNonceOccupancy relayerId fromNonce toNonce))
    {result : Except RelayerError Unit} {calls : List Request}
    (hexec : exec oracle (tryRewindCounter relayerId onChainNonce observed) 0 =
      (result, calls)) :
    (∀ expected target, Request.setIfEquals expected target ∈ calls →
      expected = observed ∧
      target = max onChainNonce (((Finset.Ico onChainNonce observed).filter
        fun nonce => (slots nonce).isSome).sup (· + 1)) ∧
      target = rewindTarget slots onChainNonce observed ∧ target < observed ∧
      (∀ nonce, target ≤ nonce → nonce < observed → slots nonce = none) ∧
      ∀ storage : TransactionCounterRepositoryStorage,
        ((storage.setIfEquals relayerId address expected target).2 ≠ storage →
          storage.Holds observed ∧
            (storage.setIfEquals relayerId address expected target).2.Holds target) ∧
        (storage.Holds observed → relayerId ≠ "" → address ≠ "" →
          (storage.setIfEquals relayerId address expected target).2.Holds target)) ∧
    ((maxRewindScanRange < observed - onChainNonce ∨
        observed ≤ rewindTarget slots onChainNonce observed) →
      ∀ expected target, Request.setIfEquals expected target ∉ calls) ∧
    ((∃ value, result = .ok value) → observed - onChainNonce ≤ maxRewindScanRange →
      rewindTarget slots onChainNonce observed < observed →
        Request.setIfEquals observed (rewindTarget slots onChainNonce observed) ∈ calls) := by
  obtain ⟨queries, hqueries, hcases⟩ :=
    exec_tryRewindCounter htells onChainNonce observed
  rw [hexec] at hcases
  have hquery : ∀ expected target, Request.setIfEquals expected target ∉ queries := by
    intro expected target hmem
    have hall := List.all_eq_true.mp hqueries _ hmem
    cases hall
  rcases hcases with ⟨rfl, hwhy⟩ | ⟨rfl, hnarrow, hlower⟩
  · refine ⟨fun expected target hmem => absurd hmem (hquery expected target),
      fun _ => hquery, fun hok hnarrow hlower => ?_⟩
    obtain ⟨value, rfl⟩ := hok
    rcases hwhy with ⟨e, herror⟩ | hwide | hnothing
    · cases herror
    · exact absurd hwide (not_lt.mpr hnarrow)
    · exact absurd hlower (not_lt.mpr hnothing)
  · refine ⟨fun expected target hmem => ?_, fun hwhy => ?_, fun _ _ _ => by simp⟩
    · have hlast : Request.setIfEquals expected target =
          .setIfEquals observed (rewindTarget slots onChainNonce observed) := by
        rcases List.mem_append.mp hmem with hmem | hmem
        · exact absurd hmem (hquery expected target)
        · exact List.mem_singleton.mp hmem
      cases hlast
      exact ⟨rfl, rewindTarget_eq_max slots onChainNonce _, rfl, hlower,
        fun nonce => empty_above_rewindTarget, fun storage =>
          ⟨fun hchanged =>
              (TransactionCounterRepositoryStorage.setIfEquals_changed hchanged).2,
            fun hholds => TransactionCounterRepositoryStorage.setIfEquals_of_holds hholds
              hlower⟩⟩
    · rcases hwhy with hwide | hnothing
      · exact absurd hwide (not_lt.mpr hnarrow)
      · exact absurd hlower (not_lt.mpr hnothing)

section Transfer

/-- A failed transaction has nonce six and everything else is free. -/
def failedSlot : ℕ → Option TransactionStatus
  | 6 => some .failed
  | _ => none

/-- Services that answer every call. -/
def answers : Program.Oracle Request Answer := fun _ request =>
  match request with
  | .getNonceOccupancy _ fromNonce toNonce => .ok (occupancy failedSlot fromNonce toNonce)
  | .setIfEquals _ _ => .ok true

/-- The counter at nine is lowered to seven, and only while it is at nine. -/
theorem rewind_above_failed_slot :
    (TellsSlots (fun _ => failedSlot) fun n fromNonce toNonce =>
        answers n (.getNonceOccupancy "relayer" fromNonce toNonce)) ∧
      exec answers (tryRewindCounter "relayer" 5 9) 0 =
        (.ok (), [.getNonceOccupancy "relayer" 5 9, .setIfEquals 9 7]) ∧
      ∀ storage : TransactionCounterRepositoryStorage,
        (storage.setIfEquals "relayer" "0x01" 9 7).2 ≠ storage → storage.Holds 9 := by
  have htells : TellsSlots (fun _ => failedSlot) fun n fromNonce toNonce =>
      answers n (.getNonceOccupancy "relayer" fromNonce toNonce) :=
    fun _ _ _ _ htold => (Except.ok.inj htold).symm
  have hexec : exec answers (tryRewindCounter "relayer" 5 9) 0 =
      (.ok (), [.getNonceOccupancy "relayer" 5 9, .setIfEquals 9 7]) := by
    rw [tryRewindCounter, scanDown]
    decide
  have hrewind := rewind_safe_and_maximal "relayer" "0x01" 5 9 failedSlot answers htells hexec
  obtain ⟨_, _, _, _, _, hstorage⟩ := hrewind.1 9 7 (by simp)
  exact ⟨htells, hexec, fun storage hchanged => ((hstorage storage).1 hchanged).1⟩

end Transfer

end Relayer.EvmNonceHealth
