import Relayer.Evm.NonceHealth

/-!
# The transaction counter

The sequence counter of one relayer and address, kept in memory as a `u64` or in Redis as a
decimal text.  Every call is one atomic step on the entry, so a history of concurrent callers
is a list of calls.  The two stores agree as long as Redis can read the number as a signed
one; and a number is handed out twice only after a compare and set has moved the counter
back below it.
-/

namespace Relayer.TransactionCounter

open Relayer.Transaction Relayer.EvmNonceHealth
open TransactionCounterRepositoryStorage

inductive CounterCall where
  | get
  | getAndIncrement
  | decrement
  | set (value : UInt64)
  | syncFloor (floor : UInt64)
  | setIfEquals (expected value : UInt64)
  deriving DecidableEq, Repr

inductive CounterReply where
  | found (value : Option ℕ)
  | number (value : ℕ)
  | applied (changed : Bool)
  | done
  deriving DecidableEq, Repr

/-- `DECR` of Redis works on signed integers, and a negative result is corrected to zero. -/
def decrementText (relayerId address : String) (entry : Option String) :
    Except RepositoryError ℕ :=
  match entry with
  | none =>
      .error (.notFound s!"Counter not found for relayer {relayerId} and address {address}")
  | some text =>
      match text.toNat? with
      | some value =>
          if value ≤ i64Max then .ok (value - 1)
          else .error (.other "Redis operation 'decrement_counter' failed")
      | none => .error (.other "Redis operation 'decrement_counter' failed")

def decrement (storage : TransactionCounterRepositoryStorage) (relayerId address : String) :
    Except RepositoryError ℕ × TransactionCounterRepositoryStorage :=
  match storage with
  | .inMemory none => (.error (.notFound s!"Counter not found for {address}"), .inMemory none)
  | .inMemory (some entry) =>
      let lowered := if entry > 0 then entry - 1 else entry
      (.ok lowered, .inMemory (some lowered))
  | .redis entry =>
      match checkKey relayerId address *> decrementText relayerId address entry with
      | .error e => (.error e, .redis entry)
      | .ok lowered => (.ok lowered, .redis (some lowered.repr))

def set (storage : TransactionCounterRepositoryStorage) (relayerId address : String)
    (value : ℕ) : Except RepositoryError Unit × TransactionCounterRepositoryStorage :=
  match storage with
  | .inMemory _ => (.ok (), .inMemory (some value))
  | .redis entry =>
      match checkKey relayerId address with
      | .error e => (.error e, .redis entry)
      | .ok _ => (.ok (), .redis (some value.repr))

section Calls

variable (relayerId address : String)

/-- One call, with the entry it leaves. -/
def perform (storage : TransactionCounterRepositoryStorage) :
    CounterCall → Except RepositoryError CounterReply × TransactionCounterRepositoryStorage
  | .get => ((storage.get relayerId address).map .found, storage)
  | .getAndIncrement => (storage.getAndIncrement relayerId address).map (·.map .number) id
  | .decrement => (decrement storage relayerId address).map (·.map .number) id
  | .set value => (set storage relayerId address value.toNat).map (·.map fun _ => .done) id
  | .syncFloor floor =>
      (storage.syncFloor relayerId address floor.toNat).map (·.map .number) id
  | .setIfEquals expected value =>
      (storage.setIfEquals relayerId address expected.toNat value.toNat).map (·.map .applied) id

/-- The answers to a list of calls, with the entry they leave. -/
def run (storage : TransactionCounterRepositoryStorage) :
    List CounterCall →
      List (Except RepositoryError CounterReply) × TransactionCounterRepositoryStorage
  | [] => ([], storage)
  | call :: calls =>
      let rest := run (perform relayerId address storage call).2 calls
      ((perform relayerId address storage call).1 :: rest.1, rest.2)

/-- A condition on each call and the entry it meets. -/
def Throughout (allowed : TransactionCounterRepositoryStorage → CounterCall → Prop)
    (storage : TransactionCounterRepositoryStorage) : List CounterCall → Prop
  | [] => True
  | call :: calls =>
      allowed storage call ∧ Throughout allowed (perform relayerId address storage call).2 calls

end Calls

section Runs

variable {relayerId address : String}
variable {allowed : TransactionCounterRepositoryStorage → CounterCall → Prop}

theorem run_append (storage : TransactionCounterRepositoryStorage)
    (before after : List CounterCall) :
    (run relayerId address storage (before ++ after)).2 =
      (run relayerId address (run relayerId address storage before).2 after).2 := by
  induction before generalizing storage with
  | nil => rfl
  | cons call before ih => exact ih _

theorem Throughout.append {storage : TransactionCounterRepositoryStorage}
    {before after : List CounterCall}
    (hall : Throughout relayerId address allowed storage (before ++ after)) :
    Throughout relayerId address allowed storage before ∧
      Throughout relayerId address allowed (run relayerId address storage before).2 after := by
  induction before generalizing storage with
  | nil => exact ⟨trivial, hall⟩
  | cons call before ih =>
      obtain ⟨hcall, hrest⟩ := hall
      obtain ⟨hbefore, hafter⟩ := ih hrest
      exact ⟨⟨hcall, hbefore⟩, hafter⟩

theorem checkKey_ok (hrelayer : relayerId ≠ "") (haddress : address ≠ "") :
    checkKey relayerId address = .ok () := by
  rw [checkKey, if_neg hrelayer, if_neg haddress]

end Runs

/-! ## The two stores -/

/-- The numbers at which Redis can increment and decrement. -/
def InSignedRange (storage : TransactionCounterRepositoryStorage) : CounterCall → Prop
  | .getAndIncrement => storage.value < i64Max
  | .decrement => storage.value ≤ i64Max
  | _ => True

instance (storage : TransactionCounterRepositoryStorage) : DecidablePred (InSignedRange storage)
  | .getAndIncrement => Nat.decLt _ _
  | .decrement => Nat.decLe _ _
  | .get | .set _ | .syncFloor _ | .setIfEquals _ _ => .isTrue trivial

section Refinement

variable {relayerId address : String} {number : ℕ}

theorem syncFloorLua_repr (number floor : ℕ) :
    syncFloorLua (some number.repr) floor.repr =
      (if number < floor then floor else number).repr := by
  rw [syncFloorLua, numlt_repr]
  by_cases hlt : number < floor
  · rw [decide_eq_true hlt, if_pos rfl, if_pos hlt]
  · rw [decide_eq_false hlt, if_neg Bool.false_ne_true, if_neg hlt]

theorem setIfEqualsLua_repr (number expected value : ℕ) :
    setIfEqualsLua (some number.repr) expected.repr value.repr =
      if number = expected ∧ value < expected then (true, some value.repr)
      else (false, some number.repr) := by
  have hsame : number.repr = expected.repr ↔ number = expected := Nat.repr_inj
  simp only [setIfEqualsLua, numlt_repr, hsame, decide_eq_true_eq]

/-- A call on the two stores at one number gets one answer and leaves one number. -/
theorem perform_refines (hrelayer : relayerId ≠ "") (haddress : address ≠ "")
    (hsize : number < u64Size) (call : CounterCall)
    (hfits : InSignedRange (.inMemory (some number)) call) :
    ∃ reply, ∃ after < u64Size,
      perform relayerId address (.inMemory (some number)) call =
        (reply, .inMemory (some after)) ∧
      perform relayerId address (.redis (some number.repr)) call =
        (reply, .redis (some after.repr)) := by
  have hkey := checkKey_ok hrelayer haddress
  cases call with
  | get =>
      refine ⟨.ok (.found (some number)), number, hsize, rfl, ?_⟩
      simp only [perform, TransactionCounterRepositoryStorage.get, hkey, Nat.toNat?_repr]
      rfl
  | getAndIncrement =>
      have hlow : number < i64Max := hfits
      have hnext : number + 1 < u64Size := lt_of_le_of_lt hlow (by decide)
      have hincrement : incrementText (some number.repr) = .ok number := by
        rw [incrementText, Option.getD_some, Nat.toNat?_repr]
        exact if_pos hlow
      refine ⟨.ok (.number number), number + 1, hnext, ?_, ?_⟩
      · simp only [perform, getAndIncrement, Option.getD_some, Nat.mod_eq_of_lt hnext]
        rfl
      · simp only [perform, getAndIncrement, hkey, hincrement]
        rfl
  | decrement =>
      have hlow : number ≤ i64Max := hfits
      have hlowered : (if number > 0 then number - 1 else number) = number - 1 := by
        split <;> omega
      have hdecrement : decrementText relayerId address (some number.repr) =
          .ok (number - 1) := by
        rw [decrementText, Nat.toNat?_repr]
        exact if_pos hlow
      refine ⟨.ok (.number (number - 1)), number - 1, by omega, ?_, ?_⟩
      · simp only [perform, decrement, hlowered]
        rfl
      · simp only [perform, decrement, hkey, hdecrement]
        rfl
  | set value =>
      refine ⟨.ok .done, value.toNat, value.toNat_lt, rfl, ?_⟩
      simp only [perform, set, hkey]
      rfl
  | syncFloor floor =>
      refine ⟨.ok (.number (if number < floor.toNat then floor.toNat else number)), _, ?_, rfl,
        ?_⟩
      · have hfloor : floor.toNat < u64Size := floor.toNat_lt
        split <;> assumption
      · simp only [perform, syncFloor, hkey, syncFloorLua_repr, Nat.toNat?_repr]
        rfl
  | setIfEquals expected value =>
      have hvalue : value.toNat < u64Size := value.toNat_lt
      simp only [perform, setIfEquals, if_neg hrelayer, if_neg haddress, setIfEqualsLua_repr]
      by_cases happlied : number = expected.toNat ∧ value.toNat < expected.toNat
      · simp only [if_pos happlied]
        exact ⟨.ok (.applied true), value.toNat, hvalue, rfl, rfl⟩
      · simp only [if_neg happlied]
        exact ⟨.ok (.applied false), number, hsize, rfl, rfl⟩

/-- From one number, and as long as increments and decrements meet numbers in the range of
Redis, both stores give the same answers and end at the same number. -/
theorem redis_counter_refines_memory_counter (hrelayer : relayerId ≠ "") (haddress : address ≠ "")
    (start : UInt64) (calls : List CounterCall)
    (hfits : Throughout relayerId address InSignedRange (.inMemory (some start.toNat)) calls) :
    (run relayerId address (.redis (some start.toNat.repr)) calls).1 =
        (run relayerId address (.inMemory (some start.toNat)) calls).1 ∧
      ∃ final < u64Size,
        (run relayerId address (.inMemory (some start.toNat)) calls).2 =
          .inMemory (some final) ∧
        (run relayerId address (.redis (some start.toNat.repr)) calls).2 =
          .redis (some final.repr) := by
  have hsize : start.toNat < u64Size := start.toNat_lt
  generalize start.toNat = number at hsize hfits ⊢
  induction calls generalizing number with
  | nil => exact ⟨rfl, number, hsize, rfl, rfl⟩
  | cons call calls ih =>
      obtain ⟨hcall, hrest⟩ := hfits
      obtain ⟨reply, after, hafter, hmemory, hredis⟩ :=
        perform_refines hrelayer haddress hsize call hcall
      rw [hmemory] at hrest
      obtain ⟨hreplies, final, hfinal, hends⟩ := ih after hafter hrest
      simp only [run, hmemory, hredis]
      exact ⟨congrArg (reply :: ·) hreplies, final, hfinal, hends⟩

theorem redis_counter_refines_from_two_pow_62 :
    Throughout "relayer" "0x1" InSignedRange
        (.inMemory (some (4611686018427387904 : UInt64).toNat))
        [.getAndIncrement, .setIfEquals 4611686018427387905 7, .decrement] ∧
      (run "relayer" "0x1" (.redis (some (4611686018427387904 : UInt64).toNat.repr))
          [.getAndIncrement, .setIfEquals 4611686018427387905 7, .decrement]).1 =
        (run "relayer" "0x1" (.inMemory (some (4611686018427387904 : UInt64).toNat))
          [.getAndIncrement, .setIfEquals 4611686018427387905 7, .decrement]).1 := by
  have hfits : Throughout "relayer" "0x1" InSignedRange
      (.inMemory (some (4611686018427387904 : UInt64).toNat))
      [.getAndIncrement, .setIfEquals 4611686018427387905 7, .decrement] :=
    ⟨by decide, trivial, by decide, trivial⟩
  exact ⟨hfits, (redis_counter_refines_memory_counter (by decide) (by decide) _ _ hfits).1⟩

/-- Redis cannot increment the largest signed number, the counter in memory can. -/
theorem increment_differs_at_i64_max :
    (run "relayer" "0x1" (.redis (some (9223372036854775807 : UInt64).toNat.repr))
        [.getAndIncrement]).1 ≠
      (run "relayer" "0x1" (.inMemory (some (9223372036854775807 : UInt64).toNat))
        [.getAndIncrement]).1 := by
  have hparse : (9223372036854775807 : UInt64).toNat.repr.toNat? = some 9223372036854775807 :=
    Nat.toNat?_repr 9223372036854775807
  simp only [run, perform, getAndIncrement, incrementText, Option.getD_some, hparse]
  intro h
  cases h

end Refinement

/-! ## Numbers that are handed out -/

/-- The calls of the callers that share a counter. -/
def CounterCall.shared : CounterCall → Bool
  | .getAndIncrement | .syncFloor _ => true
  | .setIfEquals expected target => target ≤ expected
  | _ => false

/-- The counter in memory has room for an increment. -/
def HasRoom (storage : TransactionCounterRepositoryStorage) (call : CounterCall) : Prop :=
  ∀ entry, storage = .inMemory entry → call = .getAndIncrement → storage.value + 1 < u64Size

/-- A compare and set among the calls was applied. -/
def Rewinds (relayerId address : String) (storage : TransactionCounterRepositoryStorage)
    (calls : List CounterCall) (expected target : UInt64) : Prop :=
  ∃ before after, calls = before ++ .setIfEquals expected target :: after ∧
    (perform relayerId address (run relayerId address storage before).2
      (.setIfEquals expected target)).1 = .ok (.applied true)

section Monotone

variable {relayerId address : String} {storage : TransactionCounterRepositoryStorage}
variable {calls : List CounterCall} {number : ℕ}

theorem Rewinds.cons {call : CounterCall} {expected target : UInt64}
    (hrewinds : Rewinds relayerId address (perform relayerId address storage call).2 calls
      expected target) :
    Rewinds relayerId address storage (call :: calls) expected target := by
  obtain ⟨before, after, rfl, happlied⟩ := hrewinds
  exact ⟨call :: before, after, rfl, happlied⟩

/-- A counter above a number stays above it, or a compare and set moves it back. -/
theorem perform_above (relayerId address : String) (hcanonical : storage.Canonical)
    {call : CounterCall}
    (hshared : call.shared = true) (hroom : HasRoom storage call) :
    (perform relayerId address storage call).2.Canonical ∧
      (storage.value ≤ (perform relayerId address storage call).2.value ∨
        ∃ expected target, call = .setIfEquals expected target ∧
          (perform relayerId address storage call).1 = .ok (.applied true) ∧
          storage.value = expected.toNat ∧
          (perform relayerId address storage call).2.value = target.toNat) := by
  cases call with
  | getAndIncrement =>
      have hspec := getAndIncrement_spec relayerId address hcanonical
        fun entry hentry => hroom entry hentry rfl
      simp only [perform, Prod.map_snd, id_eq]
      obtain ⟨e, hsame⟩ | ⟨-, hvalue, hafter⟩ := hspec
      · rw [hsame]
        exact ⟨hcanonical, .inl le_rfl⟩
      · exact ⟨hafter, .inl (hvalue ▸ Nat.le_succ _)⟩
  | syncFloor floor =>
      simp only [perform, Prod.map_snd, id_eq]
      obtain ⟨e, -, hsame⟩ | ⟨hvalue, hafter⟩ :=
        syncFloor_spec relayerId address floor.toNat hcanonical
      · rw [hsame]
        exact ⟨hcanonical, .inl le_rfl⟩
      · exact ⟨hafter, .inl (hvalue ▸ le_max_left _ _)⟩
  | setIfEquals expected target =>
      simp only [perform, Prod.map_snd, Prod.map_fst, id_eq]
      obtain hsame | ⟨happlied, hheld, hvalue, hafter⟩ :=
        storage.setIfEquals_spec relayerId address expected.toNat target.toNat
      · rw [hsame]
        exact ⟨hcanonical, .inl le_rfl⟩
      · exact ⟨hafter, .inr ⟨expected, target, rfl, by rw [happlied]; rfl, hheld, hvalue⟩⟩
  | get | decrement | set value => cases hshared

theorem run_canonical (hcanonical : storage.Canonical)
    (hshared : ∀ call ∈ calls, call.shared = true)
    (hroom : Throughout relayerId address HasRoom storage calls) :
    (run relayerId address storage calls).2.Canonical := by
  induction calls generalizing storage with
  | nil => exact hcanonical
  | cons call calls ih =>
      obtain ⟨hcall, hrest⟩ := List.forall_mem_cons.mp hshared
      exact ih (perform_above relayerId address hcanonical hcall hroom.1).1 hrest hroom.2

/-- Over a list of calls: the counter ends above the number, or an applied compare and set
led from above the number to it or below. -/
theorem run_above (hcanonical : storage.Canonical)
    (hshared : ∀ call ∈ calls, call.shared = true)
    (hroom : Throughout relayerId address HasRoom storage calls)
    (habove : number < storage.value) :
    number < (run relayerId address storage calls).2.value ∨
      ∃ expected target, Rewinds relayerId address storage calls expected target ∧
        target.toNat ≤ number ∧ number < expected.toNat := by
  induction calls generalizing storage with
  | nil => exact .inl habove
  | cons call calls ih =>
      obtain ⟨hcall, hrest⟩ := List.forall_mem_cons.mp hshared
      obtain ⟨hafter, hmoves⟩ := perform_above relayerId address hcanonical hcall hroom.1
      by_cases hstays : number < (perform relayerId address storage call).2.value
      · obtain hends | ⟨expected, target, hrewinds, hbetween⟩ := ih hafter hrest hroom.2 hstays
        · exact .inl hends
        · exact .inr ⟨expected, target, hrewinds.cons, hbetween⟩
      · obtain hraised | ⟨expected, target, rfl, happlied, hheld, hvalue⟩ := hmoves
        · exact absurd (habove.trans_le hraised) hstays
        · refine .inr ⟨expected, target, ⟨[], calls, rfl, happlied⟩, ?_, hheld ▸ habove⟩
          exact hvalue ▸ not_lt.mp hstays

/-- A number that was handed out is the one the counter stood at, and the counter is above
it afterwards. -/
theorem getAndIncrement_returned (hcanonical : storage.Canonical)
    (hroom : HasRoom storage .getAndIncrement)
    (hreply : (perform relayerId address storage .getAndIncrement).1 = .ok (.number number)) :
    storage.value = number ∧
      number < (perform relayerId address storage .getAndIncrement).2.value := by
  have hspec := getAndIncrement_spec relayerId address hcanonical
    fun entry hentry => hroom entry hentry rfl
  simp only [perform, Prod.map_fst, Prod.map_snd, id_eq] at hreply ⊢
  obtain ⟨e, hsame⟩ | ⟨hok, hvalue, -⟩ := hspec
  · rw [hsame] at hreply
    cases hreply
  · rw [hok] at hreply
    cases hreply
    exact ⟨rfl, hvalue ▸ Nat.lt_succ_self _⟩

/-- As long as the counter in memory has room: two numbers handed out one after the other
increase unless a compare and set was applied in between, a number comes back only after one
that led from above it to it or below, and a floor never lowers the counter and leaves it at
least there. -/
theorem counter_monotone_with_bounded_reuse (hcanonical : storage.Canonical)
    (hshared : ∀ call ∈ calls, call.shared = true)
    (hroom : Throughout relayerId address HasRoom storage calls) :
    (∀ before between after first second,
      calls = before ++ .getAndIncrement :: (between ++ .getAndIncrement :: after) →
      (perform relayerId address (run relayerId address storage before).2
        .getAndIncrement).1 = .ok (.number first) →
      (perform relayerId address
        (run relayerId address storage (before ++ .getAndIncrement :: between)).2
        .getAndIncrement).1 = .ok (.number second) →
      ((∀ expected target, ¬ Rewinds relayerId address
          (run relayerId address storage (before ++ [.getAndIncrement])).2 between
          expected target) → first < second) ∧
      (second = first → ∃ expected target, Rewinds relayerId address
          (run relayerId address storage (before ++ [.getAndIncrement])).2 between
          expected target ∧
        target.toNat ≤ first ∧ first < expected.toNat)) ∧
    ∀ before floor after, calls = before ++ .syncFloor floor :: after →
      (run relayerId address storage before).2.value ≤
          (run relayerId address storage (before ++ [.syncFloor floor])).2.value ∧
        (relayerId ≠ "" → address ≠ "" → floor.toNat ≤
          (run relayerId address storage (before ++ [.syncFloor floor])).2.value) := by
  constructor
  · rintro before between after first second rfl hfirst hsecond
    obtain ⟨hbefore, hmoves⟩ := hroom.append
    obtain ⟨hroomFirst, hrest⟩ := hmoves
    obtain ⟨hroomBetween, hroomSecond, -⟩ := hrest.append
    simp only [List.forall_mem_append, List.forall_mem_cons] at hshared
    obtain ⟨hsharedBefore, hsharedFirst, hsharedBetween, -⟩ := hshared
    rw [run_append, run] at hsecond
    rw [run_append, run, run]
    have hstart := run_canonical hcanonical hsharedBefore hbefore
    generalize (run relayerId address storage before).2 = start at *
    have hnext := (perform_above relayerId address hstart hsharedFirst hroomFirst).1
    obtain ⟨-, habove⟩ := getAndIncrement_returned hstart hroomFirst hfirst
    obtain ⟨hheld, -⟩ := getAndIncrement_returned
      (run_canonical hnext hsharedBetween hroomBetween) hroomSecond hsecond
    obtain hless | hrewound := run_above hnext hsharedBetween hroomBetween habove
    · rw [hheld] at hless
      exact ⟨fun _ => hless, fun hsame => absurd hsame hless.ne'⟩
    · refine ⟨fun hnone => ?_, fun _ => hrewound⟩
      obtain ⟨expected, target, hrewinds, -⟩ := hrewound
      exact absurd hrewinds (hnone expected target)
  · rintro before floor after rfl
    have hstart := run_canonical hcanonical
      (fun call hcall => hshared call (List.mem_append_left _ hcall)) hroom.append.1
    rw [run_append, run, run]
    generalize (run relayerId address storage before).2 = start at *
    simp only [perform, Prod.map_snd, id_eq]
    obtain ⟨e, hkey, hsame⟩ | ⟨hvalue, -⟩ :=
      syncFloor_spec relayerId address floor.toNat hstart
    · rw [hsame]
      refine ⟨le_rfl, fun hrelayer haddress => ?_⟩
      rw [checkKey_ok hrelayer haddress] at hkey
      cases hkey
    · rw [hvalue]
      exact ⟨le_max_left _ _, fun _ _ => le_max_right _ _⟩

theorem reuse_after_rewind :
    Throughout "relayer" "0x1" HasRoom (.inMemory (some 5))
        [.getAndIncrement, .setIfEquals 6 5, .getAndIncrement] ∧
      ∃ expected target, Rewinds "relayer" "0x1" (.inMemory (some 6)) [.setIfEquals 6 5]
        expected target ∧ target.toNat ≤ 5 ∧ 5 < expected.toNat := by
  have hroom : Throughout "relayer" "0x1" HasRoom (.inMemory (some 5))
      [.getAndIncrement, .setIfEquals 6 5, .getAndIncrement] :=
    ⟨fun _ _ _ => by decide, fun _ _ h => (nomatch h), fun _ _ _ => by decide, trivial⟩
  have hcanonical : (inMemory (some 5)).Canonical := trivial
  exact ⟨hroom, ((counter_monotone_with_bounded_reuse hcanonical (by decide) hroom).1 []
    [.setIfEquals 6 5] [] 5 5 rfl rfl rfl).2 rfl⟩

/-- The counter in memory wraps around: after the largest number it hands out zero. -/
theorem counter_in_memory_wraps :
    (perform "relayer" "0x1"
        (run "relayer" "0x1" (.inMemory none) [.syncFloor 18446744073709551615]).2
        .getAndIncrement).1 = .ok (.number 18446744073709551615) ∧
      (perform "relayer" "0x1" (run "relayer" "0x1" (.inMemory none)
        [.syncFloor 18446744073709551615, .getAndIncrement]).2 .getAndIncrement).1 =
          .ok (.number 0) ∧
      ∀ expected target, ¬ Rewinds "relayer" "0x1" (run "relayer" "0x1" (.inMemory none)
        [.syncFloor 18446744073709551615, .getAndIncrement]).2 [] expected target := by
  refine ⟨rfl, rfl, ?_⟩
  rintro expected target ⟨before, after, hnil, -⟩
  cases before <;> cases hnil

end Monotone

end Relayer.TransactionCounter
