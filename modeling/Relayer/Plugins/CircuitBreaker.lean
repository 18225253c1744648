import Relayer.Core.RingBuffer

/-!
# The circuit breaker of the plugin pool

The breaker opens when more than half of the recent results are failures, lets single
requests through after a pause that grows with every attempt, and closes once ten of them
have succeeded or nothing was recorded for two minutes.  The code keeps a ring of results
and some counters; the rules speak about all that was called before.  Times are in
milliseconds, and every call looks at the clock up to two times.
-/

namespace Relayer.PluginHealth

open Relayer.Ring

/-! ## The code -/

inductive CircuitState where
  | closed
  | halfOpen
  | «open»
  deriving DecidableEq, Repr

def resultWindow : ℕ := 100
def idleAutoCloseMs : ℕ := 120000
def initialBackoffMs : ℕ := 5000
def maxBackoffAttempts : ℕ := 4
def maxBackoffMs : ℕ := 60000

abbrev ResultRingBuffer := RingBuffer Bool

/-- The counter of the buffer is a machine word. -/
def ResultRingBuffer.record (results : ResultRingBuffer) (success : Bool) : ResultRingBuffer :=
  RingBuffer.record (2 ^ 64) results success

def ResultRingBuffer.failureRate (results : ResultRingBuffer) : ℚ :=
  let total := results.slots.countP fun slot => slot.isSome
  let failures := results.slots.countP fun slot => slot == some false
  if total < 10 then 0 else failures / total

structure CircuitBreaker where
  state : CircuitState
  openedAtMs : ℕ
  lastActivityMs : ℕ
  recoverySuccesses : ℕ
  avgResponseTimeMs : ℕ
  restartAttempts : ℕ
  recentResults : ResultRingBuffer
  deriving DecidableEq, Repr

namespace CircuitBreaker

def new : CircuitBreaker := ⟨.closed, 0, 0, 0, 0, 0, RingBuffer.empty resultWindow⟩

/-- The moving average, in 32-bit arithmetic. -/
def averaged (current responseTimeMs : ℕ) : ℕ :=
  if current = 0 then responseTimeMs else (current * 9 + responseTimeMs) % 2 ^ 32 / 10

def openCircuit (now : ℕ) (breaker : CircuitBreaker) : CircuitBreaker :=
  { breaker with state := .open, openedAtMs := now, recoverySuccesses := 0 }

def forceClose (breaker : CircuitBreaker) : CircuitBreaker :=
  { breaker with state := .closed, recoverySuccesses := 0, restartAttempts := 0 }

def backoffMs (attempts : ℕ) : ℕ :=
  min (initialBackoffMs * 2 ^ min attempts maxBackoffAttempts) maxBackoffMs

/-- The attempts are counted in 32 bits. -/
def maybeTransitionToHalfOpen (now : ℕ) (breaker : CircuitBreaker) : CircuitBreaker :=
  if backoffMs breaker.restartAttempts ≤ now - breaker.openedAtMs then
    { breaker with
      state := .halfOpen
      restartAttempts := (breaker.restartAttempts + 1) % 2 ^ 32 }
  else breaker

/-- The activity and the result of a call that is recorded. -/
def noted (success : Bool) (now : ℕ) (breaker : CircuitBreaker) : CircuitBreaker :=
  { breaker with
    lastActivityMs := now
    recentResults := breaker.recentResults.record success }

def recordSuccess (responseTimeMs first second : ℕ) (breaker : CircuitBreaker) :
    CircuitBreaker :=
  let recorded :=
    { breaker.noted true first with
      avgResponseTimeMs := averaged breaker.avgResponseTimeMs responseTimeMs }
  match recorded.state with
  | .halfOpen =>
      let successes := recorded.recoverySuccesses + 1
      if 10 ≤ successes then recorded.forceClose
      else { recorded with recoverySuccesses := successes }
  | .open => recorded.maybeTransitionToHalfOpen second
  | .closed => recorded

def recordFailure (first second : ℕ) (breaker : CircuitBreaker) : CircuitBreaker :=
  let recorded := { breaker.noted false first with recoverySuccesses := 0 }
  match recorded.state with
  | .closed =>
      if 1 / 2 < recorded.recentResults.failureRate then recorded.openCircuit second
      else recorded
  | .halfOpen => recorded.openCircuit second
  | .open => recorded.maybeTransitionToHalfOpen second

def idle (now : ℕ) (breaker : CircuitBreaker) : Bool :=
  decide (breaker.state ≠ .closed ∧ 0 < breaker.lastActivityMs ∧
    idleAutoCloseMs ≤ now - breaker.lastActivityMs)

def shouldAllowRequest (recoveryAllowance : Option ℕ) (draw first second : ℕ)
    (breaker : CircuitBreaker) : Bool × CircuitBreaker :=
  if breaker.idle first then (true, breaker.forceClose)
  else match breaker.state with
    | .closed => (true, breaker)
    | .halfOpen => (decide (draw % 100 < recoveryAllowance.getD 10), breaker)
    | .open =>
        let later := breaker.maybeTransitionToHalfOpen second
        (decide (later.state = .halfOpen), later)

end CircuitBreaker

/-! ## Histories -/

inductive Call where
  | recordSuccess (responseTimeMs : ℕ)
  | recordFailure
  | shouldAllowRequest (recoveryAllowance : Option ℕ) (draw : ℕ)
  deriving DecidableEq, Repr

def Call.perform (first second : ℕ) (breaker : CircuitBreaker) : Call → CircuitBreaker
  | recordSuccess responseTimeMs => breaker.recordSuccess responseTimeMs first second
  | recordFailure => breaker.recordFailure first second
  | shouldAllowRequest recoveryAllowance draw =>
      (breaker.shouldAllowRequest recoveryAllowance draw first second).2

/-- The result that a call records. -/
def Call.result : Call → Option Bool
  | recordSuccess _ => some true
  | recordFailure => some false
  | shouldAllowRequest _ _ => none

/-- A call with the two times it may have seen and the states around it. -/
structure Step where
  call : Call
  first : ℕ
  second : ℕ
  before : CircuitState
  after : CircuitState
  deriving DecidableEq, Repr

def Step.enters (step : Step) (state : CircuitState) : Prop :=
  step.before ≠ state ∧ step.after = state

instance (step : Step) (state : CircuitState) : Decidable (step.enters state) :=
  inferInstanceAs (Decidable (_ ∧ _))

/-- Histories have the latest step first. -/
abbrev History := List Step

namespace History

def results (history : History) : List Bool := history.filterMap fun step => step.call.result

def clock : History → ℕ
  | [] => 0
  | step :: _ => step.second

def lastResultAt : History → Option ℕ
  | [] => none
  | step :: past => if step.call.result.isSome then some step.first else lastResultAt past

def latestOpening : History → Option ℕ
  | [] => none
  | step :: past => if step.enters .open then some step.second else latestOpening past

/-- The half-open entries since the circuit closed for the last time. -/
def entriesSinceClose : History → ℕ
  | [] => 0
  | step :: past =>
      if step.enters .closed then 0
      else if step.enters .halfOpen then entriesSinceClose past + 1
      else entriesSinceClose past

/-- What was recorded since the latest half-open entry. -/
def resultsSinceHalfOpen : History → List Bool
  | [] => []
  | step :: past =>
      if step.enters .halfOpen then [] else step.call.result.toList ++ resultsSinceHalfOpen past

end History

/-- The calls of one breaker, one after another, under a clock that does not run back. -/
inductive Run : History → CircuitBreaker → Prop
  | new : Run [] CircuitBreaker.new
  | call {past : History} {breaker : CircuitBreaker} (call : Call) (first second : ℕ)
      (hpast : Run past breaker) (hfirst : past.clock ≤ first) (hsecond : first ≤ second) :
      Run (⟨call, first, second, breaker.state, (call.perform first second breaker).state⟩ :: past)
        (call.perform first second breaker)

/-- The pause before the next attempt, after the given number of attempts. -/
def requiredPauseMs (entries : ℕ) : ℕ := min 60000 (5000 * 2 ^ min entries 4)

/-- The last results, as many as count. -/
def lastResults (history : History) : List Bool := history.results.take 100

/-- What the latest step may do after all that was called before. -/
structure KeepsRules (past : History) (step : Step) : Prop where
  opens : step.before = .closed → (step.after = .open ↔ step.call = .recordFailure ∧
    10 ≤ (lastResults (step :: past)).length ∧
      (lastResults (step :: past)).length < 2 * (lastResults (step :: past)).count false)
  halfOpens : step.before = .open → step.after = .halfOpen → ∃ opening,
    past.latestOpening = some opening ∧
      opening + requiredPauseMs past.entriesSinceClose ≤ step.second
  halfOpensOnlyOpen : step.before = .closed → step.after ≠ .halfOpen
  reopens : step.before = .halfOpen → (step.after = .open ↔ step.call = .recordFailure)
  closes : step.enters .closed →
    (step.before = .halfOpen ∧ step.call.result = some true ∧
        10 ≤ (History.resultsSinceHalfOpen (step :: past)).length ∧
        ∀ result ∈ History.resultsSinceHalfOpen (step :: past), result = true) ∨
      (step.call.result = none ∧ ∃ last, past.lastResultAt = some last ∧
        last + 120000 ≤ step.first)

/-! ## What a call can do -/

/-- The change of state that a call makes, with the counters it leaves. -/
inductive Transition (breaker : CircuitBreaker) (call : Call) (first second : ℕ)
    (next : CircuitBreaker) : Prop
  | stays (hstate : next.state = breaker.state)
      (hopened : next.openedAtMs = breaker.openedAtMs)
      (hattempts : next.restartAttempts = breaker.restartAttempts)
      (hclosed : breaker.state = .closed → call = .recordFailure →
        ¬ 1 / 2 < next.recentResults.failureRate)
      (hopen : breaker.state = .open → breaker.recoverySuccesses = 0 →
        next.recoverySuccesses = 0)
      (hhalfOpen : breaker.state = .halfOpen → call.result ≠ some false ∧
        next.recoverySuccesses = breaker.recoverySuccesses + call.result.toList.length)
  | opens (hbefore : breaker.state = .closed) (hafter : next.state = .open)
      (hcall : call = .recordFailure) (hrate : 1 / 2 < next.recentResults.failureRate)
      (hopened : next.openedAtMs = second)
      (hattempts : next.restartAttempts = breaker.restartAttempts)
      (hsuccesses : next.recoverySuccesses = 0)
  | halfOpens (hbefore : breaker.state = .open) (hafter : next.state = .halfOpen)
      (hpause : CircuitBreaker.backoffMs breaker.restartAttempts ≤ second - breaker.openedAtMs)
      (hattempts : next.restartAttempts = (breaker.restartAttempts + 1) % 2 ^ 32)
      (hsuccesses : breaker.recoverySuccesses = 0 → next.recoverySuccesses = 0)
  | reopens (hbefore : breaker.state = .halfOpen) (hafter : next.state = .open)
      (hcall : call = .recordFailure) (hopened : next.openedAtMs = second)
      (hattempts : next.restartAttempts = breaker.restartAttempts)
      (hsuccesses : next.recoverySuccesses = 0)
  | recovers (hbefore : breaker.state = .halfOpen) (hafter : next.state = .closed)
      (hcall : call.result = some true) (hsuccesses : 10 ≤ breaker.recoverySuccesses + 1)
      (hattempts : next.restartAttempts = 0)
  | rests (hbefore : breaker.state ≠ .closed) (hafter : next.state = .closed)
      (hcall : call.result = none) (hactive : 0 < breaker.lastActivityMs)
      (hidle : idleAutoCloseMs ≤ first - breaker.lastActivityMs)
      (hattempts : next.restartAttempts = 0)

/-- What a call leaves in the window and as the time of the last activity. -/
structure Records (breaker : CircuitBreaker) (call : Call) (first : ℕ)
    (next : CircuitBreaker) : Prop where
  results : next.recentResults = call.result.elim breaker.recentResults
    breaker.recentResults.record
  activity : next.lastActivityMs = call.result.elim breaker.lastActivityMs fun _ => first

section Calls

open CircuitBreaker

variable (breaker : CircuitBreaker) (first second : ℕ)

/-- An open circuit stays open or becomes half-open, whatever else was noted before. -/
theorem maybeTransition_cases {call : Call} {noted : CircuitBreaker}
    (hstate : breaker.state = .open) (hnoted : noted.state = .open)
    (hopened : noted.openedAtMs = breaker.openedAtMs)
    (hattempts : noted.restartAttempts = breaker.restartAttempts)
    (hsuccesses : breaker.recoverySuccesses = 0 → noted.recoverySuccesses = 0)
    (hrecords : Records breaker call first noted) :
    Transition breaker call first second (noted.maybeTransitionToHalfOpen second) ∧
      Records breaker call first (noted.maybeTransitionToHalfOpen second) := by
  rw [maybeTransitionToHalfOpen]
  split_ifs with hpause
  · rw [hopened, hattempts] at hpause
    exact ⟨.halfOpens hstate rfl hpause (by rw [hattempts]) hsuccesses,
      hrecords.results, hrecords.activity⟩
  · refine ⟨.stays (hnoted.trans hstate.symm) hopened hattempts ?_ (fun _ => hsuccesses) ?_,
      hrecords⟩
    · intro hclosed
      rw [hstate] at hclosed
      exact absurd hclosed (by decide)
    · intro hhalfOpen
      rw [hstate] at hhalfOpen
      exact absurd hhalfOpen (by decide)

theorem recordSuccess_cases (responseTimeMs : ℕ) :
    Transition breaker (.recordSuccess responseTimeMs) first second
        (breaker.recordSuccess responseTimeMs first second) ∧
      Records breaker (.recordSuccess responseTimeMs) first
        (breaker.recordSuccess responseTimeMs first second) := by
  have hstate : (breaker.noted true first).state = breaker.state := rfl
  rw [recordSuccess]
  simp only [hstate]
  cases hbefore : breaker.state with
  | closed =>
      refine ⟨.stays hbefore.symm rfl rfl nofun ?_ ?_, rfl, rfl⟩ <;> simp [hbefore]
  | halfOpen =>
      dsimp only
      split_ifs with henough
      · exact ⟨.recovers hbefore rfl rfl henough rfl, rfl, rfl⟩
      · refine ⟨.stays hbefore.symm rfl rfl nofun ?_ fun _ => ⟨nofun, rfl⟩, rfl, rfl⟩
        simp [hbefore]
  | «open» =>
      exact maybeTransition_cases breaker first second hbefore rfl rfl rfl id ⟨rfl, rfl⟩

theorem recordFailure_cases :
    Transition breaker .recordFailure first second (breaker.recordFailure first second) ∧
      Records breaker .recordFailure first (breaker.recordFailure first second) := by
  have hstate : (breaker.noted false first).state = breaker.state := rfl
  rw [recordFailure]
  simp only [hstate]
  cases hbefore : breaker.state with
  | closed =>
      dsimp only
      split_ifs with hrate
      · exact ⟨.opens hbefore rfl rfl hrate rfl rfl rfl, rfl, rfl⟩
      · refine ⟨.stays hbefore.symm rfl rfl (fun _ _ => hrate) ?_ ?_, rfl, rfl⟩ <;> simp [hbefore]
  | halfOpen => exact ⟨.reopens hbefore rfl rfl rfl rfl rfl, rfl, rfl⟩
  | «open» =>
      exact maybeTransition_cases breaker first second hbefore rfl rfl rfl (fun _ => rfl)
        ⟨rfl, rfl⟩

theorem shouldAllowRequest_cases (recoveryAllowance : Option ℕ) (draw : ℕ) :
    Transition breaker (.shouldAllowRequest recoveryAllowance draw) first second
        (breaker.shouldAllowRequest recoveryAllowance draw first second).2 ∧
      Records breaker (.shouldAllowRequest recoveryAllowance draw) first
        (breaker.shouldAllowRequest recoveryAllowance draw first second).2 := by
  rw [shouldAllowRequest]
  split_ifs with hidle
  · obtain ⟨hopen, hactive, hrest⟩ := of_decide_eq_true hidle
    exact ⟨.rests hopen rfl rfl hactive hrest rfl, rfl, rfl⟩
  · cases hbefore : breaker.state with
    | closed | halfOpen =>
        exact ⟨.stays rfl rfl rfl nofun (fun _ => id) fun _ => ⟨nofun, rfl⟩, rfl, rfl⟩
    | «open» =>
        exact maybeTransition_cases breaker first second hbefore hbefore rfl rfl id ⟨rfl, rfl⟩

/-- Every call makes one of the transitions and notes its result. -/
theorem perform_cases (call : Call) :
    Transition breaker call first second (call.perform first second breaker) ∧
      Records breaker call first (call.perform first second breaker) := by
  cases call with
  | recordSuccess responseTimeMs =>
      exact recordSuccess_cases breaker first second responseTimeMs
  | recordFailure => exact recordFailure_cases breaker first second
  | shouldAllowRequest recoveryAllowance draw =>
      exact shouldAllowRequest_cases breaker first second recoveryAllowance draw

end Calls

/-! ## What the fields stand for -/

/-- The rate is above one half exactly if the last results say so. -/
theorem half_lt_failureRate_iff {ring : ResultRingBuffer} {values : List Bool} {bound : ℕ}
    (hholds : ring.Holds resultWindow bound values) :
    1 / 2 < ring.failureRate ↔ 10 ≤ (values.take 100).length ∧
      (values.take 100).length < 2 * (values.take 100).count false := by
  have htotal : ring.slots.countP (fun slot => slot.isSome) = (values.take 100).length := by
    rw [hholds.slots, countP_layout _ rfl]
    simp [resultWindow]
  have hfailures : ring.slots.countP (fun slot => slot == some false) =
      (values.take 100).count false := by
    rw [hholds.slots, countP_layout _ rfl, List.count]
    exact List.countP_congr fun value _ => by simp
  rw [ResultRingBuffer.failureRate, htotal, hfailures]
  split_ifs with hfew
  · simp only [not_lt.mpr (by norm_num : (0 : ℚ) ≤ 1 / 2), false_iff]
    omega
  · have hpositive : (0 : ℚ) < (values.take 100).length := by
      exact_mod_cast (by omega : 0 < (values.take 100).length)
    rw [div_lt_div_iff₀ (by norm_num) hpositive, one_mul, mul_comm]
    constructor
    · intro hmore
      exact ⟨by omega, by exact_mod_cast hmore⟩
    · rintro ⟨-, hmore⟩
      exact_mod_cast hmore

/-- The fields of a breaker after a history. -/
structure Tracks (history : History) (breaker : CircuitBreaker) : Prop where
  window : breaker.recentResults.Holds resultWindow (2 ^ 64) history.results
  activity : breaker.lastActivityMs = history.lastResultAt.getD 0
  attempts : breaker.restartAttempts = history.entriesSinceClose % 2 ^ 32
  opening : breaker.state = .open →
    history.latestOpening = some breaker.openedAtMs ∧ breaker.recoverySuccesses = 0
  recovery : breaker.state = .halfOpen →
    breaker.recoverySuccesses = history.resultsSinceHalfOpen.length ∧
      ∀ result ∈ history.resultsSinceHalfOpen, result = true

section Tracking

variable {past : History} {breaker next : CircuitBreaker} {call : Call} {first second : ℕ}

theorem results_cons (step : Step) (past : History) :
    History.results (step :: past) = step.call.result.toList ++ past.results := by
  rw [History.results, List.filterMap_cons]
  cases step.call.result <;> rfl

theorem tracks_new : Tracks [] CircuitBreaker.new where
  window := holds_empty resultWindow (2 ^ 64)
  activity := rfl
  attempts := rfl
  opening := nofun
  recovery := nofun

theorem Tracks.attempts_step (htracks : Tracks past breaker)
    (htransition : Transition breaker call first second next) :
    next.restartAttempts = History.entriesSinceClose
      (⟨call, first, second, breaker.state, next.state⟩ :: past) % 2 ^ 32 := by
  rw [History.entriesSinceClose]
  cases htransition with
  | stays hstate _ hattempts _ _ _ =>
      simp [Step.enters, hstate, hattempts, htracks.attempts]
  | opens hbefore hafter _ _ _ hattempts _ =>
      simp [Step.enters, hbefore, hafter, hattempts, htracks.attempts]
  | halfOpens hbefore hafter _ hattempts _ =>
      simp [Step.enters, hbefore, hafter, hattempts, htracks.attempts]
  | reopens hbefore hafter _ _ hattempts _ =>
      simp [Step.enters, hbefore, hafter, hattempts, htracks.attempts]
  | recovers hbefore hafter _ _ hattempts => simp [Step.enters, hbefore, hafter, hattempts]
  | rests hbefore hafter _ _ _ hattempts => simp [Step.enters, hbefore, hafter, hattempts]

theorem Tracks.opening_step (htracks : Tracks past breaker)
    (htransition : Transition breaker call first second next) (hopen : next.state = .open) :
    History.latestOpening (⟨call, first, second, breaker.state, next.state⟩ :: past) =
        some next.openedAtMs ∧ next.recoverySuccesses = 0 := by
  rw [History.latestOpening]
  cases htransition with
  | stays hstate hopened _ _ hsuccesses _ =>
      have hbefore : breaker.state = .open := hstate.symm.trans hopen
      obtain ⟨hopening, hnone⟩ := htracks.opening hbefore
      simp [Step.enters, hbefore, hopened, hopening, hsuccesses hbefore hnone]
  | opens hbefore hafter _ _ hopened _ hsuccesses =>
      simp [Step.enters, hbefore, hafter, hopened, hsuccesses]
  | reopens hbefore hafter _ hopened _ hsuccesses =>
      simp [Step.enters, hbefore, hafter, hopened, hsuccesses]
  | halfOpens _ hafter _ _ _ => simp [hafter] at hopen
  | recovers _ hafter _ _ _ => simp [hafter] at hopen
  | rests _ hafter _ _ _ _ => simp [hafter] at hopen

/-- A failure ends the recovery, so that all results since its start are successes. -/
theorem Tracks.recovery_step (htracks : Tracks past breaker)
    (htransition : Transition breaker call first second next)
    (hhalfOpen : next.state = .halfOpen) :
    next.recoverySuccesses = (History.resultsSinceHalfOpen
        (⟨call, first, second, breaker.state, next.state⟩ :: past)).length ∧
      ∀ result ∈ History.resultsSinceHalfOpen
        (⟨call, first, second, breaker.state, next.state⟩ :: past), result = true := by
  rw [History.resultsSinceHalfOpen]
  cases htransition with
  | stays hstate _ _ _ _ hsuccesses =>
      have hbefore : breaker.state = .halfOpen := hstate.symm.trans hhalfOpen
      obtain ⟨hcount, hall⟩ := htracks.recovery hbefore
      obtain ⟨hfailure, hnext⟩ := hsuccesses hbefore
      rw [if_neg (by simp [Step.enters, hbefore]), hnext, hcount, List.length_append]
      refine ⟨Nat.add_comm _ _, fun result hmem => ?_⟩
      rcases List.mem_append.mp hmem with hmem | hmem
      · cases result with
        | true => rfl
        | false => exact absurd (Option.mem_toList.mp hmem) hfailure
      · exact hall result hmem
  | halfOpens hbefore hafter _ _ hsuccesses =>
      rw [if_pos ⟨by simp [hbefore], hafter⟩]
      exact ⟨hsuccesses (htracks.opening hbefore).2, nofun⟩
  | opens _ hafter _ _ _ _ _ => simp [hafter] at hhalfOpen
  | reopens _ hafter _ _ _ _ => simp [hafter] at hhalfOpen
  | recovers _ hafter _ _ _ => simp [hafter] at hhalfOpen
  | rests _ hafter _ _ _ _ => simp [hafter] at hhalfOpen

theorem Tracks.step (htracks : Tracks past breaker)
    (htransition : Transition breaker call first second next)
    (hrecords : Records breaker call first next)
    (hresults : (call.result.toList ++ past.results).length ≤ 2 ^ 64) :
    Tracks (⟨call, first, second, breaker.state, next.state⟩ :: past) next where
  window := by
    rw [hrecords.results, results_cons]
    cases hresult : call.result with
    | none => exact htracks.window
    | some success =>
        rw [hresult] at hresults
        exact htracks.window.record (by decide) (Nat.lt_of_succ_le hresults) success
  activity := by
    rw [hrecords.activity, History.lastResultAt, htracks.activity]
    cases call.result <;> rfl
  attempts := htracks.attempts_step htransition
  opening := htracks.opening_step htransition
  recovery := htracks.recovery_step htransition

/-- The fields stand for the history as long as the index of the window has not wrapped. -/
theorem Run.tracks {history : History} (hrun : Run history breaker)
    (hresults : history.results.length ≤ 2 ^ 64) : Tracks history breaker := by
  induction hrun with
  | new => exact tracks_new
  | @call past breaker call first second hpast hfirst hsecond ih =>
      rw [results_cons] at hresults
      have hbefore : past.results.length ≤ 2 ^ 64 :=
        le_trans (by simp) hresults
      obtain ⟨htransition, hrecords⟩ := perform_cases breaker first second call
      exact (ih hbefore).step htransition hrecords hresults

theorem backoffMs_eq (entries : ℕ) :
    CircuitBreaker.backoffMs entries = requiredPauseMs entries := Nat.min_comm _ _

theorem requiredPauseMs_pos (entries : ℕ) : 0 < requiredPauseMs entries := by
  simp [requiredPauseMs]

theorem Transition.opens_iff (htransition : Transition breaker call first second next)
    (hbefore : breaker.state = .closed) :
    next.state = .open ↔ call = .recordFailure ∧ 1 / 2 < next.recentResults.failureRate := by
  cases htransition with
  | stays hstate _ _ hlow _ _ =>
      refine iff_of_false ?_ fun ⟨hcall, hhigh⟩ => hlow hbefore hcall hhigh
      rw [hstate, hbefore]
      decide
  | opens _ hopen hcall hhigh _ _ _ => exact iff_of_true hopen ⟨hcall, hhigh⟩
  | halfOpens hopen | reopens hopen | recovers hopen => simp [hbefore] at hopen
  | rests hopen => exact absurd hbefore hopen

theorem Transition.pause_of_halfOpen (htransition : Transition breaker call first second next)
    (hbefore : breaker.state ≠ .halfOpen) (hafter : next.state = .halfOpen) :
    breaker.state = .open ∧
      CircuitBreaker.backoffMs breaker.restartAttempts ≤ second - breaker.openedAtMs := by
  cases htransition with
  | halfOpens hopen _ hpause _ _ => exact ⟨hopen, hpause⟩
  | stays hstate => exact absurd (hstate.symm.trans hafter) hbefore
  | opens _ hopen | reopens _ hopen | recovers _ hopen | rests _ hopen =>
      simp [hopen] at hafter

theorem Transition.reopens_iff (htransition : Transition breaker call first second next)
    (hbefore : breaker.state = .halfOpen) : next.state = .open ↔ call = .recordFailure := by
  have hnoFailure (hresult : call.result ≠ some false) : call ≠ .recordFailure := by
    rintro rfl
    exact hresult rfl
  cases htransition with
  | stays hstate _ _ _ _ hhalfOpen =>
      exact iff_of_false (by simp [hstate, hbefore]) (hnoFailure (hhalfOpen hbefore).1)
  | reopens _ hopen hcall => exact iff_of_true hopen hcall
  | recovers _ hclosed hcall | rests _ hclosed hcall =>
      exact iff_of_false (by simp [hclosed]) (hnoFailure (by simp [hcall]))
  | opens hopen | halfOpens hopen => simp [hbefore] at hopen

theorem Tracks.closes (htracks : Tracks past breaker)
    (htransition : Transition breaker call first second next)
    (hbefore : breaker.state ≠ .closed) (hafter : next.state = .closed) :
    (breaker.state = .halfOpen ∧ call.result = some true ∧
        10 ≤ past.resultsSinceHalfOpen.length + 1 ∧
        ∀ result ∈ past.resultsSinceHalfOpen, result = true) ∨
      (call.result = none ∧ ∃ last, past.lastResultAt = some last ∧ last + 120000 ≤ first) := by
  cases htransition with
  | stays hstate => exact absurd (hstate.symm.trans hafter) hbefore
  | opens _ hopen | halfOpens _ hopen | reopens _ hopen => simp [hopen] at hafter
  | recovers hhalfOpen _ hcall hsuccesses _ =>
      obtain ⟨hcount, hall⟩ := htracks.recovery hhalfOpen
      exact .inl ⟨hhalfOpen, hcall, hcount ▸ hsuccesses, hall⟩
  | rests _ _ hcall hactive hidle _ =>
      rw [htracks.activity] at hactive hidle
      cases hlast : past.lastResultAt with
      | none => simp [hlast] at hactive
      | some last =>
          refine .inr ⟨hcall, last, rfl, ?_⟩
          simp only [hlast, Option.getD_some, idleAutoCloseMs] at hidle
          omega

/-- A breaker whose attempts and results still fit their counters opens, pauses, reopens
and closes as the rules say. -/
theorem breaker_keepsRules {step : Step} (hrun : Run (step :: past) breaker)
    (hresults : (History.results (step :: past)).length ≤ 2 ^ 64)
    (hentries : past.entriesSinceClose < 2 ^ 32) : KeepsRules past step := by
  have hafter := hrun.tracks hresults
  cases hrun with
  | @call _ before call first second hpast hfirst hsecond =>
      have htracks : Tracks past before := by
        refine hpast.tracks (le_trans ?_ hresults)
        rw [results_cons]
        simp
      obtain ⟨htransition, -⟩ := perform_cases before first second call
      constructor
      case opens =>
        intro hbefore
        rw [lastResults, ← half_lt_failureRate_iff hafter.window]
        exact htransition.opens_iff hbefore
      case halfOpens =>
        intro hbefore hhalfOpen
        obtain ⟨-, hpause⟩ := htransition.pause_of_halfOpen
          (fun heq => absurd (hbefore.symm.trans heq) (by decide)) hhalfOpen
        rw [htracks.attempts, Nat.mod_eq_of_lt hentries, backoffMs_eq] at hpause
        have hpositive := requiredPauseMs_pos past.entriesSinceClose
        exact ⟨_, (htracks.opening hbefore).1, by dsimp only; omega⟩
      case halfOpensOnlyOpen =>
        intro hbefore hhalfOpen
        obtain ⟨hopen, -⟩ := htransition.pause_of_halfOpen
          (fun heq => absurd (hbefore.symm.trans heq) (by decide)) hhalfOpen
        exact absurd (hbefore.symm.trans hopen) (by decide)
      case reopens => exact htransition.reopens_iff
      case closes =>
        rintro ⟨hbefore, hclosed⟩
        refine (htracks.closes htransition hbefore hclosed).imp_left ?_
        rintro ⟨hhalfOpen, hcall, hcount, hall⟩
        rw [History.resultsSinceHalfOpen, if_neg (by simp [Step.enters, hhalfOpen]), hcall]
        exact ⟨hhalfOpen, rfl, hcount, List.forall_mem_cons.mpr ⟨rfl, hall⟩⟩

end Tracking

/-! ## Ten failures, and very many attempts -/

/-- A new breaker with nothing but failures, all of them at the same time. -/
def failures : ℕ → History × CircuitBreaker
  | 0 => ([], CircuitBreaker.new)
  | count + 1 =>
      let (past, breaker) := failures count
      let next := Call.recordFailure.perform 1 1 breaker
      (⟨.recordFailure, 1, 1, breaker.state, next.state⟩ :: past, next)

theorem run_failures (count : ℕ) :
    Run (failures count).1 (failures count).2 ∧ (failures count).1.clock ≤ 1 := by
  induction count with
  | zero => exact ⟨.new, Nat.zero_le 1⟩
  | succ count ih => exact ⟨.call .recordFailure 1 1 ih.1 ih.2 le_rfl, le_rfl⟩

theorem breaker_keepsRules_ten_failures :
    (failures 10).2.state = .open ∧
      KeepsRules (failures 9).1
        ⟨.recordFailure, 1, 1, (failures 9).2.state, (failures 10).2.state⟩ :=
  ⟨by decide +kernel,
    breaker_keepsRules (run_failures 10).1 (by decide +kernel) (by decide +kernel)⟩

/-- An open circuit after the given number of half-open entries. -/
structure Reopened (entries now : ℕ) (history : History) (breaker : CircuitBreaker) : Prop where
  run : Run history breaker
  clock : history.clock = now
  started : 0 < now
  state : breaker.state = .open
  opened : breaker.openedAtMs = now
  opening : history.latestOpening = some now
  activity : breaker.lastActivityMs = now
  attempts : breaker.restartAttempts = entries % 2 ^ 32
  entries : history.entriesSinceClose = entries

theorem reopened_start : Reopened 0 1 (failures 10).1 (failures 10).2 where
  run := (run_failures 10).1
  clock := rfl
  started := Nat.one_pos
  state := by decide +kernel
  opened := by decide +kernel
  opening := by decide +kernel
  activity := by decide +kernel
  attempts := by decide +kernel
  entries := by decide +kernel

section Reopening

variable {entries now : ℕ} {history : History} {breaker : CircuitBreaker}

/-- A request after the pause makes the circuit half-open. -/
theorem Reopened.probe (hopen : Reopened entries now history breaker) (pause : ℕ)
    (hpause : requiredPauseMs (entries % 2 ^ 32) ≤ pause) (hidle : pause < idleAutoCloseMs) :
    (Call.shouldAllowRequest none 0).perform (now + pause) (now + pause) breaker =
      { breaker with
        state := .halfOpen
        restartAttempts := (entries % 2 ^ 32 + 1) % 2 ^ 32 } := by
  have hactive : breaker.idle (now + pause) = false := by
    simp only [CircuitBreaker.idle, hopen.activity, Nat.add_sub_cancel_left]
    simp only [decide_eq_false_iff_not, not_and, not_le]
    exact fun _ _ => hidle
  have hready : CircuitBreaker.backoffMs (entries % 2 ^ 32) ≤
      now + pause - breaker.openedAtMs := by
    rw [hopen.opened, backoffMs_eq, Nat.add_sub_cancel_left]
    exact hpause
  simp only [Call.perform, CircuitBreaker.shouldAllowRequest, hactive, hopen.state,
    CircuitBreaker.maybeTransitionToHalfOpen, hopen.attempts, if_pos hready,
    Bool.false_eq_true, if_false]

/-- The circuit reopens with the failure of the request. -/
theorem Reopened.again (hopen : Reopened entries now history breaker) :
    ∃ history breaker, Reopened (entries + 1) (now + 60000) history breaker := by
  have hprobe := hopen.probe 60000 (by simp [requiredPauseMs]) (by decide)
  have hhalfOpen := hopen.run.call (.shouldAllowRequest none 0) (now + 60000) (now + 60000)
    (by rw [hopen.clock]; omega) le_rfl
  have hfailed := hhalfOpen.call .recordFailure (now + 60000) (now + 60000) le_rfl le_rfl
  rw [hprobe] at hfailed
  refine ⟨_, _, hfailed, rfl, by omega, rfl, rfl, rfl, rfl, ?_, ?_⟩
  · exact Nat.mod_add_mod entries (2 ^ 32) 1
  · simp [History.entriesSinceClose, Step.enters, hopen.state, hopen.entries,
      CircuitBreaker.recordFailure, Call.perform, CircuitBreaker.noted,
      CircuitBreaker.openCircuit]

theorem exists_reopened (entries : ℕ) :
    ∃ now history breaker, Reopened entries now history breaker := by
  induction entries with
  | zero => exact ⟨_, _, _, reopened_start⟩
  | succ entries ih =>
      obtain ⟨now, history, breaker, hopen⟩ := ih
      exact ⟨_, hopen.again⟩

end Reopening

/-- After `2 ^ 32` attempts the pause is five seconds again. -/
theorem pause_shortened :
    ∃ past step breaker, Run (step :: past) breaker ∧ ¬ KeepsRules past step := by
  obtain ⟨now, past, breaker, hopen⟩ := exists_reopened (2 ^ 32)
  have hprobe := hopen.probe 5000 (by decide) (by decide)
  have hhalfOpen := hopen.run.call (.shouldAllowRequest none 0) (now + 5000) (now + 5000)
    (by rw [hopen.clock]; omega) le_rfl
  refine ⟨past, _, _, hhalfOpen, fun hrules => ?_⟩
  obtain ⟨opening, hopening, hpause⟩ := hrules.halfOpens hopen.state (by rw [hprobe])
  rw [hopen.opening] at hopening
  cases hopening
  rw [hopen.entries] at hpause
  have hlong : requiredPauseMs (2 ^ 32) = 60000 := by decide
  rw [hlong] at hpause
  dsimp only at hpause
  omega

end Relayer.PluginHealth
