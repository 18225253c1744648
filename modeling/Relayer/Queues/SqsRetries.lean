import Mathlib

/-!
# Attempts of an SQS job

`process_message` defers a job that is delivered before its time and runs its handler
otherwise.  A standard queue gets a new message for every deferral and every retry; on a
FIFO queue the same message is delivered again, and the broker counts its deliveries.  The
attempt number of a handler comes from an attribute of the message or from that count.
All calls to SQS succeed here.
-/

namespace Relayer.SqsRetries

def usizeMax : ℕ := 2 ^ 64 - 1

/-- `ApproximateReceiveCount` and the attributes that the worker sets.  The body stays the
same with every message of a job. -/
structure Message where
  receiveCount : ℕ
  targetScheduledOn : Option ℤ
  retryAttempt : Option ℕ
  deriving DecidableEq, Repr

/-- `Result<(), ProcessingError>`, as the handler of a job gives it. -/
inductive ProcessingResult where
  | ok
  | permanent
  | retryable
  deriving DecidableEq, Repr

inductive MessageOutcome where
  | delete
  | retain
  deriving DecidableEq, Repr

/-- The retry delay is that of the queue and the job, by attempt. -/
structure Queue where
  fifo : Bool
  maxRetries : ℕ
  retryDelay : ℕ → ℤ

/-- The attempt handed to the handler, if it ran, and the calls to the queue: a new
visibility timeout for the message, or a new message and its delay. -/
structure Processed where
  attempt : Option ℕ
  visibilityTimeout : Option ℤ
  sent : Option (Message × ℤ)
  outcome : MessageOutcome
  deriving DecidableEq, Repr

def clamp (low high value : ℤ) : ℤ := max low (min value high)

/-- A count that does not fit a machine word is read as 1. -/
def Message.parsedReceiveCount (message : Message) : ℕ :=
  if message.receiveCount ≤ usizeMax then message.receiveCount else 1

def effectiveHandlerAttempt (receiveCount : ℕ) (retryAttempt : Option ℕ) : ℕ :=
  retryAttempt.getD (receiveCount - 1)

def deferMessage (queue : Queue) (targetScheduledOn delaySeconds : ℤ) : Processed :=
  if queue.fifo then ⟨none, some (clamp 1 900 delaySeconds), none, .retain⟩
  else
    ⟨none, none, some (⟨0, some targetScheduledOn, none⟩, clamp 1 900 delaySeconds), .delete⟩

/-- What follows a retryable failure. -/
def retryMessage (queue : Queue) (receiveCount attempt : ℕ) : Processed :=
  if queue.maxRetries ≠ usizeMax ∧ queue.maxRetries < receiveCount then
    ⟨some attempt, none, none, .retain⟩
  else if queue.fifo then
    ⟨some attempt, some (clamp 1 900 (queue.retryDelay attempt)), none, .retain⟩
  else
    ⟨some attempt, none,
      some (⟨0, none, some (min (attempt + 1) usizeMax)⟩, queue.retryDelay attempt), .delete⟩

def handleMessage (queue : Queue) (message : Message) (result : ProcessingResult) : Processed :=
  let receiveCount := message.parsedReceiveCount
  let attempt := effectiveHandlerAttempt receiveCount message.retryAttempt
  match result with
  | .ok | .permanent => ⟨some attempt, none, none, .delete⟩
  | .retryable => retryMessage queue receiveCount attempt

/-- One delivery at time `now`; `result` is what the handler says if it is run. -/
def processMessage (queue : Queue) (now : ℤ) (result : ProcessingResult) (message : Message) :
    Processed :=
  match message.targetScheduledOn with
  | some targetScheduledOn =>
      let remaining := targetScheduledOn - now
      if 0 < remaining then deferMessage queue targetScheduledOn (min remaining 900)
      else handleMessage queue message result
  | none => handleMessage queue message result

/-! ## The deliveries of a job -/

structure Delivery where
  now : ℤ
  result : ProcessingResult
  deriving DecidableEq, Repr

def Message.delivered (message : Message) : Message :=
  { message with receiveCount := message.receiveCount + 1 }

/-- The message that carries the job after a delivery, if there is one. -/
def nextMessage (message : Message) (processed : Processed) : Option Message :=
  match processed.outcome with
  | .retain => some message.delivered
  | .delete => processed.sent.map Prod.fst

/-- The attempt numbers that the handler is given, from the message that carries the job. -/
def attempts (queue : Queue) : Option Message → List Delivery → List ℕ
  | some message, delivery :: deliveries =>
      let processed := processMessage queue delivery.now delivery.result message.delivered
      processed.attempt.toList ++ attempts queue (nextMessage message processed) deliveries
  | _, _ => []

/-- The message that a producer sends. -/
def produced (scheduledOn : Option ℤ) : Message := ⟨0, scheduledOn, none⟩

def TooEarly (scheduledOn : Option ℤ) (delivery : Delivery) : Prop :=
  ∃ target ∈ scheduledOn, delivery.now < target

instance (scheduledOn : Option ℤ) (delivery : Delivery) :
    Decidable (TooEarly scheduledOn delivery) :=
  inferInstanceAs (Decidable (∃ target ∈ scheduledOn, _))

/-- The handler's `k`-th run is its attempt `k - 1`. -/
def CountsRuns (attempts : List ℕ) : Prop := attempts = List.range attempts.length

/-! ## Deferrals -/

section Runs

variable {queue : Queue} {scheduledOn : Option ℤ} {message : Message} {delivery : Delivery}
  {deliveries : List Delivery}

theorem attempts_nil (queue : Queue) (message : Option Message) :
    attempts queue message [] = [] := by
  cases message <;> rfl

theorem processMessage_of_tooEarly (queue : Queue) (message : Message)
    (hearly : TooEarly message.targetScheduledOn delivery) :
    ∃ target remaining, message.targetScheduledOn = some target ∧
      processMessage queue delivery.now delivery.result message =
        deferMessage queue target remaining := by
  obtain ⟨target, htarget, hnow⟩ := hearly
  rw [Option.mem_def] at htarget
  refine ⟨target, min (target - delivery.now) 900, htarget, ?_⟩
  rw [processMessage, htarget]
  exact if_pos (by omega)

theorem processMessage_of_due (queue : Queue) (message : Message)
    (hdue : ¬ TooEarly message.targetScheduledOn delivery) :
    processMessage queue delivery.now delivery.result message =
      handleMessage queue message delivery.result := by
  rw [processMessage]
  split
  case h_1 target htarget =>
      refine if_neg fun hremaining => hdue ⟨target, htarget, ?_⟩
      omega
  case h_2 => rfl

/-- A deferral gives the handler nothing.  On a FIFO queue the broker counts it. -/
theorem attempts_cons_tooEarly {count : ℕ} (hearly : TooEarly scheduledOn delivery)
    (later : List Delivery) :
    attempts queue (some ⟨count, scheduledOn, none⟩) (delivery :: later) =
      attempts queue (some ⟨if queue.fifo then count + 1 else 0, scheduledOn, none⟩) later := by
  obtain ⟨target, remaining, htarget, hprocessed⟩ :=
    processMessage_of_tooEarly queue ⟨count + 1, scheduledOn, none⟩ hearly
  rw [attempts, Message.delivered, hprocessed, deferMessage, show scheduledOn = _ from htarget]
  cases queue.fifo <;> rfl

theorem attempts_tooEarly (hearly : ∀ delivery ∈ deliveries, TooEarly scheduledOn delivery)
    (count : ℕ) (hcount : queue.fifo = false → count = 0) (later : List Delivery) :
    attempts queue (some ⟨count, scheduledOn, none⟩) (deliveries ++ later) =
      attempts queue
        (some ⟨if queue.fifo then count + deliveries.length else 0, scheduledOn, none⟩)
        later := by
  induction deliveries generalizing count with
  | nil => cases hfifo : queue.fifo <;> simp [hfifo, hcount]
  | cons delivery deliveries ih =>
      rw [List.cons_append, attempts_cons_tooEarly (hearly delivery List.mem_cons_self),
        ih fun other hmem => hearly other (List.mem_cons_of_mem _ hmem)]
      · cases queue.fifo <;> simp [Nat.add_assoc, Nat.add_comm 1]
      · intro hfifo
        simp [hfifo]

/-! ## Retries -/

/-- A message whose time has come and whose next run is the given attempt. -/
structure Ready (queue : Queue) (deliveries : List Delivery) (message : Message) (attempt : ℕ) :
    Prop where
  due : ∀ delivery ∈ deliveries, ¬ TooEarly message.targetScheduledOn delivery
  counted : message.retryAttempt.getD message.receiveCount = attempt
  retried : message.retryAttempt.isSome → message.receiveCount = 0 ∧ queue.fifo = false ∧
    ¬ (queue.maxRetries ≠ usizeMax ∧ queue.maxRetries < 1)
  bounded : message.receiveCount ≤ attempt

section Retries

variable {attempt : ℕ}

theorem Ready.handleMessage_eq (hready : Ready queue deliveries message attempt)
    (hattempt : attempt < usizeMax) (result : ProcessingResult) :
    handleMessage queue message.delivered result =
      match result with
      | .ok | .permanent => ⟨some attempt, none, none, .delete⟩
      | .retryable => retryMessage queue (message.receiveCount + 1) attempt := by
  have hparsed : message.delivered.parsedReceiveCount = message.receiveCount + 1 := by
    have hbounded := hready.bounded
    exact if_pos (show message.receiveCount + 1 ≤ usizeMax by omega)
  have hattempt : effectiveHandlerAttempt (message.receiveCount + 1)
      message.delivered.retryAttempt = attempt := hready.counted
  simp only [handleMessage, hparsed, hattempt]

/-- A message that is kept in the queue is delivered with the next number. -/
theorem Ready.retained (hready : Ready queue (delivery :: deliveries) message attempt)
    (hfirst : message.retryAttempt = none) :
    Ready queue deliveries message.delivered (attempt + 1) where
  due := fun other hmem => hready.due other (List.mem_cons_of_mem _ hmem)
  counted := by
    have hcounted := hready.counted
    rw [hfirst] at hcounted
    simpa [Message.delivered, hfirst] using hcounted
  retried := by simp [Message.delivered, hfirst]
  bounded := Nat.succ_le_succ hready.bounded

/-- After a retryable failure some message carries the job on with the next number. -/
theorem Ready.retry (hready : Ready queue (delivery :: deliveries) message attempt)
    (hattempt : attempt < usizeMax) :
    (retryMessage queue (message.receiveCount + 1) attempt).attempt = some attempt ∧
      ∃ next, nextMessage message (retryMessage queue (message.receiveCount + 1) attempt) =
        some next ∧ Ready queue deliveries next (attempt + 1) := by
  rw [retryMessage]
  split_ifs with hmax hfifo
  · have hfirst : message.retryAttempt = none := by
      refine Option.not_isSome_iff_eq_none.mp fun hretried => ?_
      obtain ⟨hcount, -, hfew⟩ := hready.retried hretried
      rw [hcount] at hmax
      exact hfew hmax
    exact ⟨rfl, _, rfl, hready.retained hfirst⟩
  · have hfirst : message.retryAttempt = none := by
      refine Option.not_isSome_iff_eq_none.mp fun hretried => ?_
      obtain ⟨-, hstandard, -⟩ := hready.retried hretried
      exact absurd (hfifo.symm.trans hstandard) (by decide)
    exact ⟨rfl, _, rfl, hready.retained hfirst⟩
  · refine ⟨rfl, _, rfl, ?_, ?_, ?_, Nat.zero_le _⟩
    · rintro other - ⟨target, htarget, -⟩
      exact absurd htarget (by simp)
    · exact min_eq_left hattempt
    · exact fun _ => ⟨rfl, Bool.not_eq_true _ ▸ hfifo, fun hfew => hmax ⟨hfew.1, by omega⟩⟩

/-- The handler of a job whose time has come gets one attempt number after another. -/
theorem attempts_ready (hready : Ready queue deliveries message attempt)
    (hlength : attempt + deliveries.length ≤ usizeMax) :
    ∃ runs, attempts queue (some message) deliveries = List.range' attempt runs ∧
      (deliveries ≠ [] → runs ≠ 0) := by
  induction deliveries generalizing message attempt with
  | nil => exact ⟨0, rfl, fun hne => absurd rfl hne⟩
  | cons delivery deliveries ih =>
      rw [List.length_cons] at hlength
      have hattempt : attempt < usizeMax := by omega
      have hdue : ¬ TooEarly message.delivered.targetScheduledOn delivery :=
        hready.due delivery List.mem_cons_self
      rw [attempts, processMessage_of_due queue _ hdue, hready.handleMessage_eq hattempt]
      cases delivery.result with
      | ok | permanent => exact ⟨1, by simp [nextMessage, attempts], fun _ => one_ne_zero⟩
      | retryable =>
          obtain ⟨hrun, next, hnext, hagain⟩ := hready.retry hattempt
          obtain ⟨runs, hruns, -⟩ := ih hagain (by omega)
          refine ⟨runs + 1, ?_, fun _ => Nat.succ_ne_zero runs⟩
          simp only [hrun, hnext, hruns, Option.toList_some, List.singleton_append]
          exact List.range'_succ.symm

end Retries

/-! ## Counting runs -/

/-- With a clock that does not run back the deferrals come first. -/
theorem exists_early_late (scheduledOn : Option ℤ)
    (hclock : deliveries.Pairwise fun left right => left.now ≤ right.now) :
    ∃ early late, deliveries = early ++ late ∧
      (∀ delivery ∈ early, TooEarly scheduledOn delivery) ∧
        ∀ delivery ∈ late, ¬ TooEarly scheduledOn delivery := by
  induction deliveries with
  | nil => exact ⟨[], [], rfl, nofun, nofun⟩
  | cons delivery deliveries ih =>
      obtain ⟨hfirst, hrest⟩ := List.pairwise_cons.mp hclock
      by_cases hearly : TooEarly scheduledOn delivery
      · obtain ⟨early, late, rfl, hbefore, hafter⟩ := ih hrest
        exact ⟨delivery :: early, late, rfl, List.forall_mem_cons.mpr ⟨hearly, hbefore⟩, hafter⟩
      · refine ⟨[], delivery :: deliveries, rfl, nofun,
          List.forall_mem_cons.mpr ⟨hearly, ?_⟩⟩
        rintro other hmem ⟨target, htarget, hnow⟩
        exact hearly ⟨target, htarget, lt_of_le_of_lt (hfirst other hmem) hnow⟩

theorem countsRuns_range' (first runs : ℕ) :
    CountsRuns (List.range' first runs) ↔ first = 0 ∨ runs = 0 := by
  rw [CountsRuns, List.length_range', List.range_eq_range']
  cases runs with
  | zero => simp
  | succ runs =>
      simp only [Nat.add_one_ne_zero, or_false]
      refine ⟨fun heq => ?_, fun hzero => by rw [hzero]⟩
      rw [List.range'_succ, List.range'_succ] at heq
      exact (List.cons.inj heq).1

/-- The attempt numbers count the runs exactly on a standard queue, or if no delivery came
before the scheduled time, or as long as all of them did. -/
theorem attempts_countRuns_iff (queue : Queue) (scheduledOn : Option ℤ)
    (deliveries : List Delivery)
    (hclock : deliveries.Pairwise fun left right => left.now ≤ right.now)
    (hlength : deliveries.length ≤ usizeMax) :
    CountsRuns (attempts queue (some (produced scheduledOn)) deliveries) ↔
      queue.fifo = false ∨ (∀ delivery ∈ deliveries, ¬ TooEarly scheduledOn delivery) ∨
        ∀ delivery ∈ deliveries, TooEarly scheduledOn delivery := by
  obtain ⟨early, late, rfl, hearly, hlate⟩ := exists_early_late scheduledOn hclock
  rw [List.length_append] at hlength
  have hready : Ready queue late
      ⟨if queue.fifo then 0 + early.length else 0, scheduledOn, none⟩
      (if queue.fifo then 0 + early.length else 0) :=
    ⟨hlate, rfl, nofun, le_rfl⟩
  obtain ⟨runs, hruns, hsome⟩ := attempts_ready hready (by split_ifs <;> omega)
  rw [produced, attempts_tooEarly hearly 0 (fun _ => rfl), hruns, countsRuns_range']
  cases hfifo : queue.fifo with
  | false => simp
  | true =>
      rw [if_pos rfl, Nat.zero_add]
      constructor
      · rintro (hnone | hnone)
        · rw [List.length_eq_zero_iff.mp hnone]
          exact .inr (.inl hlate)
        · rw [Decidable.not_imp_not.mp hsome hnone, List.append_nil]
          exact .inr (.inr hearly)
      · rintro (hstandard | hdue | hall)
        · exact absurd hstandard (by decide)
        · refine .inl (List.length_eq_zero_iff.mpr (List.eq_nil_iff_forall_not_mem.mpr ?_))
          exact fun delivery hmem => hdue delivery (List.mem_append_left _ hmem)
            (hearly delivery hmem)
        · have hempty : late = [] := List.eq_nil_iff_forall_not_mem.mpr fun delivery hmem =>
            hlate delivery hmem (hall delivery (List.mem_append_right _ hmem))
          have hlengths := congrArg List.length hruns
          rw [hempty, attempts_nil, List.length_range'] at hlengths
          exact .inr hlengths.symm

/-- A FIFO job that is first delivered five minutes early starts with attempt 1. -/
theorem deferral_counted_as_attempt :
    attempts ⟨true, 5, fun _ => 30⟩ (some (produced (some 300)))
        [⟨0, .retryable⟩, ⟨300, .retryable⟩, ⟨330, .retryable⟩] = [1, 2] ∧
      ¬ CountsRuns (attempts ⟨true, 5, fun _ => 30⟩ (some (produced (some 300)))
        [⟨0, .retryable⟩, ⟨300, .retryable⟩, ⟨330, .retryable⟩]) := by
  refine ⟨by decide, ?_⟩
  rw [CountsRuns]
  decide

theorem attempts_countRuns_iff_standard :
    CountsRuns (attempts ⟨false, 5, fun _ => 30⟩ (some (produced (some 2000)))
      [⟨0, .retryable⟩, ⟨900, .retryable⟩, ⟨2000, .retryable⟩, ⟨2030, .retryable⟩]) :=
  (attempts_countRuns_iff ⟨false, 5, fun _ => 30⟩ (some 2000)
    [⟨0, .retryable⟩, ⟨900, .retryable⟩, ⟨2000, .retryable⟩, ⟨2030, .retryable⟩]
    (by decide) (by decide)).mpr (.inl rfl)

end Runs

end Relayer.SqsRetries
