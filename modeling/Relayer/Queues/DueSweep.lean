import Relayer.Core.Protocol
import Relayer.Core.ScoredSet

/-!
# Scheduled jobs

Jobs that are to run later wait in a sorted set, where the serialized job is the member and
its time the score.  Every instance sweeps this set: it takes the members that are due out
of the set in one step, then publishes them one by one and puts back what could not be
published.

A sweep runs interleaved with others and with the producers of jobs.  Every call may fail,
before or after it has taken effect, and a worker may stop between any two calls.  No job
should get lost in this.  A job whose publication fails after it took effect is put back and
published again; only publications that are confirmed count.
-/

namespace Relayer.DueSweep

open Relayer.Interaction Relayer.Interleaving Relayer.Scored

/-! ## The code -/

structure ScheduledJob where
  body : String
  retryAttempt : ℕ
  deriving DecidableEq, Repr

/-- How jobs are serialized.  A member of the set is the text of a job, or corrupt. -/
structure Codec where
  toVec : ScheduledJob → String
  fromSlice : String → Option ScheduledJob
  fromSlice_toVec : ∀ job, fromSlice (toVec job) = some job

inductive Request where
  | now
  | zadd (job : ScheduledJob) (runAt : ℤ)
  | claimDue (now : ℤ) (max : ℕ)
  | publish (job : ScheduledJob)

/-- Errors of the queue are only logged here. -/
abbrev Answer : Request → Type
  | .now => ℤ
  | .zadd .. => Except String Unit
  | .claimDue .. => Except String (List String)
  | .publish _ => Except String Unit

abbrev Step := Program Request Answer

def zaddScheduled (job : ScheduledJob) (runAt : ℤ) : Step Unit := do
  let _ ← Program.ask (Request.zadd job runAt)
  return ()

section Code

variable (codec : Codec)

/-- The jobs of a batch; corrupt members are dropped. -/
def claimDue (now : ℤ) (max : ℕ) : Step (Except String (List ScheduledJob)) := do
  let claimed ← Program.ask (Request.claimDue now max)
  return claimed.map (List.filterMap codec.fromSlice)

def publishScheduled (job : ScheduledJob) : Step Unit := do
  match ← Program.ask (Request.publish job) with
  | .ok _ => return ()
  | .error _ =>
      let now ← Program.ask Request.now
      zaddScheduled job now

def publishAll : List ScheduledJob → Step Unit
  | [] => return ()
  | job :: jobs => do
      publishScheduled job
      publishAll jobs

def dueSweepBatch : ℕ := 256

/-- One round of the sweep.  Between two rounds a worker holds nothing, so each round is a
program of its own. -/
def sweep : Step Unit := do
  let now ← Program.ask Request.now
  match ← claimDue codec now dueSweepBatch with
  | .ok jobs => publishAll jobs
  | .error _ => return ()

end Code

/-! ## The system -/

/-- A program that runs: a producer schedules a job, or a worker sweeps. -/
inductive Party where
  | producer (number : ℕ) (job : ScheduledJob) (runAt : ℤ)
  | sweeper (number : ℕ)
  deriving DecidableEq

def Party.run (codec : Codec) : Party → Step Unit
  | .producer _ job runAt => zaddScheduled job runAt
  | .sweeper _ => sweep codec

/-- What can go wrong: a worker stops while it holds jobs, a batch is taken out of the set
but the answer does not arrive, a job cannot be put back, or it is added while its equal is
in the set. -/
inductive Fault where
  | stopped
  | claimUnanswered
  | requeueFailed
  | sameContent
  deriving DecidableEq

/-- The set; the jobs that workers have taken out of it and not settled; the jobs that were
scheduled and those whose publication was confirmed; and what has gone wrong. -/
structure Shared where
  set : ScoredSet String
  held : List (Party × ScheduledJob)
  scheduled : List ScheduledJob
  published : List ScheduledJob
  faults : List Fault

namespace Shared

section Set

variable (codec : Codec)

def put (shared : Shared) (job : ScheduledJob) (runAt : ℤ) : Shared :=
  { shared with
    set := shared.set.add (codec.toVec job) runAt
    faults :=
      if codec.toVec job ∈ shared.set.members then .sameContent :: shared.faults
      else shared.faults }

def schedule (shared : Shared) (job : ScheduledJob) (runAt : ℤ) : Shared :=
  { shared.put codec job runAt with scheduled := job :: shared.scheduled }

def claim (shared : Shared) (party : Party) (members : List String) : Shared :=
  { shared with
    set := shared.set.removeAll members
    held := shared.held ++ (members.filterMap codec.fromSlice).map (party, ·) }

end Set

def release (shared : Shared) (party : Party) (job : ScheduledJob) : Shared :=
  { shared with held := shared.held.erase (party, job) }

def publish (shared : Shared) (job : ScheduledJob) : Shared :=
  { shared with published := job :: shared.published }

def remove (shared : Shared) (members : List String) : Shared :=
  { shared with
    set := shared.set.removeAll members
    faults := .claimUnanswered :: shared.faults }

def drop (shared : Shared) (party : Party) (job : ScheduledJob) : Shared :=
  { shared.release party job with faults := .requeueFailed :: shared.faults }

def stop (shared : Shared) (party : Party) : Shared :=
  { shared with
    held := shared.held.filter fun entry => entry.1 ≠ party
    faults :=
      if party ∈ shared.held.map Prod.fst then .stopped :: shared.faults else shared.faults }

end Shared

/-- A call that fails leaves open whether it took effect. -/
def serve (codec : Codec) (shared : Shared) (party : Party) :
    (request : Request) → Answer request → List Shared
  | .now, _ => [shared]
  | .zadd job runAt, answer =>
      match party with
      | .producer .. => written shared (shared.schedule codec job runAt) () answer
      | .sweeper _ => written (shared.drop party job)
          ((shared.put codec job runAt).release party job) () answer
  | .claimDue now max, answer =>
      let due := shared.set.rangeByScore now 0 max
      answered (shared.claim codec party due) [shared, shared.remove due] due answer
  | .publish job, answer => answered ((shared.publish job).release party job) [shared] () answer

def queue (codec : Codec) : System Request Answer Shared Empty Party Unit where
  launch party := some (party.run codec)
  serve := serve codec
  occur _ event := nomatch event
  crash shared party := some (shared.stop party)

abbrev Queue := Config Request Answer Shared Party Unit

/-- A set, before any job is scheduled. -/
def initial (set : ScoredSet String) : Queue := ⟨⟨set, [], [], [], []⟩, []⟩

/-- The programs that have not come to their end. -/
def running (config : Queue) : List Party :=
  (config.jobs.filter fun job => !Program.isDone job.2).map Prod.fst

/-- The jobs that running workers have taken and not settled. -/
def heldByRunning (config : Queue) : List ScheduledJob :=
  (config.state.held.filter fun entry => entry.1 ∈ running config).map Prod.snd

/-- Each job that was scheduled, as often as it was, is in the set, held by a running worker
or published. -/
def Conserved (codec : Codec) (config : Queue) : Prop :=
  ∀ job, config.state.scheduled.count job ≤
    config.state.set.members.count (codec.toVec job) + (heldByRunning config).count job +
      config.state.published.count job

/-! ## Conservation -/

variable {codec : Codec} {shared after : Shared} {party other : Party} {job : ScheduledJob}
  {runAt : ℤ} {members : List String} {jobs : List ScheduledJob}

/-- A job is accounted for as often as it was scheduled, unless something has gone wrong. -/
def Balanced (codec : Codec) (shared : Shared) : Prop :=
  shared.faults = [] → ∀ job, shared.scheduled.count job ≤
    shared.set.members.count (codec.toVec job) + (shared.held.map Prod.snd).count job +
      shared.published.count job

theorem count_erase_held (held : List (Party × ScheduledJob)) (party : Party)
    (job other : ScheduledJob) :
    (held.map Prod.snd).count other ≤
      ((held.erase (party, job)).map Prod.snd).count other + [job].count other := by
  by_cases hmem : (party, job) ∈ held
  · have hperm := (List.perm_cons_erase hmem).map Prod.snd
    rw [hperm.count_eq, List.map_cons, List.count_cons, List.count_singleton]
  · rw [List.erase_of_not_mem hmem]
    exact Nat.le_add_right _ _

/-- Each text of a job among the members is decoded to it. -/
theorem count_le_decoded (members : List String) (job : ScheduledJob) :
    members.count (codec.toVec job) ≤ (members.filterMap codec.fromSlice).count job := by
  induction members with
  | nil => exact le_rfl
  | cons member members ih =>
      by_cases hjob : member = codec.toVec job
      · rw [hjob, List.filterMap_cons_some (codec.fromSlice_toVec job), List.count_cons_self,
          List.count_cons_self]
        exact Nat.succ_le_succ ih
      · rw [List.count_cons_of_ne hjob]
        refine ih.trans (List.Sublist.count_le _ ?_)
        exact (List.sublist_cons_self ..).filterMap _

theorem toVec_inj {first second : ScheduledJob} :
    codec.toVec first = codec.toVec second ↔ first = second := by
  refine ⟨fun hsame => Option.some.inj ?_, congrArg _⟩
  rw [← codec.fromSlice_toVec first, hsame, codec.fromSlice_toVec]

theorem Shared.put_faults (job : ScheduledJob) (runAt : ℤ)
    (hput : (shared.put codec job runAt).faults = []) :
    codec.toVec job ∉ shared.set.members ∧ shared.faults = [] := by
  rw [Shared.put] at hput
  split_ifs at hput with hmem
  exact ⟨hmem, hput⟩

theorem Balanced.schedule (hbalanced : Balanced codec shared) :
    Balanced codec (shared.schedule codec job runAt) := by
  intro hfaults counted
  obtain ⟨hnew, hnone⟩ := Shared.put_faults job runAt hfaults
  have hcount := hbalanced hnone counted
  have hadded := ScoredSet.count_add hnew runAt (codec.toVec counted)
  simp only [Shared.schedule, Shared.put, List.count_cons, List.count_nil, beq_iff_eq,
    toVec_inj] at *
  omega

theorem Balanced.requeue (hbalanced : Balanced codec shared) :
    Balanced codec ((shared.put codec job runAt).release party job) := by
  intro hfaults counted
  obtain ⟨hnew, hnone⟩ := Shared.put_faults job runAt hfaults
  have hcount := hbalanced hnone counted
  have hadded := ScoredSet.count_add hnew runAt (codec.toVec counted)
  have hreleased := count_erase_held shared.held party job counted
  simp only [Shared.release, Shared.put, List.count_cons, List.count_nil, beq_iff_eq,
    toVec_inj] at *
  omega

theorem Balanced.deliver (hbalanced : Balanced codec shared) :
    Balanced codec ((shared.publish job).release party job) := by
  intro hfaults counted
  have hcount := hbalanced hfaults counted
  have hreleased := count_erase_held shared.held party job counted
  simp only [Shared.publish, Shared.release, List.count_cons, List.count_nil] at *
  omega

theorem Balanced.claim (hbalanced : Balanced codec shared) :
    Balanced codec (shared.claim codec party members) := by
  intro hfaults counted
  have hcount := hbalanced hfaults counted
  have hremoved := shared.set.count_le_removeAll members (codec.toVec counted)
  have hdecoded : members.count (codec.toVec counted) ≤
      (members.filterMap codec.fromSlice).count counted := count_le_decoded members counted
  simp only [Shared.claim, List.map_append, List.map_map, Function.comp_def, List.map_id',
    List.count_append] at *
  omega

theorem Balanced.stop (hbalanced : Balanced codec shared) :
    Balanced codec (shared.stop party) := by
  intro hfaults counted
  have hfaults : shared.faults = [] ∧ party ∉ shared.held.map Prod.fst := by
    rw [Shared.stop] at hfaults
    split_ifs at hfaults with hmem
    exact ⟨hfaults, hmem⟩
  have hkept : shared.held.filter (fun entry => entry.1 ≠ party) = shared.held := by
    refine List.filter_eq_self.mpr fun entry hentry => ?_
    have hne : entry.1 ≠ party := fun heq => hfaults.2 (heq ▸ List.mem_map_of_mem hentry)
    simpa using hne
  have hcount := hbalanced hfaults.1 counted
  simp only [Shared.stop, hkept]
  exact hcount

/-! ## What workers hold -/

/-- A program remembers the jobs that it has taken and not settled; it publishes them in
turn, and puts back the one that it could not publish. -/
def conduct (codec : Codec) (party : Party) :
    Protocol Request Answer (List ScheduledJob) where
  allowed
    | _, .now => True
    | left, .zadd job _ => match party with
        | .producer .. => left = []
        | .sweeper _ => ∃ later, left = job :: later
    | left, .claimDue .. => left = []
    | left, .publish job => ∃ later, left = job :: later
  possible _ _ _ := True
  remember
    | _, .claimDue .., .ok members => members.filterMap codec.fromSlice
    | left, .publish _, .ok _ => left.tail
    | left, .zadd .., _ => left.tail
    | left, _, _ => left

theorem follows_publishAll (number : ℕ) (jobs : List ScheduledJob) :
    (publishAll jobs).Follows (conduct codec (.sweeper number)) (fun left _ => left = [])
      jobs := by
  induction jobs with
  | nil => exact rfl
  | cons job jobs ih =>
      have hone : (publishScheduled job).Follows (conduct codec (.sweeper number))
          (fun left _ => left = jobs) (job :: jobs) := by
        refine ⟨⟨jobs, rfl⟩, fun answer _ => ?_⟩
        cases answer with
        | ok => exact rfl
        | error => exact ⟨trivial, fun _ _ => ⟨⟨jobs, rfl⟩, fun _ _ => rfl⟩⟩
      apply hone.bind
      rintro left _ rfl
      exact ih

theorem follows_run (party : Party) :
    (party.run codec).Follows (conduct codec party) (fun left _ => left = []) [] := by
  cases party with
  | producer number job runAt => exact ⟨rfl, fun _ _ => rfl⟩
  | sweeper number =>
      refine ⟨trivial, fun now _ => ⟨rfl, fun answer _ => ?_⟩⟩
      cases answer with
      | ok members => exact follows_publishAll number _
      | error => exact rfl

/-- What is remembered is what is held. -/
def Holds (party : Party) (left : List ScheduledJob) (shared : Shared) : Prop :=
  ∀ job, shared.held.count (party, job) = left.count job

theorem Holds.release {later : List ScheduledJob} (hholds : Holds party (job :: later) shared) :
    Holds party later (shared.release party job) := by
  intro counted
  have hcount := hholds counted
  rw [Shared.release, List.count_erase, hcount, List.count_cons]
  simp

theorem Holds.release_other {left : List ScheduledJob} (hother : other ≠ party)
    (hholds : Holds other left shared) : Holds other left (shared.release party job) := by
  intro counted
  rw [← hholds counted]
  exact List.count_erase_of_ne fun heq => hother (congrArg Prod.fst heq)

theorem Holds.claim (hholds : Holds party [] shared) :
    Holds party (members.filterMap codec.fromSlice) (shared.claim codec party members) := by
  intro counted
  rw [Shared.claim, List.count_append, hholds counted, List.count_nil, zero_add]
  exact List.count_map_of_injective _ _ (Prod.mk_right_injective party) _

theorem Holds.claim_other {left : List ScheduledJob} (hother : other ≠ party)
    (hholds : Holds other left shared) :
    Holds other left (shared.claim codec party members) := by
  intro counted
  have hnone : (other, counted) ∉ (members.filterMap codec.fromSlice).map (party, ·) := by
    simp [hother.symm]
  rw [Shared.claim, List.count_append, hholds counted, List.count_eq_zero_of_not_mem hnone,
    add_zero]

theorem upholds_conduct (codec : Codec) :
    Upholds (queue codec) (conduct codec) (fun _ left _ => left = []) [] (Balanced codec)
      Holds where
  launch party program hlaunch := by
    cases hlaunch
    exact follows_run party
  serve party left shared request answer _ hbalanced hholds hallowed after hafter := by
    cases request with
    | now =>
        rw [List.mem_singleton.mp hafter]
        exact ⟨hbalanced, trivial, hholds, fun _ _ _ hkept => hkept⟩
    | zadd job runAt =>
        cases party with
        | producer number scheduled time =>
            cases hallowed
            rcases mem_written hafter with ⟨rfl, -⟩ | ⟨rfl, -⟩
            · exact ⟨hbalanced.schedule, trivial, hholds, fun _ _ _ hkept => hkept⟩
            · exact ⟨hbalanced, trivial, hholds, fun _ _ _ hkept => hkept⟩
        | sweeper number =>
            obtain ⟨later, rfl⟩ := hallowed
            rcases mem_written hafter with ⟨rfl, -⟩ | ⟨rfl, -⟩
            · exact ⟨hbalanced.requeue, trivial, hholds.release,
                fun _ hother _ hkept => hkept.release_other hother⟩
            · exact ⟨fun hnone => (by cases hnone), trivial, hholds.release,
                fun _ hother _ hkept => hkept.release_other hother⟩
    | claimDue now max =>
        cases hallowed
        cases answer with
        | ok members =>
            simp only [queue, serve, mem_answered_ok] at hafter
            obtain ⟨rfl, rfl⟩ := hafter
            exact ⟨hbalanced.claim, trivial, hholds.claim,
              fun _ hother _ hkept => hkept.claim_other hother⟩
        | error text =>
            rcases List.mem_pair.mp hafter with rfl | rfl
            · exact ⟨hbalanced, trivial, hholds, fun _ _ _ hkept => hkept⟩
            · exact ⟨fun hnone => (by cases hnone), trivial, hholds, fun _ _ _ hkept => hkept⟩
    | publish job =>
        obtain ⟨later, rfl⟩ := hallowed
        cases answer with
        | ok =>
            obtain rfl := List.mem_singleton.mp hafter
            exact ⟨hbalanced.deliver, trivial, Holds.release hholds,
              fun _ hother _ hkept => Holds.release_other hother hkept⟩
        | error text =>
            rw [List.mem_singleton.mp hafter]
            exact ⟨hbalanced, trivial, hholds, fun _ _ _ hkept => hkept⟩
  occur _ event := nomatch event
  crash party shared after hbalanced hcrash := by
    cases hcrash
    refine ⟨hbalanced.stop, fun counted => ?_, fun other hother left hkept counted => ?_⟩
    · exact List.count_eq_zero_of_not_mem (by simp [Shared.stop])
    · rw [← hkept counted]
      exact List.count_filter (by simpa using hother)

/-- In every run in which nothing of this goes wrong, no scheduled job is lost: no worker
stops while it holds jobs, the answers to claims arrive, jobs can be put back, and no job is
added while its equal is in the set. -/
theorem scheduled_jobs_conserved (codec : Codec) (set : ScoredSet String) (config : Queue)
    (hrun : (queue codec).Reachable (initial set) config)
    (hfaults : config.state.faults = []) :
    Conserved codec config := by
  have hbalanced : Balanced codec (initial set).state := fun _ _ => Nat.zero_le _
  obtain ⟨memories, ⟨hlater, hholds⟩, hrecalls⟩ :=
    (upholds_conduct codec).maintains.reachable (upholds_conduct codec).launch
      ⟨hbalanced, fun _ _ => rfl⟩ hrun
  have hheld : config.state.held.filter (fun entry => entry.1 ∈ running config) =
      config.state.held := by
    refine List.filter_eq_self.mpr fun entry hentry => decide_eq_true ?_
    have hleft : memories entry.1 ≠ [] := by
      intro hnone
      have hcount := hholds entry.1 entry.2
      rw [hnone, List.count_nil] at hcount
      exact List.count_eq_zero.mp hcount hentry
    obtain ⟨request, next, hmem⟩ := hrecalls.running rfl hleft
    exact List.mem_map_of_mem (List.mem_filter.mpr ⟨hmem, rfl⟩)
  intro job
  rw [heldByRunning, hheld]
  exact hlater hfaults job

/-! ## Runs -/

/-- The attempts in unary and the body. -/
def sampleCodec : Codec where
  toVec job := String.ofList (List.replicate job.retryAttempt '+' ++ ':' :: job.body.toList)
  fromSlice text :=
    match text.toList.dropWhile (· == '+') with
    | ':' :: body => some ⟨String.ofList body, (text.toList.takeWhile (· == '+')).length⟩
    | _ => none
  fromSlice_toVec job := by
    have hattempts : ∀ letter ∈ List.replicate job.retryAttempt '+', (letter == '+') = true :=
      fun letter hmem => beq_iff_eq.mpr (List.eq_of_mem_replicate hmem)
    simp [List.takeWhile_append_of_pos hattempts, List.dropWhile_append_of_pos hattempts]

def sampleJob : ScheduledJob := ⟨"status-check tx-1", 0⟩

def sampleProducer : Party := .producer 0 sampleJob 10

/-- One turn of the program at an index, at time `10`; a claim is answered with `claimed` and
the other calls with `done`. -/
def turn (index : ℕ) (claimed : List String) (done : Except String Unit) :
    Action Request Answer Empty Party :=
  .advance index (fun
    | .now => 10
    | .zadd .. => done
    | .claimDue .. => .ok claimed
    | .publish _ => done) 0

/-- A job is scheduled and taken out of the set when it is due. -/
def untilClaimed : List (Action Request Answer Empty Party) :=
  [.start sampleProducer, turn 0 [] (.ok ()), .start (.sweeper 0), turn 1 [] (.ok ()),
    turn 1 [sampleCodec.toVec sampleJob] (.ok ())]

/-- How the sample job is accounted for: how often it was scheduled, and how often it is in
the set, held and published. -/
def account (config : Queue) : ℕ × ℕ × ℕ × ℕ :=
  (config.state.scheduled.count sampleJob,
    config.state.set.members.count (sampleCodec.toVec sampleJob),
    (heldByRunning config).count sampleJob, config.state.published.count sampleJob)

theorem not_conserved_of_account {config : Queue} (haccount : account config = (1, 0, 0, 0)) :
    ¬ Conserved sampleCodec config := by
  intro hconserved
  have hcount := hconserved sampleJob
  simp only [account, Prod.mk.injEq] at haccount
  omega

theorem scheduled_jobs_conserved_published :
    ∃ config, (queue sampleCodec).Reachable (initial .empty) config ∧
      config.state.faults = [] ∧ account config = (1, 0, 0, 1) ∧
      Conserved sampleCodec config := by
  have hexecute : ((queue sampleCodec).execute (initial .empty)
      (untilClaimed ++ [turn 1 [] (.ok ())])).map
        (fun config => (config.state.faults, account config)) = some ([], 1, 0, 0, 1) := by
    decide +kernel
  obtain ⟨config, hrun, hend⟩ := System.reachable_of_execute hexecute
  obtain ⟨hfaults, haccount⟩ := Prod.mk.inj hend
  exact ⟨config, hrun, hfaults, haccount, scheduled_jobs_conserved _ _ config hrun hfaults⟩

theorem lost_of_execute {actions : List (Action Request Answer Empty Party)} {fault : Fault}
    (hexecute : ((queue sampleCodec).execute (initial .empty) actions).map
      (fun config => (config.state.faults, account config)) = some ([fault], 1, 0, 0, 0)) :
    ∃ config, (queue sampleCodec).Reachable (initial .empty) config ∧
      config.state.faults = [fault] ∧ ¬ Conserved sampleCodec config := by
  obtain ⟨config, hreachable, hend⟩ := System.reachable_of_execute hexecute
  obtain ⟨hfaults, haccount⟩ := Prod.mk.inj hend
  exact ⟨config, hreachable, hfaults, not_conserved_of_account haccount⟩

/-- A claimed job is lost when it can neither be published nor put back, and when the worker
that holds it stops. -/
theorem claimed_job_lost :
    (∃ config, (queue sampleCodec).Reachable (initial .empty) config ∧
        config.state.faults = [.requeueFailed] ∧ ¬ Conserved sampleCodec config) ∧
      ∃ config, (queue sampleCodec).Reachable (initial .empty) config ∧
        config.state.faults = [.stopped] ∧ ¬ Conserved sampleCodec config := by
  refine ⟨lost_of_execute (?_ : ((queue _).execute _ (untilClaimed ++
      [turn 1 [] (.error "unavailable"), turn 1 [] (.error "unavailable"),
        turn 1 [] (.error "unavailable")])).map _ = _),
    lost_of_execute (?_ : ((queue _).execute _ (untilClaimed ++ [.crash 1])).map _ = _)⟩
  · decide +kernel
  · decide +kernel

end Relayer.DueSweep
