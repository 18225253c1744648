import Relayer.Stellar.Lane
import Relayer.Stellar.LifecycleRuns

/-!
# Runs on the lane

Any number of jobs of any number of transactions work on one lane.  Once no job is under
way, the lane should be free or belong to a transaction that is not finished.

A job that finishes its transaction hands the lane on.  Between its calls other jobs may
finish the transaction that was chosen; and where the query for it fails, only a failed
preparation still frees the lane.
-/

namespace Relayer.StellarLaneRuns

open Relayer.Transaction Relayer.Interaction Relayer.Interleaving
open Relayer.StellarLifecycle hiding Request Answer
open Relayer.StellarLane (Request Answer carry recollect laneConduct follows_program)

/-- A delivered job of a transaction. -/
structure Delivery where
  number : ℕ
  id : String
  job : Job
  deriving DecidableEq

/-! ## Runs -/

/-- The transactions of the relayer, their ids from the oldest on, and the owner of the
lane. -/
structure Shared where
  records : String → Option TransactionRepoModel
  created : List String
  lane : Option String

/-- Whether the repository keeps the status of finished transactions, as Redis does, and
which transactions were given as signed envelopes. -/
structure Settings where
  keepsFinal : Bool
  signedInput : String → Bool

namespace Shared

def oldestPending (shared : Shared) : Option TransactionRepoModel :=
  (shared.created.filterMap shared.records).find? (·.status = .pending)

def store (shared : Shared) (record : TransactionRepoModel) (id : String) : Shared :=
  { shared with records := Function.update shared.records id (some record) }

/-- `lane_gate::claim`. -/
def claim (shared : Shared) (id : String) : Bool × Shared :=
  match shared.lane with
  | none => (true, { shared with lane := some id })
  | some owner => (owner = id, shared)

/-- `lane_gate::pass_to`. -/
def passTo (shared : Shared) (current next : String) : Shared :=
  if shared.lane = some current then { shared with lane := some next } else shared

/-- `lane_gate::free`. -/
def free (shared : Shared) (id : String) : Shared :=
  if shared.lane = some id then { shared with lane := none } else shared

/-- The transaction is stored and not finished. -/
def Open (shared : Shared) (id : String) : Prop :=
  ∃ record ∈ shared.records id, record.status.isFinalState = false

instance (shared : Shared) (id : String) : Decidable (shared.Open id) :=
  inferInstanceAs (Decidable (∃ _ ∈ _, _))

end Shared

/-- The record of a transaction is changed; a write that fails has no effect. -/
def changed (shared : Shared) (id : String)
    (edit : TransactionRepoModel → TransactionRepoModel)
    (answer : Except RepositoryError TransactionRepoModel) : List Shared :=
  match shared.records id with
  | some record => answered (shared.store (edit record) id) [shared] (edit record) answer
  | none => if answer.isOk then [] else [shared]

def applyUpdate (settings : Settings) (update : TransactionUpdateRequest)
    (record : TransactionRepoModel) : TransactionRepoModel :=
  if settings.keepsFinal && record.status.isFinalState && update.status.isSome then record
  else record.applyPartialUpdate update

def applyMetadata (change : TransactionMetadata → TransactionMetadata)
    (record : TransactionRepoModel) : TransactionRepoModel :=
  if record.status.isFinalState then record
  else { record with metadata := change record.metadata }

def serveOwn (settings : Settings) (shared : Shared) (delivery : Delivery) :
    (request : StellarLifecycle.Request) → StellarLifecycle.Answer request → List Shared
  | .getTransaction, answer =>
      match answer with
      | .ok told => if shared.records delivery.id = some told then [shared] else []
      | .error _ => [shared]
  | .partialUpdate update, answer =>
      changed shared delivery.id (applyUpdate settings update) answer
  | .recordTryAgainLaterRetry, answer =>
      changed shared delivery.id (applyMetadata fun metadata =>
        { metadata with tryAgainLaterRetries := metadata.tryAgainLaterRetries + 1 }) answer
  | .recordInsufficientFeeRetry, answer =>
      changed shared delivery.id (applyMetadata fun metadata =>
        { metadata with insufficientFeeRetries := metadata.insufficientFeeRetries + 1 }) answer
  | .claimLane, answer =>
      let (claimed, after) := shared.claim delivery.id
      if answer = claimed then [after] else []
  | _, _ => [shared]

def serve (settings : Settings) (shared : Shared) (delivery : Delivery) :
    (request : Request) → Answer request → List Shared
  | .own request, answer => serveOwn settings shared delivery request answer
  | .findOldestPendingForRelayer, answer =>
      readFrom shared shared.oldestPending answer
  | .passTo next, _ => [shared.passTo delivery.id next]
  | .free, _ => [shared.free delivery.id]
  | .sendTransactionRequestJob _, _ => [shared]

/-- A transaction is created. -/
structure Creation where
  record : TransactionRepoModel

def occur (shared : Shared) (event : Creation) : List Shared :=
  if shared.records event.record.id = none ∧ event.record.status = .pending then
    [{ shared.store event.record event.record.id with
        created := shared.created ++ [event.record.id] }]
  else []

abbrev Jobs := System Request Answer Shared Creation Delivery Outcome

/-- Jobs are delivered at any time and any number of times; each runs to its end. -/
def jobs (settings : Settings) : Jobs where
  launch delivery := some
    ((runJob ⟨false, settings.signedInput delivery.id⟩ delivery.job).expand carry)
  serve := serve settings
  occur := occur
  crash _ _ := none

/-- The query for the next transaction fails only for a preparation, the lane goes only to a
transaction that is not finished, and a preparation takes the free lane only for one. -/
def orderly (shared : Shared) (delivery : Delivery) :
    (request : Request) → Answer request → Bool
  | .findOldestPendingForRelayer, answer =>
      match answer with
      | .ok _ => true
      | .error _ => decide (delivery.job = .prepare)
  | .passTo next, _ => decide (shared.lane ≠ some delivery.id ∨ shared.Open next)
  | .own .claimLane, _ => decide (shared.lane ≠ none ∨ shared.Open delivery.id)
  | _, _ => true

def orderlyJobs (settings : Settings) : Jobs := (jobs settings).restrictAnswers orderly

abbrev Config := Interleaving.Config Request Answer Shared Delivery Outcome

/-- No handler is running. -/
def Idle (config : Config) : Prop := ∀ job ∈ config.jobs, ∃ outcome, job.2 = .done outcome

/-- The lane is free or belongs to a stored transaction that is not finished. -/
def LaneOpen (shared : Shared) : Prop := ∀ owner, shared.lane = some owner → shared.Open owner

/-! ## What the runs keep -/

/-- A finished transaction owns the lane only while one of its jobs owes it. -/
def Attended (shared : Shared) (memories : Delivery → Sight) : Prop :=
  ∀ owner, shared.lane = some owner →
    shared.Open owner ∨ ∃ delivery, delivery.id = owner ∧ (memories delivery).owing = true

section Runs

variable {settings : Settings} {shared after : Shared} {memories : Delivery → Sight}
  {delivery : Delivery} {later : Sight}

/-- The lane stays, and a transaction is finished only by a job that then owes the lane. -/
theorem Attended.keep (hattended : Attended shared memories) (hlane : after.lane = shared.lane)
    (hopen : ∀ id, shared.Open id → after.Open id ∨ delivery.id = id ∧ later.owing = true)
    (hlater : (memories delivery).owing = true → later.owing = true) :
    Attended after (Function.update memories delivery later) := by
  intro owner howner
  rcases hattended owner (hlane ▸ howner) with hopened | ⟨other, hid, howes⟩
  · rcases hopen owner hopened with hstill | ⟨hid, hdebt⟩
    · exact .inl hstill
    · exact .inr ⟨delivery, hid, by rw [Function.update_self, hdebt]⟩
  · refine .inr ⟨other, hid, ?_⟩
    by_cases hsame : other = delivery
    · subst hsame
      rw [Function.update_self]
      exact hlater howes
    · rw [Function.update_of_ne hsame]
      exact howes

/-- The job gives up the lane of its transaction. -/
theorem Attended.release (hattended : Attended shared memories)
    (hopen : ∀ id, shared.Open id → after.Open id)
    (hlane : ∀ owner, after.lane = some owner →
      after.Open owner ∨ owner ≠ delivery.id ∧ shared.lane = some owner) :
    Attended after (Function.update memories delivery later) := by
  intro owner howner
  rcases hlane owner howner with hopened | ⟨hne, hkept⟩
  · exact .inl hopened
  · rcases hattended owner hkept with hopened | ⟨other, hid, howes⟩
    · exact .inl (hopen owner hopened)
    · have hother : other ≠ delivery := by
        rintro rfl
        exact hne hid.symm
      refine .inr ⟨other, hid, ?_⟩
      rw [Function.update_of_ne hother]
      exact howes

/-- A write that is answered with a record has stored it. -/
theorem mem_changed_ok {id : String} {edit : TransactionRepoModel → TransactionRepoModel}
    {told : TransactionRepoModel} (hafter : after ∈ changed shared id edit (.ok told)) :
    ∃ record, shared.records id = some record ∧ told = edit record ∧
      after = shared.store told id := by
  unfold changed at hafter
  split at hafter
  · next record hrecord =>
      obtain ⟨rfl, rfl⟩ := mem_answered_ok.mp hafter
      exact ⟨record, hrecord, rfl, rfl⟩
  · cases hafter

theorem mem_changed_error {id : String} {edit : TransactionRepoModel → TransactionRepoModel}
    {error : RepositoryError} (hafter : after ∈ changed shared id edit (.error error)) :
    after = shared := by
  unfold changed at hafter
  split at hafter <;> exact List.mem_singleton.mp hafter

theorem mem_ite_singleton {condition : Prop} [Decidable condition] {kept : Shared}
    (hafter : after ∈ if condition then [kept] else []) : condition ∧ after = kept := by
  split at hafter
  · next hcondition => exact ⟨hcondition, List.mem_singleton.mp hafter⟩
  · cases hafter

/-- An update is there, or the record was finished. -/
theorem applyUpdate_status (settings : Settings) (update : TransactionUpdateRequest)
    (record : TransactionRepoModel) {status : TransactionStatus}
    (hstatus : update.status = some status) :
    (applyUpdate settings update record).status = status ∨
      (applyUpdate settings update record).status.isFinalState = true := by
  rw [applyUpdate]
  split
  · next hkept =>
      simp only [Bool.and_eq_true] at hkept
      exact .inr hkept.1.2
  · refine .inl ?_
    rw [TransactionRepoModel.applyPartialUpdate, hstatus]
    rfl

theorem believable_serveOwn {request : StellarLifecycle.Request}
    {answer : StellarLifecycle.Answer request}
    (hafter : after ∈ serveOwn settings shared delivery request answer) :
    Believable request answer := by
  cases request with
  | partialUpdate update =>
      cases answer with
      | error error => trivial
      | ok told =>
          obtain ⟨record, -, rfl, -⟩ := mem_changed_ok hafter
          exact fun status hstatus => applyUpdate_status settings update record hstatus
  | _ => trivial

theorem open_store {record : TransactionRepoModel} {id other : String}
    (hopen : shared.Open other)
    (hrecord : ∀ current, shared.records id = some current →
      current.status.isFinalState = false → record.status.isFinalState = false) :
    (shared.store record id).Open other := by
  obtain ⟨current, hcurrent, hstatus⟩ := hopen
  by_cases hsame : other = id
  · subst hsame
    refine ⟨record, ?_, hrecord current hcurrent hstatus⟩
    exact Function.update_self ..
  · refine ⟨current, ?_, hstatus⟩
    exact (Function.update_of_ne hsame ..).trans hcurrent

/-- A write that leaves an open transaction open, or is answered by a job that owes. -/
theorem Attended.changed {id : String}
    {edit : TransactionRepoModel → TransactionRepoModel}
    {answer : Except RepositoryError TransactionRepoModel}
    (hattended : Attended shared memories) (hid : delivery.id = id)
    (hchange : ∀ told record, answer = .ok told → record.status.isFinalState = false →
      (edit record).status.isFinalState = false ∨ later.owing = true)
    (hlater : (memories delivery).owing = true → later.owing = true)
    (hafter : after ∈ StellarLaneRuns.changed shared id edit answer) :
    Attended after (Function.update memories delivery later) := by
  cases answer with
  | error error =>
      obtain rfl := mem_changed_error hafter
      exact hattended.keep rfl (fun _ hopen => .inl hopen) hlater
  | ok told =>
      obtain ⟨record, hrecord, rfl, rfl⟩ := mem_changed_ok hafter
      refine hattended.keep rfl (fun other hopen => ?_) hlater
      by_cases hdebt : later.owing = true
      · by_cases hsame : other = id
        · exact .inr ⟨hid.trans hsame.symm, hdebt⟩
        · obtain ⟨current, hcurrent, hstatus⟩ := hopen
          exact .inl ⟨current, (Function.update_of_ne hsame ..).trans hcurrent, hstatus⟩
      · refine .inl (open_store hopen fun current hcurrent hstatus => ?_)
        obtain rfl := Option.some.inj (hrecord.symm.trans hcurrent)
        exact (hchange _ record rfl hstatus).resolve_right hdebt

theorem applyMetadata_open {change : TransactionMetadata → TransactionMetadata}
    {record : TransactionRepoModel} (hopen : record.status.isFinalState = false) :
    (applyMetadata change record).status.isFinalState = false := by
  rw [applyMetadata]
  split
  · exact hopen
  · exact hopen

/-- An update keeps a transaction open unless it finishes it. -/
theorem applyUpdate_open {update : TransactionUpdateRequest} {record : TransactionRepoModel}
    (hopen : record.status.isFinalState = false) :
    (applyUpdate settings update record).status.isFinalState = false ∨
      update.status.any TransactionStatus.isFinalState = true := by
  rw [applyUpdate]
  split
  · exact .inl hopen
  · cases hstatus : update.status with
    | none =>
        refine .inl ?_
        rw [TransactionRepoModel.applyPartialUpdate, hstatus]
        exact hopen
    | some status =>
        by_cases hfinal : status.isFinalState = true
        · exact .inr hfinal
        · refine .inl ?_
          rw [TransactionRepoModel.applyPartialUpdate, hstatus]
          exact Bool.eq_false_iff.mpr hfinal

theorem Attended.claim {claimed : Bool} (hattended : Attended shared memories)
    (hopen : shared.lane ≠ none ∨ shared.Open delivery.id)
    (hlater : (memories delivery).owing = true → later.owing = true)
    (hafter : after ∈ serveOwn settings shared delivery .claimLane claimed) :
    Attended after (Function.update memories delivery later) := by
  cases hlane : shared.lane with
  | none =>
      simp only [serveOwn, Shared.claim, hlane] at hafter
      split at hafter
      · obtain rfl := List.mem_singleton.mp hafter
        rintro _ ⟨⟩
        exact .inl (hopen.resolve_left fun hne => hne hlane)
      · cases hafter
  | some owner =>
      simp only [serveOwn, Shared.claim, hlane] at hafter
      split at hafter
      · obtain rfl := List.mem_singleton.mp hafter
        exact hattended.keep rfl (fun _ hopened => .inl hopened) hlater
      · cases hafter

/-- A call of the lifecycle. -/
theorem Attended.serveOwn {signedInput : Bool} {request : StellarLifecycle.Request}
    {answer : StellarLifecycle.Answer request} (hattended : Attended shared memories)
    (hallowed : (laneConduct signedInput delivery.job).allowed (memories delivery) (.own request))
    (horderly : orderly shared delivery (.own request) answer = true)
    (hafter : after ∈ serveOwn settings shared delivery request answer) :
    Attended after (Function.update memories delivery
      ((memories delivery).remember delivery.job request answer)) := by
  have hsame : ∀ later : Sight, ((memories delivery).owing = true → later.owing = true) →
      Attended shared (Function.update memories delivery later) :=
    fun later hlater => hattended.keep rfl (fun _ hopen => .inl hopen) hlater
  obtain ⟨hlane, hfree, hacts⟩ := hallowed
  cases request with
  | getTransaction =>
      have howing : ((memories delivery).remember delivery.job .getTransaction answer).owing =
          (memories delivery).owing := by
        cases answer with
        | error error => rfl
        | ok told =>
            simp only [Sight.remember, Sight.note]
            split <;> rfl
      have hafter : after = shared := by
        cases answer with
        | error error => exact List.mem_singleton.mp hafter
        | ok told => exact (mem_ite_singleton hafter).2
      rw [hafter]
      exact hsame _ howing.trans
  | partialUpdate update =>
      refine hattended.changed rfl (fun told record hok hopen => ?_) (fun howes => ?_) hafter
      · rcases applyUpdate_open hopen with hstill | hfinal
        · exact .inl hstill
        · subst hok
          exact .inr (Bool.or_eq_true_iff.mpr (.inr hfinal))
      · cases answer with
        | error error => exact howes
        | ok told => exact Bool.or_eq_true_iff.mpr (.inl howes)
  | recordTryAgainLaterRetry | recordInsufficientFeeRetry =>
      refine hattended.changed rfl (fun _ _ _ hopen => .inl (applyMetadata_open hopen))
        (fun howes => ?_) hafter
      cases answer <;> exact howes
  | claimLane => exact hattended.claim (of_decide_eq_true horderly) id hafter
  | acknowledge =>
      obtain rfl := List.mem_singleton.mp hafter
      cases hacts with
      | plain hplain => exact hplain.elim
      | acknowledge hsettled =>
          refine hsame _ fun howes => ?_
          exact absurd ((hsettled.resolve_left (by simp)).symm.trans howes) Bool.false_ne_true
  | enqueueNextPendingTransaction => exact absurd rfl hlane
  | freeLane => exact absurd rfl hfree
  | _ =>
      obtain rfl := List.mem_singleton.mp hafter
      exact hsame _ id

theorem Attended.passTo {next : String} (hattended : Attended shared memories)
    (hopen : shared.lane ≠ some delivery.id ∨ shared.Open next) :
    Attended (shared.passTo delivery.id next) (Function.update memories delivery later) := by
  rw [Shared.passTo]
  split
  · next howned =>
      refine hattended.release (fun _ hopened => hopened) ?_
      rintro _ ⟨⟩
      exact .inl (hopen.resolve_left fun hne => hne howned)
  · next hother =>
      refine hattended.release (fun _ hopened => hopened) fun owner howner => .inr ⟨?_, howner⟩
      rintro rfl
      exact hother howner

theorem Attended.free (hattended : Attended shared memories) :
    Attended (shared.free delivery.id) (Function.update memories delivery later) := by
  rw [Shared.free]
  split
  · exact hattended.release (fun _ hopened => hopened) nofun
  · next hother =>
      refine hattended.release (fun _ hopened => hopened) fun owner howner => .inr ⟨?_, howner⟩
      rintro rfl
      exact hother howner

theorem orderlyJobs_maintains (settings : Settings) :
    Maintains (orderlyJobs settings)
      (fun delivery => laneConduct (settings.signedInput delivery.id) delivery.job) {}
      Attended where
  serve shared memories delivery request answer _ hattended hallowed after hserve := by
    obtain ⟨horderly, hafter⟩ := System.mem_serve_restrictAnswers.mp hserve
    have hkept : ∀ later : Sight, later.owing = (memories delivery).owing →
        Attended shared (Function.update memories delivery later) :=
      fun later howing => hattended.keep rfl (fun _ hopen => .inl hopen) howing.trans
    cases request with
    | own request =>
        exact ⟨believable_serveOwn hafter, hattended.serveOwn hallowed horderly hafter⟩
    | findOldestPendingForRelayer =>
        cases answer with
        | error error =>
            obtain rfl := List.mem_singleton.mp hafter
            have hjob : delivery.job = .prepare := of_decide_eq_true horderly
            refine ⟨trivial, hkept _ ?_⟩
            simp [laneConduct, recollect, hjob]
        | ok found =>
            obtain rfl := (mem_ite_singleton hafter).2
            exact ⟨trivial, hkept _ rfl⟩
    | passTo next =>
        obtain rfl := List.mem_singleton.mp hafter
        exact ⟨trivial, hattended.passTo (of_decide_eq_true horderly)⟩
    | free =>
        obtain rfl := List.mem_singleton.mp hafter
        exact ⟨trivial, hattended.free⟩
    | sendTransactionRequestJob next =>
        obtain rfl := List.mem_singleton.mp hafter
        refine ⟨trivial, hkept _ ?_⟩
        cases answer <;> rfl
  occur shared memories event hattended after hoccur := by
    simp only [orderlyJobs, System.restrictAnswers, jobs, occur] at hoccur
    split at hoccur
    · next hnew =>
        obtain rfl := List.mem_singleton.mp hoccur
        intro owner howner
        rcases hattended owner howner with ⟨current, hcurrent, hstatus⟩ | howes
        · refine .inl ⟨current, ?_, hstatus⟩
          have hne : owner ≠ event.record.id := by
            rintro rfl
            rw [hnew.1] at hcurrent
            cases hcurrent
          exact (Function.update_of_ne hne ..).trans hcurrent
        · exact .inr howes
    · cases hoccur
  crash _ _ _ _ _ hcrash := nomatch hcrash

end Runs

/-- In every run in which the query for the next transaction fails only for preparations,
and the lane is given only to transactions that are not finished, it is free or belongs to
such a transaction whenever no handler is running. -/
theorem orderly_lane_open (settings : Settings) (shared : Shared) (hfirst : LaneOpen shared)
    (config : Config) (hrun : (orderlyJobs settings).Reachable ⟨shared, []⟩ config)
    (hidle : Idle config) : LaneOpen config.state := by
  have hlaunch : ∀ delivery program, (orderlyJobs settings).launch delivery = some program →
      program.Follows (laneConduct (settings.signedInput delivery.id) delivery.job)
        (fun later _ => later = {}) {} := by
    rintro delivery _ ⟨⟩
    exact follows_program (settings.signedInput delivery.id)
  obtain ⟨memories, hattended, hrecalls⟩ := (orderlyJobs_maintains settings).reachable hlaunch
    (fun owner howner => .inl (hfirst owner howner)) hrun
  intro owner howner
  rcases hattended owner howner with hopen | ⟨delivery, _, howes⟩
  · exact hopen
  · rw [hrecalls.idle rfl hidle delivery] at howes
    cases howes

/-! ## A payment that expires -/

section Payments

open Relayer.StellarLifecycleRuns (samplePayment preparedPayment paymentAnswers pendingResponse)

def sampleSettings : Settings := ⟨true, fun _ => false⟩

/-- A second payment that waits for the lane. -/
def waitingPayment : TransactionRepoModel := { samplePayment with id := "tx-2" }

def sampleShared : Shared where
  records id :=
    if id = "tx-1" then some samplePayment
    else if id = "tx-2" then some waitingPayment
    else none
  created := ["tx-1", "tx-2"]
  lane := none

theorem laneOpen_sampleShared : LaneOpen sampleShared := nofun

/-- The payment is found expired; the query for the next one is answered with `found`. -/
def laneAnswers (current : TransactionRepoModel)
    (found : Except RepositoryError (Option TransactionRepoModel)) :
    (request : Request) → Answer request
  | .own (.isTransactionExpired _) => .ok true
  | .own request => paymentAnswers current 5 pendingResponse request
  | .findOldestPendingForRelayer => found
  | .passTo _ => ()
  | .free => ()
  | .sendTransactionRequestJob _ => .ok ()

/-- The payment is prepared and takes the lane; its submission finds it expired. -/
def expiringRun (calls : ℕ) (found : Except RepositoryError (Option TransactionRepoModel)) :
    List (Action Request Answer Creation Delivery) :=
  .start ⟨0, "tx-1", .prepare⟩ ::
    List.replicate 8 (.advance 0 (laneAnswers samplePayment found) 0) ++
  .start ⟨1, "tx-1", .submit⟩ ::
    List.replicate calls (.advance 1 (laneAnswers (preparedPayment samplePayment 5) found) 0)

/-- The lane is passed to the payment that waits. -/
theorem orderly_lane_open_expired :
    ∃ config : Config, (orderlyJobs sampleSettings).Reachable ⟨sampleShared, []⟩ config ∧
      config.state.lane = some "tx-2" ∧ Idle config ∧ LaneOpen config.state := by
  have hrun : ((orderlyJobs sampleSettings).execute ⟨sampleShared, []⟩
      (expiringRun 8 (.ok (some waitingPayment)))).map
      (fun config => (config.state.lane, config.jobs.all (Interleaving.Program.isDone ·.2))) =
        some (some "tx-2", true) := by
    decide +kernel
  obtain ⟨config, hreachable, hstate⟩ := System.reachable_of_execute hrun
  obtain ⟨hlane, hdone⟩ := Prod.mk.inj hstate
  have hidle := Interleaving.Config.idle_of_all hdone
  exact ⟨config, hreachable, hlane, hidle,
    orderly_lane_open sampleSettings sampleShared laneOpen_sampleShared config hreachable hidle⟩

/-- The query for the next payment fails, and the expired one keeps the lane. -/
theorem lane_kept_by_expired :
    ∃ config : Config, LaneOpen sampleShared ∧
      (jobs sampleSettings).Reachable ⟨sampleShared, []⟩ config ∧ Idle config ∧
      ¬ LaneOpen config.state := by
  have hrun : ((jobs sampleSettings).execute ⟨sampleShared, []⟩
      (expiringRun 6 (.error (.connectionError "timeout")))).map
      (fun config => (config.state.lane, decide (config.state.Open "tx-1"),
        config.jobs.all (Interleaving.Program.isDone ·.2))) = some (some "tx-1", false, true) := by
    decide +kernel
  obtain ⟨config, hreachable, hstate⟩ := System.reachable_of_execute hrun
  obtain ⟨hlane, hrest⟩ := Prod.mk.inj hstate
  obtain ⟨hfinal, hdone⟩ := Prod.mk.inj hrest
  refine ⟨config, laneOpen_sampleShared, hreachable,
    Interleaving.Config.idle_of_all hdone, fun hopen => ?_⟩
  exact of_decide_eq_false hfinal (hopen "tx-1" hlane)

end Payments

end Relayer.StellarLaneRuns
