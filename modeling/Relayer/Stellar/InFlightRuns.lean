import Relayer.Stellar.LaneRuns

/-!
# One transaction in flight

In sequential mode a transaction is prepared and submitted only while it owns the lane.  The
lane belongs to a process; a submission runs only after it was asked for, and the jobs of one
transaction run one after the other.

A transaction is engaged once it has been prepared, its submission has been asked for, or a
preparation has claimed the lane for it.  Until it is finished it then owns the lane.
-/

namespace Relayer.StellarInFlight

open Relayer.Transaction Relayer.Interaction Relayer.Interleaving
open Relayer.StellarLifecycle hiding Request Answer Settled Fresh
open Relayer.StellarLane (Request Answer carry recollect laneConduct follows_program)
open Relayer.StellarLaneRuns hiding serve occur Config
open Relayer.StellarLifecycleRuns (samplePayment)

/-! ## Runs of one process -/

/-- The transactions with the lane, those whose submission was asked for, and the jobs that
are under way. -/
structure Process where
  shared : Shared
  submissions : List String
  active : List Delivery

namespace Process

def follow (process : Process) (delivery : Delivery) (request : Request) (after : Shared) :
    Process :=
  match request with
  | .own .getTransaction =>
      { process with
        shared := after
        active := if delivery ∈ process.active then process.active else delivery :: process.active }
  | .own (.submitJob _) =>
      { process with shared := after, submissions := delivery.id :: process.submissions }
  | .own .acknowledge =>
      { process with shared := after, active := process.active.filter (· ≠ delivery) }
  | _ => { process with shared := after }

/-- A submission is carried out only if it was asked for. -/
def Requested (process : Process) (delivery : Delivery) : Prop :=
  delivery.job = .submit → delivery.id ∈ process.submissions

instance (process : Process) (delivery : Delivery) : Decidable (process.Requested delivery) :=
  inferInstanceAs (Decidable (_ → _))

end Process

def serve (settings : Settings) (process : Process) (delivery : Delivery) (request : Request)
    (answer : Answer request) : List Process :=
  if process.Requested delivery then
    (StellarLaneRuns.serve settings process.shared delivery request answer).map
      (process.follow delivery request)
  else []

def occur (process : Process) (event : Creation) : List Process :=
  (StellarLaneRuns.occur process.shared event).map fun after => { process with shared := after }

abbrev ProcessJobs := System Request Answer Process Creation Delivery Outcome

abbrev Config := Interleaving.Config Request Answer Process Delivery Outcome

def jobs (settings : Settings) : ProcessJobs where
  launch := (StellarLaneRuns.jobs settings).launch
  serve := serve settings
  occur := occur
  crash _ _ := none

/-- The calls to the repository succeed, and a job starts with its load only when no other job
of its transaction is under way. -/
def regular (process : Process) (delivery : Delivery) : (request : Request) → Answer request → Bool
  | .own .getTransaction, answer =>
      answer.isOk &&
        decide (delivery ∈ process.active ∨ ∀ other ∈ process.active, other.id ≠ delivery.id)
  | .own (.partialUpdate _), answer => answer.isOk
  | .own .recordTryAgainLaterRetry, answer => answer.isOk
  | .own .recordInsufficientFeeRetry, answer => answer.isOk
  | .findOldestPendingForRelayer, answer => answer.isOk
  | _, _ => true

def regularJobs (settings : Settings) : ProcessJobs := (jobs settings).restrictAnswers regular

/-- The transaction is prepared or submitted and not finished. -/
def InFlight (shared : Shared) (id : String) : Prop :=
  ∃ record ∈ shared.records id, record.status = .sent ∨ record.status = .submitted

/-- A process starts with a free lane, no job under way and no transaction in flight: all that
are stored wait or are finished. -/
structure Starts (process : Process) : Prop where
  lane : process.shared.lane = none
  submissions : process.submissions = []
  active : process.active = []
  waiting : ∀ id, ∀ record ∈ process.shared.records id,
    record.status = .pending ∨ record.status.isFinalState = true

/-! ## What the runs keep -/

/-- The transaction is not finished, and it was prepared, is to be submitted, or a preparation
has claimed the lane for it. -/
def Engaged (process : Process) (memories : Delivery → Sight) (id : String) : Prop :=
  ∃ record, process.shared.records id = some record ∧ record.status.isFinalState = false ∧
    (record.status ≠ .pending ∨ id ∈ process.submissions ∨
      ∃ delivery, delivery.id = id ∧ (memories delivery).claimed = true)

/-- Nothing was loaded or claimed. -/
structure Blank (seen : Sight) : Prop where
  loaded : seen.loaded = none
  latest : seen.latest = none
  claimed : seen.claimed = false
  saved : seen.unsaved = false

structure Joint (process : Process) (memories : Delivery → Sight) : Prop where
  apart : ∀ first ∈ process.active, ∀ second ∈ process.active, first.id = second.id →
    first = second
  current : ∀ delivery ∈ process.active, (memories delivery).unsaved = false ∧
    ∃ record, (memories delivery).latest = some record ∧
      process.shared.records delivery.id = some record
  blank : ∀ delivery, delivery ∉ process.active → Blank (memories delivery)
  owned : ∀ id, Engaged process memories id → process.shared.lane = some id
  known : ∀ id ∈ process.submissions, (process.shared.records id).isSome = true

theorem joint_start {process : Process} (hstarts : Starts process) :
    Joint process fun _ => {} := by
  refine ⟨?_, ?_, fun _ _ => ⟨rfl, rfl, rfl, rfl⟩, ?_, ?_⟩
  · rw [hstarts.active]
    exact fun _ hmem => (nomatch hmem)
  · rw [hstarts.active]
    exact fun _ hmem => (nomatch hmem)
  · rintro id ⟨record, hrecord, hlive, hpending | hrequested | ⟨_, _, hclaimed⟩⟩
    · rcases hstarts.waiting id record hrecord with hwaiting | hfinal
      · exact absurd hwaiting hpending
      · rw [hlive] at hfinal
        cases hfinal
    · rw [hstarts.submissions] at hrequested
      cases hrequested
    · cases hclaimed
  · rw [hstarts.submissions]
    exact fun _ hmem => (nomatch hmem)

section Steps

variable {settings : Settings} {process : Process} {memories : Delivery → Sight}
  {delivery : Delivery} {later : Sight}

theorem Joint.active_of_loaded (hjoint : Joint process memories)
    (hloaded : (memories delivery).loaded.isSome = true) : delivery ∈ process.active := by
  by_contra hinactive
  rw [(hjoint.blank delivery hinactive).loaded] at hloaded
  cases hloaded

theorem Joint.active_of_latest {told : TransactionRepoModel} (hjoint : Joint process memories)
    (hlatest : (memories delivery).latest = some told) : delivery ∈ process.active := by
  by_contra hinactive
  rw [(hjoint.blank delivery hinactive).latest] at hlatest
  cases hlatest

/-- The record that was told last is the stored one. -/
theorem Joint.record_of_latest {told : TransactionRepoModel} (hjoint : Joint process memories)
    (hlatest : (memories delivery).latest = some told) :
    process.shared.records delivery.id = some told := by
  obtain ⟨-, record, htold, hrecord⟩ := hjoint.current delivery (hjoint.active_of_latest hlatest)
  obtain rfl := Option.some.inj (hlatest.symm.trans htold)
  exact hrecord

/-- A transaction that is over is stored as finished. -/
theorem Joint.finished_of_over (hjoint : Joint process memories)
    (hover : (memories delivery).Over) :
    delivery ∈ process.active ∧ ∃ record, process.shared.records delivery.id = some record ∧
      record.status.isFinalState = true := by
  rcases hover with ⟨told, hlatest, hfinal⟩ | hunsaved
  · exact ⟨hjoint.active_of_latest hlatest, told, hjoint.record_of_latest hlatest, hfinal⟩
  · by_cases hactive : delivery ∈ process.active
    · rw [(hjoint.current delivery hactive).1] at hunsaved
      cases hunsaved
    · rw [(hjoint.blank delivery hactive).saved] at hunsaved
      cases hunsaved

theorem claimed_update {other : Delivery}
    (hclaimed : later.claimed = true → (memories delivery).claimed = true)
    (hother : (Function.update memories delivery later other).claimed = true) :
    (memories other).claimed = true := by
  by_cases hsame : other = delivery
  · subst hsame
    rw [Function.update_self] at hother
    exact hclaimed hother
  · rwa [Function.update_of_ne hsame] at hother

/-- A job that claims nothing anew engages nothing anew. -/
theorem Engaged.before {id : String}
    (hclaimed : later.claimed = true → (memories delivery).claimed = true)
    (hengaged : Engaged process (Function.update memories delivery later) id) :
    Engaged process memories id := by
  obtain ⟨record, hrecord, hlive, hengaged⟩ := hengaged
  refine ⟨record, hrecord, hlive, hengaged.imp_right (Or.imp_right ?_)⟩
  rintro ⟨other, hid, hother⟩
  exact ⟨other, hid, claimed_update hclaimed hother⟩

/-- What the other jobs remember stays. -/
theorem blank_update {active : List Delivery} (hactive : delivery ∈ active)
    (hblank : ∀ other, other ∉ active → Blank (memories other)) (other : Delivery)
    (hother : other ∉ active) : Blank (Function.update memories delivery later other) := by
  have hne : other ≠ delivery := by
    rintro rfl
    exact hother hactive
  rw [Function.update_of_ne hne]
  exact hblank other hother

/-- Only the job's memory changes, and not in what counts here. -/
theorem Joint.keep (hjoint : Joint process memories)
    (hloaded : later.loaded = (memories delivery).loaded)
    (hlatest : later.latest = (memories delivery).latest)
    (hclaimed : later.claimed = (memories delivery).claimed)
    (hsaved : later.unsaved = (memories delivery).unsaved) :
    Joint process (Function.update memories delivery later) := by
  refine ⟨hjoint.apart, fun other hactive => ?_, fun other hinactive => ?_, fun id hengaged => ?_,
    hjoint.known⟩
  · by_cases hsame : other = delivery
    · subst hsame
      rw [Function.update_self, hlatest, hsaved]
      exact hjoint.current other hactive
    · rw [Function.update_of_ne hsame]
      exact hjoint.current other hactive
  · by_cases hsame : other = delivery
    · subst hsame
      have hblank := hjoint.blank other hinactive
      rw [Function.update_self]
      exact ⟨hloaded.trans hblank.loaded, hlatest.trans hblank.latest,
        hclaimed.trans hblank.claimed, hsaved.trans hblank.saved⟩
    · rw [Function.update_of_ne hsame]
      exact hjoint.blank other hinactive
  · exact hjoint.owned id (hengaged.before hclaimed.symm.trans)

/-- A job loads its record: it is the first one of its transaction, or it was under way. -/
theorem Joint.load {record : TransactionRepoModel} {active : List Delivery}
    (hjoint : Joint process memories)
    (hrecord : process.shared.records delivery.id = some record)
    (hseparate : delivery ∈ process.active ∨ ∀ other ∈ process.active, other.id ≠ delivery.id)
    (hactive : ∀ other, other ∈ active ↔ other = delivery ∨ other ∈ process.active)
    (hlatest : later.latest = some record) (hclaimed : later.claimed = (memories delivery).claimed)
    (hsaved : later.unsaved = (memories delivery).unsaved) :
    Joint { process with active := active } (Function.update memories delivery later) := by
  refine ⟨fun first hfirst second hsecond hid => ?_, fun other hother => ?_,
    fun other hother => ?_, fun id hengaged => ?_, hjoint.known⟩
  · have hdistinct : ∀ other ∈ process.active, other.id = delivery.id → other = delivery := by
      intro other hmem hsame
      rcases hseparate with hunder | hnone
      · exact hjoint.apart other hmem delivery hunder hsame
      · exact absurd hsame (hnone other hmem)
    rcases (hactive first).mp hfirst with rfl | hfirst <;>
      rcases (hactive second).mp hsecond with rfl | hsecond
    · rfl
    · exact (hdistinct second hsecond hid.symm).symm
    · exact hdistinct first hfirst hid
    · exact hjoint.apart first hfirst second hsecond hid
  · by_cases hsame : other = delivery
    · subst hsame
      rw [Function.update_self]
      refine ⟨hsaved.trans ?_, record, hlatest, hrecord⟩
      by_cases hunder : other ∈ process.active
      · exact (hjoint.current other hunder).1
      · exact (hjoint.blank other hunder).saved
    · rw [Function.update_of_ne hsame]
      exact hjoint.current other (((hactive other).mp hother).resolve_left hsame)
  · have hnot : ¬ (other = delivery ∨ other ∈ process.active) :=
      fun hmem => hother ((hactive other).mpr hmem)
    rw [not_or] at hnot
    rw [Function.update_of_ne hnot.1]
    exact hjoint.blank other hnot.2
  · exact hjoint.owned id (Engaged.before hclaimed.symm.trans hengaged)

/-- A job stores a record: it is finished, or it was not and was engaged or still waits. -/
theorem Joint.store {record told : TransactionRepoModel} (hjoint : Joint process memories)
    (hactive : delivery ∈ process.active)
    (hrecord : process.shared.records delivery.id = some record)
    (hstill : told.status.isFinalState = false → record.status.isFinalState = false ∧
      (told.status ≠ .pending → record.status ≠ .pending ∨
        delivery.id ∈ process.submissions ∨ (memories delivery).claimed = true))
    (hlatest : later.latest = some told) (hclaimed : later.claimed = (memories delivery).claimed)
    (hsaved : later.unsaved = (memories delivery).unsaved) :
    Joint { process with shared := process.shared.store told delivery.id }
      (Function.update memories delivery later) := by
  have hstored : ∀ id, id ≠ delivery.id →
      (process.shared.store told delivery.id).records id = process.shared.records id :=
    fun id hid => Function.update_of_ne hid ..
  have hself : (process.shared.store told delivery.id).records delivery.id = some told :=
    Function.update_self ..
  refine ⟨hjoint.apart, fun other hother => ?_, blank_update hactive hjoint.blank, ?_,
    fun id hid => ?_⟩
  · by_cases hsame : other = delivery
    · subst hsame
      rw [Function.update_self]
      exact ⟨hsaved.trans (hjoint.current other hactive).1, told, hlatest, hself⟩
    · have hid : other.id ≠ delivery.id := fun hid =>
        hsame (hjoint.apart other hother delivery hactive hid)
      rw [Function.update_of_ne hsame, hstored other.id hid]
      exact hjoint.current other hother
  · rintro id ⟨stored, htold, hlive, hengaged⟩
    have hclaims : (∃ other, other.id = id ∧
        (Function.update memories delivery later other).claimed = true) →
        ∃ other, other.id = id ∧ (memories other).claimed = true :=
      fun ⟨other, hid, hother⟩ => ⟨other, hid, claimed_update hclaimed.symm.trans hother⟩
    by_cases hid : id = delivery.id
    · subst hid
      obtain rfl := Option.some.inj (hself.symm.trans htold)
      obtain ⟨hwas, hengages⟩ := hstill hlive
      refine hjoint.owned delivery.id ⟨record, hrecord, hwas, ?_⟩
      rcases hengaged with hprepared | hrequested | hother
      · exact (hengages hprepared).imp_right (Or.imp_right fun hclaims => ⟨delivery, rfl, hclaims⟩)
      · exact .inr (.inl hrequested)
      · exact .inr (.inr (hclaims hother))
    · exact hjoint.owned id ⟨stored, (hstored id hid).symm.trans htold, hlive,
        hengaged.imp_right (Or.imp_right hclaims)⟩
  · by_cases hsame : id = delivery.id
    · rw [hsame, hself]
      rfl
    · rw [hstored id hsame]
      exact hjoint.known id hid

/-- The lane is claimed where it is free or the job's own. -/
theorem Joint.claim {lane : Option String} (hjoint : Joint process memories)
    (hactive : delivery ∈ process.active)
    (hlane : lane = process.shared.lane ∨ process.shared.lane = none)
    (howns : later.claimed = true → lane = some delivery.id)
    (hlatest : later.latest = (memories delivery).latest)
    (hsaved : later.unsaved = (memories delivery).unsaved) :
    Joint { process with shared := { process.shared with lane := lane } }
      (Function.update memories delivery later) := by
  refine ⟨hjoint.apart, fun other hother => ?_, blank_update hactive hjoint.blank, ?_, hjoint.known⟩
  · by_cases hsame : other = delivery
    · subst hsame
      rw [Function.update_self, hlatest, hsaved]
      exact hjoint.current other hother
    · rw [Function.update_of_ne hsame]
      exact hjoint.current other hother
  · rintro id ⟨stored, hstored, hlive, hengaged⟩
    have hbefore : Engaged process memories id → lane = some id := by
      intro hbefore
      have howned := hjoint.owned id hbefore
      rcases hlane with hkept | hfree
      · exact hkept.trans howned
      · rw [hfree] at howned
        cases howned
    rcases hengaged with hprepared | hrequested | ⟨other, hid, hclaimed⟩
    · exact hbefore ⟨stored, hstored, hlive, .inl hprepared⟩
    · exact hbefore ⟨stored, hstored, hlive, .inr (.inl hrequested)⟩
    · by_cases hsame : other = delivery
      · subst hsame
        rw [Function.update_self] at hclaimed
        exact hid ▸ howns hclaimed
      · rw [Function.update_of_ne hsame] at hclaimed
        exact hbefore ⟨stored, hstored, hlive, .inr (.inr ⟨other, hid, hclaimed⟩)⟩

/-- The submission of an engaged transaction is asked for. -/
theorem Joint.request {record : TransactionRepoModel} (hjoint : Joint process memories)
    (hrecord : process.shared.records delivery.id = some record)
    (hengaged : record.status ≠ .pending ∨ delivery.id ∈ process.submissions) :
    Joint { process with submissions := delivery.id :: process.submissions } memories := by
  refine ⟨hjoint.apart, hjoint.current, hjoint.blank, ?_, ?_⟩
  · rintro id ⟨stored, hstored, hlive, hprepared | hrequested | hclaimed⟩
    · exact hjoint.owned id ⟨stored, hstored, hlive, .inl hprepared⟩
    · rcases List.mem_cons.mp hrequested with rfl | hrequested
      · obtain rfl := Option.some.inj (hrecord.symm.trans hstored)
        exact hjoint.owned delivery.id ⟨record, hrecord, hlive, hengaged.imp_right .inl⟩
      · exact hjoint.owned id ⟨stored, hstored, hlive, .inr (.inl hrequested)⟩
    · exact hjoint.owned id ⟨stored, hstored, hlive, .inr (.inr hclaimed)⟩
  · intro id hmem
    rcases List.mem_cons.mp hmem with rfl | hmem
    · exact Option.isSome_of_eq_some hrecord
    · exact hjoint.known id hmem

/-- The lane of a finished transaction is given away. -/
theorem Joint.yield {lane : Option String} {record : TransactionRepoModel}
    (hjoint : Joint process memories)
    (hrecord : process.shared.records delivery.id = some record)
    (hfinal : record.status.isFinalState = true)
    (hlane : lane = process.shared.lane ∨ process.shared.lane = some delivery.id) :
    Joint { process with shared := { process.shared with lane := lane } } memories := by
  refine ⟨hjoint.apart, hjoint.current, hjoint.blank, ?_, hjoint.known⟩
  rintro id ⟨stored, hstored, hlive, hengaged⟩
  have howned := hjoint.owned id ⟨stored, hstored, hlive, hengaged⟩
  rcases hlane with hkept | hgiven
  · exact hkept.trans howned
  · obtain rfl := Option.some.inj (hgiven.symm.trans howned)
    obtain rfl := Option.some.inj (hrecord.symm.trans hstored)
    rw [hlive] at hfinal
    cases hfinal

theorem Joint.acknowledge (hjoint : Joint process memories) :
    Joint { process with active := process.active.filter (· ≠ delivery) }
      (Function.update memories delivery {}) := by
  have hactive : ∀ other, other ∈ process.active.filter (· ≠ delivery) ↔
      other ∈ process.active ∧ other ≠ delivery := by simp
  refine ⟨fun first hfirst second hsecond => ?_, fun other hother => ?_, fun other hother => ?_,
    fun id hengaged => ?_, hjoint.known⟩
  · exact hjoint.apart first ((hactive first).mp hfirst).1 second ((hactive second).mp hsecond).1
  · obtain ⟨hother, hne⟩ := (hactive other).mp hother
    rw [Function.update_of_ne hne]
    exact hjoint.current other hother
  · by_cases hsame : other = delivery
    · subst hsame
      rw [Function.update_self]
      exact ⟨rfl, rfl, rfl, rfl⟩
    · rw [Function.update_of_ne hsame]
      exact hjoint.blank other fun hmem => hother ((hactive other).mpr ⟨hmem, hsame⟩)
  · have hnone : ({} : Sight).claimed = true → (memories delivery).claimed = true := nofun
    exact hjoint.owned id (Engaged.before hnone hengaged)

end Steps

/-! ## The calls of the jobs -/

section Calls

variable {settings : Settings} {process : Process} {memories : Delivery → Sight}
  {delivery : Delivery} {after : Shared} {signedInput : Bool}

/-- A write that the conduct allows engages no transaction anew. -/
theorem Joint.write {update : TransactionUpdateRequest} {transaction : TransactionRepoModel}
    {answer : Except RepositoryError TransactionRepoModel}
    (hjoint : Joint process memories) (hrequested : process.Requested delivery)
    (hloaded : (memories delivery).loaded = some transaction)
    (hlive : transaction.status.isFinalState = false)
    (hwrites : Writes ⟨false, signedInput⟩ delivery.job (memories delivery) transaction update)
    (hok : answer.isOk = true)
    (hafter : after ∈ changed process.shared delivery.id (applyUpdate settings update) answer) :
    Joint { process with shared := after } (Function.update memories delivery
      ((memories delivery).remember delivery.job (.partialUpdate update) answer)) := by
  cases answer with
  | error error => cases hok
  | ok told =>
      obtain ⟨record, hrecord, htold, rfl⟩ := mem_changed_ok hafter
      refine hjoint.store (hjoint.active_of_loaded (Option.isSome_of_eq_some hloaded)) hrecord
        (fun hopen => ?_) rfl rfl rfl
      have hends : ∀ status, update.status = some status → status.isFinalState = false := by
        intro status hstatus
        have hbelievable := applyUpdate_status settings update record hstatus
        rw [← htold] at hbelievable
        rcases hbelievable with hsame | hfinal
        · rw [← hsame]
          exact hopen
        · rw [hopen] at hfinal
          cases hfinal
      have hsame : (memories delivery).latest = some transaction → transaction = record :=
        fun hlatest => Option.some.inj ((hjoint.record_of_latest hlatest).symm.trans hrecord)
      cases hwrites with
      | sent hjob hlatest hsaved hpending hclaimed hsigned =>
          obtain rfl := hsame hlatest
          exact ⟨hlive, fun _ => .inr (.inr (hclaimed.resolve_left nofun))⟩
      | submitted hjob hlatest =>
          obtain rfl := hsame hlatest
          exact ⟨hlive, fun _ => .inr (.inl (hrequested hjob))⟩
      | reset hjob hlatest =>
          obtain rfl := hsame hlatest
          exact ⟨hlive, fun _ => .inr (.inl (hrequested hjob))⟩
      | confirmed | failed | expired => exact absurd (hends _ rfl) (by decide)

theorem Joint.record {change : TransactionMetadata → TransactionMetadata} {later : Sight}
    {answer : Except RepositoryError TransactionRepoModel} (hjoint : Joint process memories)
    (hloaded : (memories delivery).loaded.isSome = true) (hok : answer.isOk = true)
    (hlatest : ∀ told, answer = .ok told → later.latest = some told)
    (hclaimed : later.claimed = (memories delivery).claimed)
    (hsaved : later.unsaved = (memories delivery).unsaved)
    (hafter : after ∈ changed process.shared delivery.id (applyMetadata change) answer) :
    Joint { process with shared := after } (Function.update memories delivery later) := by
  cases answer with
  | error error => cases hok
  | ok told =>
      obtain ⟨record, hrecord, rfl, rfl⟩ := mem_changed_ok hafter
      have hstatus : (applyMetadata change record).status = record.status := by
        rw [applyMetadata]
        split <;> rfl
      refine hjoint.store (hjoint.active_of_loaded hloaded) hrecord (fun hopen => ?_)
        (hlatest _ rfl) hclaimed hsaved
      rw [hstatus] at hopen ⊢
      exact ⟨hopen, .inl⟩

theorem Joint.serveOwn {request : StellarLifecycle.Request}
    {answer : StellarLifecycle.Answer request} (hjoint : Joint process memories)
    (hrequested : process.Requested delivery)
    (hallowed : (laneConduct signedInput delivery.job).allowed (memories delivery) (.own request))
    (hregular : regular process delivery (.own request) answer = true)
    (hafter : after ∈ serveOwn settings process.shared delivery request answer) :
    Joint (process.follow delivery (.own request) after) (Function.update memories delivery
      ((memories delivery).remember delivery.job request answer)) := by
  obtain ⟨hlane, hfree, hacts⟩ := hallowed
  cases hacts with
  | load =>
      obtain ⟨hok, hseparate⟩ := Bool.and_eq_true_iff.mp hregular
      cases answer with
      | error error => cases hok
      | ok told =>
          obtain ⟨hrecord, rfl⟩ := mem_ite_singleton hafter
          refine hjoint.load hrecord (of_decide_eq_true hseparate) (fun other => ?_) ?_ ?_ ?_
          · split
            · next hmem => exact ⟨.inr, Or.rec (fun hsame => hsame ▸ hmem) id⟩
            · exact List.mem_cons
          all_goals
            simp only [Sight.remember, Sight.note]
            split <;> rfl
  | plain hplain =>
      have hsame : after = process.shared := by
        cases request with
        | getTransaction | partialUpdate | recordTryAgainLaterRetry | claimLane =>
            exact hplain.elim
        | recordInsufficientFeeRetry => exact hplain.elim
        | _ => exact List.mem_singleton.mp hafter
      have hfollow : process.follow delivery (.own request) after = process := by
        cases request with
        | getTransaction | submitJob | acknowledge => exact hplain.elim
        | _ => rw [hsame]; rfl
      rw [hfollow, remember_plain hplain]
      exact hjoint.keep rfl rfl rfl rfl
  | claim hjob hloaded =>
      have hactive := hjoint.active_of_loaded hloaded
      cases hclaim : process.shared.lane with
      | none =>
          simp only [StellarLaneRuns.serveOwn, Shared.claim, hclaim] at hafter
          obtain ⟨hclaimed, rfl⟩ := mem_ite_singleton hafter
          exact hjoint.claim hactive (.inr hclaim) (fun _ => rfl) rfl rfl
      | some owner =>
          simp only [StellarLaneRuns.serveOwn, Shared.claim, hclaim] at hafter
          obtain ⟨hclaimed, rfl⟩ := mem_ite_singleton hafter
          refine hjoint.claim hactive (.inl rfl) (fun howns => ?_) rfl rfl
          have hown : answer = true := howns
          rw [hclaim, of_decide_eq_true (hclaimed.symm.trans hown)]
  | recordTryAgainLater hjob hloaded =>
      refine hjoint.record hloaded hregular ?_ ?_ ?_ hafter
      · rintro told rfl
        rfl
      all_goals cases answer <;> rfl
  | recordInsufficientFee hjob hloaded =>
      refine hjoint.record hloaded hregular ?_ ?_ ?_ hafter
      · rintro told rfl
        rfl
      all_goals cases answer <;> rfl
  | write hloaded hlive hwrites =>
      exact hjoint.write hrequested hloaded hlive hwrites hregular hafter
  | send =>
      obtain rfl := List.mem_singleton.mp hafter
      exact hjoint.keep rfl rfl rfl rfl
  | queue hjob hlatest hprepared =>
      obtain rfl := List.mem_singleton.mp hafter
      have hrecord := hjoint.record_of_latest hlatest
      exact (hjoint.request hrecord (.inl hprepared)).keep rfl rfl rfl rfl
  | retry hjob hlatest =>
      obtain rfl := List.mem_singleton.mp hafter
      have hrecord := hjoint.record_of_latest hlatest
      exact (hjoint.request hrecord (.inr (hrequested hjob))).keep rfl rfl rfl rfl
  | handOver => exact absurd rfl hlane
  | free => exact absurd rfl hfree
  | acknowledge =>
      obtain rfl := List.mem_singleton.mp hafter
      exact hjoint.acknowledge

theorem Joint.serve {request : Request} {answer : Answer request}
    (hjoint : Joint process memories) (hrequested : process.Requested delivery)
    (hallowed : (laneConduct signedInput delivery.job).allowed (memories delivery) request)
    (hregular : regular process delivery request answer = true)
    (hafter : after ∈ StellarLaneRuns.serve settings process.shared delivery request answer) :
    Joint (process.follow delivery request after) (Function.update memories delivery
      (recollect delivery.job (memories delivery) request answer)) := by
  cases request with
  | own request => exact hjoint.serveOwn hrequested hallowed hregular hafter
  | findOldestPendingForRelayer =>
      cases answer with
      | error error => cases hregular
      | ok found =>
          obtain ⟨-, rfl⟩ := mem_ite_singleton hafter
          exact hjoint.keep rfl rfl rfl rfl
  | passTo next =>
      obtain rfl := List.mem_singleton.mp hafter
      obtain ⟨-, record, hrecord, hfinal⟩ := hjoint.finished_of_over hallowed
      have hyields : Joint (process.follow delivery (.passTo next)
          (process.shared.passTo delivery.id next)) memories := by
        simp only [Process.follow, Shared.passTo]
        split
        · next howned => exact hjoint.yield hrecord hfinal (.inr howned)
        · exact hjoint
      exact hyields.keep rfl rfl rfl rfl
  | free =>
      obtain rfl := List.mem_singleton.mp hafter
      obtain ⟨-, record, hrecord, hfinal⟩ := hjoint.finished_of_over hallowed
      have hyields : Joint (process.follow delivery .free (process.shared.free delivery.id))
          memories := by
        simp only [Process.follow, Shared.free]
        split
        · next howned => exact hjoint.yield hrecord hfinal (.inr howned)
        · exact hjoint
      exact hyields.keep rfl rfl rfl rfl
  | sendTransactionRequestJob next =>
      obtain rfl := List.mem_singleton.mp hafter
      cases answer <;> exact hjoint.keep rfl rfl rfl rfl

/-- A created transaction waits, and nothing was asked for it. -/
theorem Joint.create {event : Creation} (hjoint : Joint process memories)
    (hafter : after ∈ StellarLaneRuns.occur process.shared event) :
    Joint { process with shared := after } memories := by
  obtain ⟨⟨hnew, hpending⟩, rfl⟩ := mem_ite_singleton hafter
  have hstored : ∀ id, (process.shared.records id).isSome = true →
      (process.shared.store event.record event.record.id).records id =
        process.shared.records id := by
    intro id hknown
    refine Function.update_of_ne ?_ ..
    rintro rfl
    rw [hnew] at hknown
    cases hknown
  have hcurrent : ∀ delivery ∈ process.active,
      (process.shared.records delivery.id).isSome = true := by
    intro delivery hactive
    obtain ⟨-, record, -, hrecord⟩ := hjoint.current delivery hactive
    exact Option.isSome_of_eq_some hrecord
  refine ⟨hjoint.apart, fun delivery hactive => ?_, hjoint.blank, ?_, fun id hid => ?_⟩
  · obtain ⟨hsaved, record, hlatest, hrecord⟩ := hjoint.current delivery hactive
    exact ⟨hsaved, record, hlatest,
      (hstored delivery.id (hcurrent delivery hactive)).trans hrecord⟩
  · rintro id ⟨record, hrecord, hlive, hengaged⟩
    by_cases hid : (process.shared.records id).isSome = true
    · exact hjoint.owned id ⟨record, (hstored id hid).symm.trans hrecord, hlive, hengaged⟩
    · -- only the created transaction is not stored before
      rcases hengaged with hprepared | hrequested | ⟨delivery, rfl, hclaimed⟩
      · have hsame : id = event.record.id := by
          by_contra hne
          exact hid (Option.isSome_of_eq_some ((Function.update_of_ne hne ..).symm.trans hrecord))
        have hself : (process.shared.store event.record event.record.id).records id =
            some event.record := by
          rw [hsame]
          exact Function.update_self ..
        obtain rfl := Option.some.inj (hself.symm.trans hrecord)
        exact absurd hpending hprepared
      · exact absurd (hjoint.known id hrequested) hid
      · by_cases hactive : delivery ∈ process.active
        · exact absurd (hcurrent delivery hactive) hid
        · rw [(hjoint.blank delivery hactive).claimed] at hclaimed
          cases hclaimed
  · have hknown := hjoint.known id hid
    exact (congrArg Option.isSome (hstored id hknown)).trans hknown

end Calls

theorem regularJobs_maintains (settings : Settings) :
    Maintains (regularJobs settings)
      (fun delivery => laneConduct (settings.signedInput delivery.id) delivery.job) {} Joint where
  serve process memories delivery request answer _ hjoint hallowed after hserve := by
    obtain ⟨hregular, hserve⟩ := System.mem_serve_restrictAnswers.mp hserve
    simp only [jobs, serve] at hserve
    split at hserve
    · next hrequested =>
        obtain ⟨shared, hshared, rfl⟩ := List.mem_map.mp hserve
        refine ⟨?_, hjoint.serve hrequested hallowed hregular hshared⟩
        cases request with
        | own request => exact believable_serveOwn hshared
        | _ => trivial
    · cases hserve
  occur process memories event hjoint after hoccur := by
    obtain ⟨shared, hshared, rfl⟩ := List.mem_map.mp hoccur
    exact hjoint.create hshared
  crash _ _ _ _ _ hcrash := nomatch hcrash

/-- In every run of a process whose jobs of one transaction do not overlap and whose calls to
the repository succeed, at most one transaction is in flight, and it owns the lane. -/
theorem one_transaction_in_flight (settings : Settings) (process : Process)
    (hstarts : Starts process) (config : Config)
    (hrun : (regularJobs settings).Reachable ⟨process, []⟩ config) :
    (∀ id, InFlight config.state.shared id → config.state.shared.lane = some id) ∧
      ∀ first second, InFlight config.state.shared first → InFlight config.state.shared second →
        first = second := by
  have hlaunch : ∀ delivery program, (regularJobs settings).launch delivery = some program →
      program.Follows (laneConduct (settings.signedInput delivery.id) delivery.job)
        (fun later _ => later = {}) {} := by
    rintro delivery _ ⟨⟩
    exact follows_program (settings.signedInput delivery.id)
  obtain ⟨memories, hjoint, -⟩ :=
    (regularJobs_maintains settings).reachable hlaunch (joint_start hstarts) hrun
  have howned : ∀ id, InFlight config.state.shared id → config.state.shared.lane = some id := by
    rintro id ⟨record, hrecord, hstatus⟩
    refine hjoint.owned id ⟨record, hrecord, ?_, .inl ?_⟩ <;>
      rcases hstatus with hstatus | hstatus <;> rw [hstatus] <;> decide
  refine ⟨howned, fun first second hfirst hsecond => ?_⟩
  exact Option.some.inj ((howned first hfirst).symm.trans (howned second hsecond))

def sampleProcess : Process := ⟨sampleShared, [], []⟩

theorem starts_sampleProcess : Starts sampleProcess := by
  refine ⟨rfl, rfl, rfl, fun id record hrecord => .inl ?_⟩
  simp only [sampleProcess, sampleShared] at hrecord
  split at hrecord
  · cases hrecord
    rfl
  · split at hrecord
    · cases hrecord
      rfl
    · cases hrecord

/-- A payment is prepared while another one waits. -/
theorem one_transaction_in_flight_prepared :
    ∃ config : Config, Starts sampleProcess ∧
      (regularJobs sampleSettings).Reachable ⟨sampleProcess, []⟩ config ∧
      InFlight config.state.shared "tx-1" ∧ config.state.shared.lane = some "tx-1" := by
  have hrun : ((regularJobs sampleSettings).execute ⟨sampleProcess, []⟩
      (.start ⟨0, "tx-1", .prepare⟩ ::
        List.replicate 8 (.advance 0 (laneAnswers samplePayment (.ok none)) 0))).map
      (fun config => (config.state.shared.records "tx-1").map (·.status)) =
        some (some .sent) := by
    decide +kernel
  obtain ⟨config, hreachable, hstatus⟩ := System.reachable_of_execute hrun
  obtain ⟨record, hrecord, hsent⟩ := Option.map_eq_some_iff.mp hstatus
  have hflight : InFlight config.state.shared "tx-1" := ⟨record, hrecord, .inl hsent⟩
  exact ⟨config, starts_sampleProcess, hreachable, hflight,
    (one_transaction_in_flight sampleSettings sampleProcess starts_sampleProcess config
      hreachable).1 "tx-1" hflight⟩

end Relayer.StellarInFlight
