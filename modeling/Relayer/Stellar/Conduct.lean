import Relayer.Core.Protocol
import Relayer.Stellar.Lifecycle

/-!
# How Stellar jobs behave

What a job of a Stellar transaction may ask for depends on what it was told before: a
preparation stores an envelope only for a pending record and with the lane, a submission
sends what the record holds, a transaction is ended only for a reason, and the lane is given
away only once the transaction is over.

Every job keeps to this conduct by itself.  The runs of the jobs then need to look only at
what one call of the conduct does to their state.
-/

namespace Relayer.StellarLifecycle

open Relayer.Transaction Relayer.Interaction

/-- The retries that are counted in the record. -/
inductive Retry where
  | insufficientFee
  | tryAgainLater
  deriving DecidableEq, Repr

def Retry.count : Retry → TransactionMetadata → ℕ
  | .insufficientFee => (·.insufficientFeeRetries)
  | .tryAgainLater => (·.tryAgainLaterRetries)

def Retry.limit : Retry → ℕ
  | .insufficientFee => maxInsufficientFeeRetries
  | .tryAgainLater => maxTryAgainLaterFastRetries

/-- A retry is counted only while the transaction is not finished. -/
def Retry.ticket (retry : Retry) (told : TransactionRepoModel) : Option (Retry × ℕ) :=
  if told.status.isFinalState then none else some (retry, retry.count told.metadata)

/-! ## What a job has been told -/

/-- The record as it was loaded and as it was last told, whether the lane was claimed and is
still owed after the end of the transaction, whether a write failed, whether there is a reason
to fail or expire, and a retry that was counted and not yet queued. -/
structure Sight where
  loaded : Option TransactionRepoModel := none
  latest : Option TransactionRepoModel := none
  claimed : Bool := false
  owing : Bool := false
  unsaved : Bool := false
  alarmed : Bool := false
  expired : Bool := false
  ticket : Option (Retry × ℕ) := none

/-- A record that gives the job a reason to fail by itself; a preparation may always fail. -/
def alarmingLoad : Job → TransactionRepoModel → Bool
  | .prepare, _ => true
  | .submit, transaction => transaction.networkData.getEnvelopeForSubmission.toOption.isNone
  | .status context, transaction =>
      (context.filter StatusCheckContext.shouldForceFinalize).isSome ||
        transaction.networkData.hash.all String.isEmpty

/-- An answer that may end the transaction as failed. -/
def alarms : (request : Request) → Answer request → Bool
  | .sendTransactionWithStatus _, .ok response =>
      decide (response.status ≠ "PENDING" ∧ response.status ≠ "DUPLICATE")
  | .sendTransactionWithStatus _, .error _ => true
  | .exceedsMaxLifetime _, .ok overdue => overdue
  | .exceedsMaxLifetime _, .error _ => true
  | .getNetworkTransaction _, .ok response => decide (response.status.toUpper = "FAILED")
  | .getNetworkTransaction _, .error _ => true
  | .partialUpdate _, .error _ => true
  | .recordTryAgainLaterRetry, .error _ => true
  | .recordInsufficientFeeRetry, .error _ => true
  | .recoveryDue _, .error _ => true
  | .resubmitDue _, .error _ => true
  | .parseHash _, .error _ => true
  | .submitJob _, .error _ => true
  | .enqueueNextPendingTransaction, .error _ => true
  | _, _ => false

def reportsExpiry : (request : Request) → Answer request → Bool
  | .isTransactionExpired _, .ok expired => expired
  | _, _ => false

namespace Sight

/-- The memory after the answers that change more than the reasons to end. -/
def note (job : Job) (seen : Sight) : (request : Request) → Answer request → Sight
  | .getTransaction, .ok told =>
      if seen.loaded.isSome then { seen with latest := some told }
      else
        { seen with loaded := some told, latest := some told, alarmed := alarmingLoad job told }
  | .partialUpdate update, .ok told =>
      { seen with
        latest := some told
        owing := seen.owing || update.status.any TransactionStatus.isFinalState }
  | .partialUpdate _, .error _ => { seen with unsaved := true }
  | .recordTryAgainLaterRetry, .ok told =>
      { seen with latest := some told, ticket := Retry.tryAgainLater.ticket told }
  | .recordTryAgainLaterRetry, .error _ => { seen with ticket := none }
  | .recordInsufficientFeeRetry, .ok told =>
      { seen with latest := some told, ticket := Retry.insufficientFee.ticket told }
  | .recordInsufficientFeeRetry, .error _ => { seen with ticket := none }
  | .claimLane, claimed => { seen with claimed := claimed }
  | .submitJob _, _ => { seen with ticket := none }
  | .enqueueNextPendingTransaction, .ok _ => { seen with owing := false }
  | .enqueueNextPendingTransaction, .error _ =>
      -- where the hand-over fails, only a preparation still frees the lane
      { seen with owing := seen.owing && decide (job = .prepare) }
  | .freeLane, _ => { seen with owing := false }
  | _, _ => seen

def remember (job : Job) (seen : Sight) : (request : Request) → Answer request → Sight
  | .acknowledge, _ => {}
  | request, answer =>
      let noted := seen.note job request answer
      { noted with
        alarmed := noted.alarmed || alarms request answer
        expired := noted.expired || reportsExpiry request answer }

/-- The transaction was told to be finished, or writing it failed. -/
def Over (seen : Sight) : Prop :=
  (∃ told, seen.latest = some told ∧ told.status.isFinalState = true) ∨ seen.unsaved = true

end Sight

/-! ## What a job may do -/

/-- Calls that any job may make at any time and that change nothing. -/
def Plain : Request → Prop
  | .isTransactionExpired _ | .exceedsMaxLifetime _ | .recoveryDue _ | .resubmitDue _ => True
  | .process _ | .signTransaction _ | .parseHash _ | .getNetworkTransaction _ => True
  | .syncSequenceFromChain | .transactionRequestJob | .notificationJob => True
  | _ => False

/-- What a job that has loaded `transaction` writes. -/
inductive Writes (mode : Mode) (job : Job) (seen : Sight) (transaction : TransactionRepoModel) :
    TransactionUpdateRequest → Prop
  | sent {data : StellarTransactionData} (hjob : job = .prepare)
      (hlatest : seen.latest = some transaction) (hsaved : seen.unsaved = false)
      (hpending : transaction.status = .pending)
      (hclaimed : mode.concurrent = true ∨ seen.claimed = true)
      (hsigned : mode.signedInput = true ∨ data.signedEnvelope.isSome = true) :
      Writes mode job seen transaction { status := some .sent, networkData := some data }
  | submitted {hash : String} {hashes : List String} (hjob : job = .submit)
      (hlatest : seen.latest = some transaction) :
      Writes mode job seen transaction
        { status := some .submitted
          networkData := some (transaction.networkData.withHash hash)
          hashes := some hashes }
  | reset (hjob : job = .submit) (hlatest : seen.latest = some transaction)
      (halarmed : seen.alarmed = true) :
      Writes mode job seen transaction transaction.createResetUpdateRequest
  | confirmed {fee : Option ℕ} {result : Option String} (hjob : ∃ context, job = .status context) :
      Writes mode job seen transaction
        { status := some .confirmed
          networkData := some
            { transaction.networkData with fee := fee, transactionResultXdr := result } }
  | failed {reason : String} (halarmed : seen.alarmed = true) :
      Writes mode job seen transaction { status := some .failed, statusReason := some reason }
  | expired {reason : String} (hexpired : seen.expired = true) :
      Writes mode job seen transaction { status := some .expired, statusReason := some reason }

inductive Acts (mode : Mode) (job : Job) (seen : Sight) : Request → Prop
  | load : Acts mode job seen .getTransaction
  | plain {request : Request} (hplain : Plain request) : Acts mode job seen request
  | claim (hjob : job = .prepare) (hloaded : seen.loaded.isSome = true) :
      Acts mode job seen .claimLane
  | recordTryAgainLater (hjob : job = .submit) (hloaded : seen.loaded.isSome = true) :
      Acts mode job seen .recordTryAgainLaterRetry
  | recordInsufficientFee (hjob : job = .submit) (hloaded : seen.loaded.isSome = true) :
      Acts mode job seen .recordInsufficientFeeRetry
  | send {transaction : TransactionRepoModel} {envelope : Envelope} (hjob : job = .submit)
      (hloaded : seen.loaded = some transaction)
      (hlive : transaction.status.isFinalState = false)
      (henvelope : transaction.networkData.getEnvelopeForSubmission = .ok envelope) :
      Acts mode job seen (.sendTransactionWithStatus envelope)
  | write {transaction : TransactionRepoModel} {update : TransactionUpdateRequest}
      (hloaded : seen.loaded = some transaction)
      (hlive : transaction.status.isFinalState = false)
      (hwrites : Writes mode job seen transaction update) :
      Acts mode job seen (.partialUpdate update)
  | queue {told : TransactionRepoModel} (hjob : job ≠ .submit) (hlatest : seen.latest = some told)
      (hprepared : told.status ≠ .pending) : Acts mode job seen (.submitJob none)
  | retry {told : TransactionRepoModel} {retry : Retry} (hjob : job = .submit)
      (hlatest : seen.latest = some told) (hlive : told.status.isFinalState = false)
      (hticket : seen.ticket = some (retry, retry.count told.metadata))
      (hlimit : retry.count told.metadata ≤ retry.limit) :
      Acts mode job seen
        (.submitJob (some (fastResubmitBaseDelaySeconds * retry.count told.metadata)))
  | handOver (hover : seen.Over) : Acts mode job seen .enqueueNextPendingTransaction
  | free (hover : seen.Over) : Acts mode job seen .freeLane
  | acknowledge (hsettled : mode.concurrent = true ∨ seen.owing = false) :
      Acts mode job seen .acknowledge

/-- An update that is told to have been written is there, or the record was finished. -/
def Believable : (request : Request) → Answer request → Prop
  | .partialUpdate update, .ok told =>
      ∀ status, update.status = some status → told.status = status ∨ told.status.isFinalState = true
  | _, _ => True

def conduct (mode : Mode) (job : Job) : Protocol Request Answer Sight where
  allowed := Acts mode job
  possible _ := Believable
  remember := Sight.remember job

/-! ## What stays known -/

/-- The job works on a loaded transaction that it has not ended. -/
structure Working (job : Job) (transaction : TransactionRepoModel) (seen : Sight) : Prop where
  loaded : seen.loaded = some transaction
  live : transaction.status.isFinalState = false
  owing : seen.owing = false
  alarmed : alarmingLoad job transaction = true → seen.alarmed = true

/-- It has written nothing yet. -/
structure Fresh (job : Job) (transaction : TransactionRepoModel) (seen : Sight) : Prop extends
    Working job transaction seen where
  latest : seen.latest = some transaction

/-- It has ended the transaction. -/
structure Closing (job : Job) (transaction : TransactionRepoModel) (seen : Sight) : Prop where
  loaded : seen.loaded = some transaction
  live : transaction.status.isFinalState = false
  alarmed : alarmingLoad job transaction = true → seen.alarmed = true
  ended : seen.Over

/-- Where a step fails, there is a reason to fail the transaction. -/
def Safely {A : Type} (job : Job) (transaction : TransactionRepoModel) (later : Sight)
    (outcome : Except TransactionError A) : Prop :=
  Working job transaction later ∧ ∀ error, outcome = .error error → later.alarmed = true

section Conduct

variable {mode : Mode} {job : Job} {transaction : TransactionRepoModel} {seen : Sight}
  {A : Type} {reason : String} {status : TransactionStatus} {error : TransactionError}
  {update : TransactionUpdateRequest} {context : Option StatusCheckContext}

abbrev Keeps (mode : Mode) (job : Job) (goal : Sight → A → Prop) (seen : Sight)
    (program : Step A) : Prop :=
  program.Follows (conduct mode job) goal seen

theorem remember_plain {request : Request} (hplain : Plain request) (answer : Answer request) :
    seen.remember job request answer =
      { seen with
        alarmed := seen.alarmed || alarms request answer
        expired := seen.expired || reportsExpiry request answer } := by
  cases request with
  | getTransaction | partialUpdate | recordTryAgainLaterRetry | recordInsufficientFeeRetry =>
      exact hplain.elim
  | claimLane | sendTransactionWithStatus | submitJob | enqueueNextPendingTransaction =>
      exact hplain.elim
  | freeLane | acknowledge => exact hplain.elim
  | _ => rfl

theorem Working.plain (hworking : Working job transaction seen) (request : Request)
    (answer : Answer request) (hplain : Plain request) :
    Working job transaction (seen.remember job request answer) := by
  rw [remember_plain hplain]
  refine ⟨hworking.loaded, hworking.live, hworking.owing, fun halarming => ?_⟩
  exact Bool.or_eq_true_iff.mpr (.inl (hworking.alarmed halarming))

theorem Fresh.plain (hfresh : Fresh job transaction seen) (request : Request)
    (answer : Answer request) (hplain : Plain request) :
    Fresh job transaction (seen.remember job request answer) := by
  refine ⟨hfresh.toWorking.plain request answer hplain, ?_⟩
  rw [remember_plain hplain]
  exact hfresh.latest

theorem Working.kept {later : Sight} (hworking : Working job transaction seen)
    (hloaded : later.loaded = seen.loaded) (howing : later.owing = false)
    (halarmed : seen.alarmed = true → later.alarmed = true) : Working job transaction later :=
  ⟨hloaded.trans hworking.loaded, hworking.live, howing,
    fun halarming => halarmed (hworking.alarmed halarming)⟩

/-- A reason to fail is forgotten only with the job. -/
theorem alarmed_kept (request : Request) (answer : Answer request)
    (hload : request ≠ .getTransaction) (hover : request ≠ .acknowledge)
    (halarmed : seen.alarmed = true) : (seen.remember job request answer).alarmed = true := by
  have hnote : (seen.note job request answer).alarmed = seen.alarmed := by
    unfold Sight.note
    split
    · exact absurd rfl hload
    all_goals rfl
  cases request with
  | acknowledge => exact absurd rfl hover
  | _ => exact Bool.or_eq_true_iff.mpr (.inl (hnote.trans halarmed))

theorem keeps_plain {request : Request} {goal : Sight → A → Prop} {next : Answer request → Step A}
    (hplain : Plain request)
    (hnext : ∀ answer, Keeps mode job goal (seen.remember job request answer) (next answer)) :
    Keeps mode job goal seen (.call request next) :=
  ⟨.plain hplain, fun answer _ => hnext answer⟩

/-! ## Ending a transaction -/

theorem keeps_finalizeTransactionState (hworking : Working job transaction seen)
    (hwrites : Writes mode job seen transaction update) (hupdate : update.status = some status)
    (hfinal : status.isFinalState = true) :
    Keeps mode job (fun later outcome =>
      (∀ error, outcome = .error error → Working job transaction later ∧
        later.alarmed = true ∧ later.unsaved = true) ∧
      ∀ told, outcome = .ok told → Closing job transaction later) seen
      (finalizeTransactionState update) := by
  refine ⟨.write hworking.loaded hworking.live hwrites, fun answer hanswer => ?_⟩
  cases answer with
  | error error =>
      have hlater : (seen.remember job (.partialUpdate update) (.error error)).alarmed = true :=
        Bool.or_true _
      exact ⟨fun _ _ => ⟨hworking.kept rfl hworking.owing fun _ => hlater, hlater, rfl⟩,
        fun _ htold => (nomatch htold)⟩
  | ok told =>
      have htold : told.status.isFinalState = true := by
        rcases hanswer status hupdate with hsame | hkept
        · rw [hsame]
          exact hfinal
        · exact hkept
      refine keeps_plain trivial fun notified => ⟨fun _ herror => (nomatch herror), fun _ _ => ?_⟩
      refine ⟨hworking.loaded, hworking.live, fun halarming => ?_, .inl ⟨told, rfl, htold⟩⟩
      exact alarmed_kept .notificationJob notified nofun nofun
        (alarmed_kept (.partialUpdate update) (.ok told) nofun nofun (hworking.alarmed halarming))

/-- Outside of preparations the hand-over settles what is owed. -/
theorem Closing.handedOver (hclosing : Closing job transaction seen) (hjob : job ≠ .prepare)
    (answer : Answer .enqueueNextPendingTransaction) :
    Safely job transaction (seen.remember job .enqueueNextPendingTransaction answer) answer := by
  cases answer with
  | error error =>
      refine ⟨⟨hclosing.loaded, hclosing.live, ?_, fun _ => Bool.or_true _⟩,
        fun _ _ => Bool.or_true _⟩
      simp [Sight.remember, Sight.note, hjob]
  | ok _ =>
      refine ⟨⟨hclosing.loaded, hclosing.live, rfl, fun halarming => ?_⟩,
        fun _ herror => (nomatch herror)⟩
      simp [Sight.remember, Sight.note, hclosing.alarmed halarming]

/-- The transaction is ended and the lane handed over. -/
theorem keeps_markAs (hjob : job ≠ .prepare) (hworking : Working job transaction seen)
    (hfinal : status.isFinalState = true)
    (hwrites : Writes mode job seen transaction
      { status := some status, statusReason := some reason }) :
    Keeps mode job (Safely job transaction) seen (markAs status reason) := by
  apply (keeps_finalizeTransactionState hworking hwrites rfl hfinal).bind
  intro later outcome hend
  cases outcome with
  | error error =>
      obtain ⟨hlater, halarmed, _⟩ := hend.1 error rfl
      exact ⟨hlater, fun _ _ => halarmed⟩
  | ok told =>
      have hclosing := hend.2 told rfl
      exact ⟨.handOver hclosing.ended, fun answer _ =>
        ⟨(hclosing.handedOver hjob answer).1, fun _ herror => (nomatch herror)⟩⟩

theorem keeps_markAsFailed (hjob : job ≠ .prepare) (hworking : Working job transaction seen)
    (halarmed : seen.alarmed = true) :
    Keeps mode job (Safely job transaction) seen (markAsFailed reason) :=
  keeps_markAs hjob hworking rfl (.failed halarmed)

theorem keeps_markAsExpired (hjob : job ≠ .prepare) (hworking : Working job transaction seen)
    (hexpired : seen.expired = true) :
    Keeps mode job (Safely job transaction) seen (markAsExpired reason) :=
  keeps_markAs hjob hworking rfl (.expired hexpired)

theorem keeps_failSubmission (hjob : job ≠ .prepare) (hworking : Working job transaction seen)
    (halarmed : seen.alarmed = true) :
    Keeps mode job (fun later _ => Working job transaction later) seen
      (failSubmission error reason) := by
  apply (keeps_finalizeTransactionState hworking (.failed halarmed) rfl rfl).bind
  intro later outcome hend
  cases outcome with
  | error error => exact (hend.1 error rfl).1
  | ok told =>
      have hclosing := hend.2 told rfl
      exact ⟨.handOver hclosing.ended, fun answer _ => (hclosing.handedOver hjob answer).1⟩

theorem keeps_finalizeOnChain (hjob : job ≠ .prepare) (hworking : Working job transaction seen)
    (hwrites : Writes mode job seen transaction update) (hupdate : update.status = some status)
    (hfinal : status.isFinalState = true) :
    Keeps mode job (Safely job transaction) seen (finalizeOnChain update) := by
  apply (keeps_finalizeTransactionState hworking hwrites hupdate hfinal).bind
  intro later outcome hend
  cases outcome with
  | error error =>
      obtain ⟨hlater, halarmed, _⟩ := hend.1 error rfl
      exact ⟨hlater, fun _ _ => halarmed⟩
  | ok told =>
      have hclosing := hend.2 told rfl
      refine ⟨.handOver hclosing.ended, fun answer _ => ?_⟩
      have hhanded := hclosing.handedOver hjob answer
      cases answer with
      | error error => exact ⟨hhanded.1, fun _ _ => hhanded.2 error rfl⟩
      | ok _ => exact ⟨hhanded.1, fun _ herror => (nomatch herror)⟩

/-! ## Preparations -/

/-- The lane is owed at the end only where there is none. -/
def Settled (mode : Mode) (later : Sight) (_ : A) : Prop :=
  mode.concurrent = true ∨ later.owing = false

theorem keeps_handlePrepareFailure (hworking : Working .prepare transaction seen) :
    Keeps mode .prepare (Settled mode) seen (handlePrepareFailure mode.concurrent error) := by
  refine keeps_plain trivial fun synced => ?_
  have hlater := hworking.plain .syncSequenceFromChain synced trivial
  apply (keeps_finalizeTransactionState hlater (.failed (hlater.alarmed rfl)) rfl rfl).bind
  intro later outcome hend
  have hover : later.Over := by
    cases outcome with
    | error error => exact .inr (hend.1 error rfl).2.2
    | ok told => exact (hend.2 told rfl).ended
  split
  · next hconcurrent => exact .inl hconcurrent
  · refine ⟨.handOver hover, fun answer _ => ?_⟩
    cases answer with
    | error error => exact ⟨.free hover, fun _ _ => .inr rfl⟩
    | ok _ => exact .inr rfl

theorem keeps_updateAndNotifyTransaction {data : StellarTransactionData}
    (hfresh : Fresh .prepare transaction seen) (hsaved : seen.unsaved = false)
    (hpending : transaction.status = .pending)
    (hclaimed : mode.concurrent = true ∨ seen.claimed = true)
    (hsigned : mode.signedInput = true ∨ data.signedEnvelope.isSome = true) :
    Keeps mode .prepare (fun later _ => Working .prepare transaction later) seen
      (updateAndNotifyTransaction data) := by
  have hworking := hfresh.toWorking
  have howing : (seen.owing || false) = false := (Bool.or_false _).trans hfresh.owing
  refine ⟨.write hfresh.loaded hfresh.live (.sent rfl hfresh.latest hsaved hpending
    hclaimed hsigned), fun answer hanswer => ?_⟩
  cases answer with
  | error error => exact hworking.kept rfl hfresh.owing fun _ => Bool.or_true _
  | ok told =>
      have hprepared : told.status ≠ .pending := by
        rcases hanswer .sent rfl with hsent | hfinal
        · simp [hsent]
        · rintro hstatus
          rw [hstatus] at hfinal
          cases hfinal
      refine ⟨.queue (by decide) rfl hprepared, fun queued _ => ?_⟩
      cases queued with
      | error error => exact hworking.kept rfl howing fun _ => Bool.or_true _
      | ok _ =>
          refine keeps_plain trivial fun notified => hworking.kept rfl howing fun halarmed => ?_
          exact alarmed_kept .notificationJob notified nofun nofun
            (alarmed_kept (.submitJob none) _ nofun nofun
              (alarmed_kept (.partialUpdate _) _ nofun nofun halarmed))

theorem keeps_prepareCore (hfresh : Fresh .prepare transaction seen)
    (hsaved : seen.unsaved = false) (hpending : transaction.status = .pending)
    (hclaimed : mode.concurrent = true ∨ seen.claimed = true) :
    Keeps mode .prepare (fun later _ => Working .prepare transaction later) seen
      (prepareCore mode transaction) := by
  refine keeps_plain trivial fun processed => ?_
  have hlater := hfresh.plain (.process transaction.networkData) processed trivial
  cases processed with
  | error error => exact hlater.toWorking
  | ok data =>
      dsimp only [Program.bind]
      split
      · next hsigned =>
          exact keeps_updateAndNotifyTransaction hlater hsaved hpending hclaimed (.inl hsigned)
      refine keeps_plain trivial fun signature => ?_
      have hlast := hlater.plain (.signTransaction data) signature trivial
      match signature with
      | .error error => exact hlast.toWorking
      | .ok none => exact hlast.toWorking
      | .ok (some signature) =>
          dsimp only [Program.bind]
          split
          · exact hlast.toWorking
          · exact keeps_updateAndNotifyTransaction hlast hsaved hpending hclaimed (.inr rfl)

theorem keeps_prepareTransaction
    (hfresh : transaction.status = .pending → Fresh .prepare transaction seen)
    (howing : seen.owing = false) (hsaved : seen.unsaved = false) :
    Keeps mode .prepare (Settled mode) seen (prepareTransaction mode transaction) := by
  rw [prepareTransaction]
  split
  · exact .inr howing
  split
  · exact .inr howing
  next hpending =>
    have hpending := not_not.mp hpending
    have hfresh := hfresh hpending
    have hprepare : ∀ later, Fresh .prepare transaction later → later.unsaved = false →
        (mode.concurrent = true ∨ later.claimed = true) → ∀ next : Outcome → Step Outcome,
        (∀ prepared, next (.ok prepared) = pure (.ok prepared)) →
        (∀ error, next (.error error) = handlePrepareFailure mode.concurrent error) →
        Keeps mode .prepare (Settled mode) later (prepareCore mode transaction >>= next) := by
      intro later hlater hsaved hclaimed next hok herror
      apply (keeps_prepareCore hlater hsaved hpending hclaimed).bind
      intro last outcome hlast
      cases outcome with
      | ok prepared =>
          rw [hok]
          exact .inr hlast.owing
      | error error =>
          rw [herror]
          exact keeps_handlePrepareFailure hlast
    cases hconcurrent : mode.concurrent with
    | true =>
        exact hprepare seen hfresh hsaved (.inl hconcurrent) _ (fun _ => rfl)
          fun _ => by rw [hconcurrent]
    | false =>
        refine ⟨.claim rfl (Option.isSome_of_eq_some hfresh.loaded), fun claimed _ => ?_⟩
        have hlater : Fresh .prepare transaction (seen.remember .prepare .claimLane claimed) :=
          ⟨⟨hfresh.loaded, hfresh.live, hfresh.owing, fun halarming => by
            simp [Sight.remember, Sight.note, hfresh.alarmed halarming]⟩, hfresh.latest⟩
        cases claimed with
        | false => exact .inr hlater.owing
        | true =>
            exact hprepare _ hlater hsaved (.inr rfl) _ (fun _ => rfl)
              fun _ => by rw [hconcurrent]

/-! ## Submissions -/

/-- A submission that fails has a reason and has written nothing. -/
def Submits (transaction : TransactionRepoModel) (later : Sight) (outcome : Outcome) : Prop :=
  Working .submit transaction later ∧ ∀ error, outcome = .error error →
    Fresh .submit transaction later ∧ later.alarmed = true

theorem Submits.of_ok {told : TransactionRepoModel} (hworking : Working .submit transaction seen) :
    Submits transaction seen (.ok told) :=
  ⟨hworking, fun _ herror => (nomatch herror)⟩

theorem Submits.of_error (hfresh : Fresh .submit transaction seen)
    (halarmed : seen.alarmed = true) : Submits transaction seen (.error error) :=
  ⟨hfresh.toWorking, fun _ _ => ⟨hfresh, halarmed⟩⟩

/-- A failed write is a reason to fail. -/
theorem Fresh.unsaved (hfresh : Fresh .submit transaction seen) (error : RepositoryError)
    {failure : TransactionError} :
    Submits transaction (seen.remember .submit (.partialUpdate update) (.error error))
      (.error failure) :=
  .of_error ⟨hfresh.kept rfl hfresh.owing fun _ => Bool.or_true _, hfresh.latest⟩ (Bool.or_true _)

/-- A counted retry is queued within its limit, unless the transaction is finished. -/
theorem keeps_requeue (retry : Retry) {told : TransactionRepoModel}
    (hworking : Working .submit transaction seen) (hlatest : seen.latest = some told)
    (hticket : seen.ticket = retry.ticket told) :
    Keeps mode .submit (Submits transaction) seen (do
      if told.status.isFinalState then return .ok told
      if retry.count told.metadata ≤ retry.limit then
        let _ ← submitJob (some (fastResubmitBaseDelaySeconds * retry.count told.metadata))
        return .ok told
      else return .ok told : Step Outcome) := by
  split
  · exact .of_ok hworking
  next hlive =>
  split
  · next hlimit =>
      rw [Retry.ticket, if_neg hlive] at hticket
      refine ⟨.retry rfl hlatest (Bool.eq_false_iff.mpr hlive) hticket hlimit, fun queued _ => ?_⟩
      exact .of_ok (hworking.kept rfl hworking.owing
        (alarmed_kept (.submitJob _) queued nofun nofun))
  · exact .of_ok hworking

def Retry.record : Retry → Step (Except RepositoryError TransactionRepoModel)
  | .insufficientFee => recordInsufficientFeeRetry
  | .tryAgainLater => recordTryAgainLaterRetry

theorem keeps_retryLater (retry : Retry) (hfresh : Fresh .submit transaction seen) :
    Keeps mode .submit (Submits transaction) seen
      (retryLater retry.record retry.count retry.limit) := by
  have hfailed : ∀ later : Sight, later = { seen with alarmed := true, ticket := none } →
      ∀ error, Submits transaction later (.error error) := by
    rintro _ rfl error
    exact .of_error ⟨hfresh.kept rfl hfresh.owing fun _ => rfl, hfresh.latest⟩ rfl
  have hloaded := Option.isSome_of_eq_some hfresh.loaded
  cases retry with
  | insufficientFee =>
      refine ⟨.recordInsufficientFee rfl hloaded, fun answer _ => ?_⟩
      cases answer with
      | error error =>
          refine hfailed _ ?_ _
          simp [conduct, Sight.remember, Sight.note, alarms, reportsExpiry]
      | ok told =>
          refine keeps_requeue .insufficientFee (hfresh.kept rfl hfresh.owing ?_) rfl rfl
          exact alarmed_kept .recordInsufficientFeeRetry (.ok told) nofun nofun
  | tryAgainLater =>
      refine ⟨.recordTryAgainLater rfl hloaded, fun answer _ => ?_⟩
      cases answer with
      | error error =>
          refine hfailed _ ?_ _
          simp [conduct, Sight.remember, Sight.note, alarms, reportsExpiry]
      | ok told =>
          refine keeps_requeue .tryAgainLater (hfresh.kept rfl hfresh.owing ?_) rfl rfl
          exact alarmed_kept .recordTryAgainLaterRetry (.ok told) nofun nofun

theorem keeps_recordSubmission {response : SendTransactionResponse}
    (hfresh : Fresh .submit transaction seen) :
    Keeps mode .submit (Submits transaction) seen (recordSubmission transaction response) := by
  dsimp only [recordSubmission]
  generalize (if transaction.hashes.contains response.hash then _ else _) = hashes
  refine ⟨.write hfresh.loaded hfresh.live (.submitted rfl hfresh.latest), fun answer _ => ?_⟩
  cases answer with
  | error error => exact hfresh.unsaved error
  | ok told =>
      have hlater : Working .submit transaction (seen.remember .submit
          (.partialUpdate
            { status := some .submitted
              networkData := some (transaction.networkData.withHash response.hash)
              hashes := some hashes }) (.ok told)) :=
        hfresh.kept rfl ((Bool.or_false _).trans hfresh.owing)
          (alarmed_kept (.partialUpdate _) (.ok told) nofun nofun)
      dsimp only [Program.bind]
      split
      · exact keeps_plain trivial fun notified =>
          .of_ok (hlater.plain .notificationJob notified trivial)
      · exact .of_ok hlater

theorem keeps_handleErrorResponse {response : SendTransactionResponse}
    (hfresh : Fresh .submit transaction seen) (halarmed : seen.alarmed = true) :
    Keeps mode .submit (Submits transaction) seen (handleErrorResponse transaction response) := by
  dsimp only [handleErrorResponse]
  split
  · split
    · exact .of_error hfresh halarmed
    · exact keeps_retryLater .insufficientFee hfresh
  · exact .of_error hfresh halarmed

theorem keeps_submitCore (hfresh : Fresh .submit transaction seen) :
    Keeps mode .submit (Submits transaction) seen (submitCore transaction) := by
  unfold submitCore submitCoreWith
  split
  · next error henvelope =>
      exact .of_error hfresh (hfresh.alarmed (by rw [alarmingLoad, henvelope]; rfl))
  · next envelope henvelope =>
      refine ⟨.send rfl hfresh.loaded hfresh.live henvelope, fun answer _ => ?_⟩
      have hlater : Fresh .submit transaction
          (seen.remember .submit (.sendTransactionWithStatus envelope) answer) :=
        ⟨hfresh.kept rfl hfresh.owing
          (alarmed_kept (.sendTransactionWithStatus envelope) answer nofun nofun), hfresh.latest⟩
      cases answer with
      | error error => exact .of_error hlater (Bool.or_true _)
      | ok response =>
          dsimp only [Program.bind]
          split
          · exact keeps_recordSubmission hlater
          · next hrejected =>
              have halarmed : (seen.remember .submit (.sendTransactionWithStatus envelope)
                  (.ok response)).alarmed = true :=
                Bool.or_eq_true_iff.mpr (.inr (decide_eq_true (not_or.mp hrejected)))
              split
              · exact keeps_retryLater .tryAgainLater hlater
              · split
                · exact keeps_handleErrorResponse hlater halarmed
                · exact .of_error hlater halarmed

/-- The reload after a conflicting write. -/
theorem keeps_reload {failed : RepositoryError → Outcome}
    (hworking : Working job transaction seen) :
    Keeps mode job (fun later _ => later.owing = false) seen (do
      match ← getTransaction with
      | .error error => return failed error
      | .ok latest => return .ok latest) := by
  refine ⟨.load, fun answer _ => ?_⟩
  cases answer with
  | error error => exact hworking.owing
  | ok latest =>
      change (if seen.loaded.isSome then _ else _ : Sight).owing = false
      rw [if_pos (by simp [hworking.loaded])]
      exact hworking.owing

theorem keeps_handleSubmitFailure (hfresh : Fresh .submit transaction seen)
    (halarmed : seen.alarmed = true) :
    Keeps mode .submit (fun later _ => later.owing = false) seen
      (handleSubmitFailure transaction error) := by
  have hfail : ∀ {later}, Working .submit transaction later → later.alarmed = true →
      ∀ reason, Keeps mode .submit (fun last _ => last.owing = false) later
        (failSubmission error reason) := fun hlater hreason _ =>
    (keeps_failSubmission (by decide) hlater hreason).imp fun _ _ hlast => hlast.owing
  dsimp only [handleSubmitFailure]
  split
  · exact keeps_reload hfresh.toWorking
  · split
    · refine ⟨.write hfresh.loaded hfresh.live (.reset rfl hfresh.latest halarmed),
        fun answer _ => ?_⟩
      cases answer with
      | error failure =>
          have hunsaved : Submits transaction (seen.remember .submit
              (.partialUpdate transaction.createResetUpdateRequest) (.error failure))
              (.error error) := hfresh.unsaved failure
          refine keeps_plain trivial fun synced => ?_
          exact hfail (hunsaved.1.plain .syncSequenceFromChain synced trivial)
            (alarmed_kept .syncSequenceFromChain synced nofun nofun (Bool.or_true _)) _
      | ok told => exact keeps_plain trivial fun _ => (Bool.or_false _).trans hfresh.owing
    · exact hfail hfresh.toWorking halarmed _

theorem keeps_submitTransaction (hfresh : transaction.status.isFinalState = false →
      Fresh .submit transaction seen) (howing : seen.owing = false) :
    Keeps mode .submit (fun later _ => later.owing = false) seen
      (submitTransaction transaction) := by
  rw [submitTransaction, submitTransactionWith]
  split
  · exact howing
  next hlive =>
    refine keeps_plain trivial fun expired => ?_
    have hlater := (hfresh (Bool.eq_false_iff.mpr hlive)).plain
      (.isTransactionExpired transaction) expired trivial
    match expired with
    | .error error => exact hlater.owing
    | .ok true =>
        exact (keeps_markAsExpired (by decide) hlater.toWorking (Bool.or_true _)).imp
          fun _ _ hlast => hlast.1.owing
    | .ok false =>
        apply (keeps_submitCore hlater).bind
        intro last outcome hlast
        cases outcome with
        | ok submitted => exact hlast.1.owing
        | error error =>
            obtain ⟨hfresh, halarmed⟩ := hlast.2 error rfl
            exact keeps_handleSubmitFailure hfresh halarmed

/-! ## Status checks -/

theorem Safely.of_ok {value : A} (hworking : Working job transaction seen) :
    Safely job transaction seen (.ok value) :=
  ⟨hworking, fun _ herror => (nomatch herror)⟩

/-- The check has ended the transaction, or the job goes on. -/
def Checked (job : Job) (transaction : TransactionRepoModel) (later : Sight) :
    Option Outcome → Prop
  | some outcome => Safely job transaction later outcome
  | none => Fresh job transaction later

theorem keeps_checkExpirationAndMaxLifetime (hjob : job ≠ .prepare)
    (hfresh : Fresh job transaction seen) :
    Keeps mode job (Checked job transaction) seen
      (checkExpirationAndMaxLifetime transaction reason) := by
  refine keeps_plain trivial fun overdue => ?_
  have hlater := hfresh.plain (.exceedsMaxLifetime transaction) overdue trivial
  cases overdue with
  | error error => exact ⟨hlater.toWorking, fun _ _ => Bool.or_true _⟩
  | ok overdue =>
      refine keeps_plain trivial fun expired => ?_
      have hlast := hlater.plain (.isTransactionExpired transaction) expired trivial
      have hrest : Keeps mode job (Checked job transaction)
          ((seen.remember job (.exceedsMaxLifetime transaction) (.ok overdue)).remember job
            (.isTransactionExpired transaction) expired) (do
          if overdue then
            let failed ← markAsFailed reason
            return some failed
          else return none) := by
        split
        · next hoverdue =>
            refine Program.Follows.bind (keeps_markAsFailed hjob hlast.toWorking ?_)
              fun _ _ hend => hend
            exact alarmed_kept (.isTransactionExpired transaction) expired nofun nofun
              (Bool.or_eq_true_iff.mpr (.inr hoverdue))
        · exact hlast
      match expired with
      | .ok true =>
          exact (keeps_markAsExpired hjob hlast.toWorking (Bool.or_true _)).bind
            fun _ _ hend => hend
      | .ok false => exact hrest
      | .error _ => exact hrest

theorem keeps_resubmitIfDue (hjob : job ≠ .submit) (hfresh : Fresh job transaction seen)
    (hprepared : transaction.status ≠ .pending) :
    Keeps mode job (Safely job transaction) seen (resubmitIfDue transaction) := by
  refine keeps_plain trivial fun due => ?_
  have hlater := hfresh.plain (.resubmitDue transaction) due trivial
  match due with
  | .error error => exact ⟨hlater.toWorking, fun _ _ => Bool.or_true _⟩
  | .ok false => exact .of_ok hlater.toWorking
  | .ok true =>
      refine ⟨.queue hjob hlater.latest hprepared, fun queued _ => ?_⟩
      have hlast : Working job transaction
          ((seen.remember job (.resubmitDue transaction) (.ok true)).remember job
            (.submitJob none) queued) :=
        hlater.kept rfl hlater.owing (alarmed_kept (.submitJob none) queued nofun nofun)
      cases queued with
      | error error => exact ⟨hlast, fun _ _ => Bool.or_true _⟩
      | ok _ => exact .of_ok hlast

theorem keeps_handlePendingState (hjob : job ≠ .prepare) (hfresh : Fresh job transaction seen) :
    Keeps mode job (Safely job transaction) seen (handlePendingState transaction) := by
  apply (keeps_checkExpirationAndMaxLifetime hjob hfresh).bind
  intro later ended hend
  cases ended with
  | some outcome => exact hend
  | none =>
      refine keeps_plain trivial fun due => ?_
      have hlater := (Fresh.toWorking hend).plain (.recoveryDue transaction) due trivial
      match due with
      | .error error => exact ⟨hlater, fun _ _ => Bool.or_true _⟩
      | .ok false => exact .of_ok hlater
      | .ok true =>
          exact keeps_plain trivial fun queued =>
            .of_ok (hlater.plain .transactionRequestJob queued trivial)

theorem keeps_checked (hjob : job ≠ .prepare) (hcheck : job ≠ .submit)
    (hfresh : Fresh job transaction seen) (hprepared : transaction.status ≠ .pending) :
    Keeps mode job (Safely job transaction) seen (do
      match ← checkExpirationAndMaxLifetime transaction reason with
      | some outcome => return outcome
      | none => resubmitIfDue transaction) := by
  apply (keeps_checkExpirationAndMaxLifetime hjob hfresh).bind
  intro later ended hend
  cases ended with
  | some outcome => exact hend
  | none => exact keeps_resubmitIfDue hcheck hend hprepared

theorem keeps_parseAndValidateHash (hfresh : Fresh (.status context) transaction seen) :
    Keeps mode (.status context) (fun later outcome => Fresh (.status context) transaction later ∧
      ∀ error, outcome = .error error → later.alarmed = true) seen
      (parseAndValidateHash transaction) := by
  rw [parseAndValidateHash]
  split
  · next hash hhash =>
      split
      · next hempty =>
          refine ⟨hfresh, fun _ _ => hfresh.alarmed ?_⟩
          simp [alarmingLoad, hhash, hempty]
      · refine keeps_plain trivial fun parsed => ?_
        have hlater := hfresh.plain (.parseHash hash) parsed trivial
        cases parsed with
        | error error => exact ⟨hlater, fun _ _ => Bool.or_true _⟩
        | ok _ => exact ⟨hlater, fun _ herror => (nomatch herror)⟩
  · next hhash =>
      refine ⟨hfresh, fun _ _ => hfresh.alarmed ?_⟩
      simp [alarmingLoad, hhash]

theorem keeps_handleSubmittedState (hfresh : Fresh (.status context) transaction seen)
    (hprepared : transaction.status ≠ .pending) :
    Keeps mode (.status context) (Safely (.status context) transaction) seen
      (handleSubmittedState transaction) := by
  apply (keeps_parseAndValidateHash hfresh).bind
  rintro later parsed ⟨hlater, hfailed⟩
  cases parsed with
  | error error => exact keeps_markAsFailed nofun hlater.toWorking (hfailed error rfl)
  | ok hash =>
      refine keeps_plain trivial fun answer => ?_
      have hlast := hlater.plain (.getNetworkTransaction hash) answer trivial
      cases answer with
      | error error => exact ⟨hlast.toWorking, fun _ _ => Bool.or_true _⟩
      | ok response =>
          dsimp only [Program.bind]
          split
          · exact keeps_finalizeOnChain nofun hlast.toWorking (.confirmed ⟨context, rfl⟩) rfl rfl
          · split
            · next hfailed =>
                exact keeps_finalizeOnChain nofun hlast.toWorking
                  (.failed (Bool.or_eq_true_iff.mpr (.inr (decide_eq_true hfailed)))) rfl rfl
            · exact keeps_checked nofun nofun hlast hprepared

theorem keeps_statusCore (hfresh : Fresh (.status context) transaction seen) :
    Keeps mode (.status context) (Safely (.status context) transaction) seen
      (statusCore transaction) := by
  rw [statusCore]
  split
  · exact keeps_handlePendingState nofun hfresh
  · next hsent => exact keeps_checked nofun nofun hfresh (by simp [hsent])
  · next hpending _ => exact keeps_handleSubmittedState hfresh hpending

theorem keeps_handleTransactionStatus
    (hfresh : transaction.status.isFinalState = false → Fresh (.status context) transaction seen)
    (howing : seen.owing = false) :
    Keeps mode (.status context) (fun later _ => later.owing = false) seen
      (handleTransactionStatus context transaction) := by
  have hjob : Job.status context ≠ .prepare := nofun
  have hfail : ∀ {later reason}, Working (.status context) transaction later →
      later.alarmed = true → Keeps mode (.status context) (fun last _ => last.owing = false) later
        (markAsFailed reason) := fun hlater hreason =>
    (keeps_markAsFailed hjob hlater hreason).imp fun _ _ hlast => hlast.1.owing
  rw [handleTransactionStatus]
  split
  · exact howing
  next hlive =>
    have hfresh := hfresh (Bool.eq_false_iff.mpr hlive)
    split
    · next forced hforced =>
        exact hfail hfresh.toWorking (hfresh.alarmed (by simp [alarmingLoad, hforced]))
    · apply (keeps_statusCore hfresh).bind
      intro later outcome hend
      cases outcome with
      | ok updated => exact hend.1.owing
      | error error =>
          cases error with
          | concurrentUpdateConflict message => exact keeps_reload hend.1
          | validationError message => exact hfail hend.1 (hend.2 _ rfl)
          | _ => exact hend.1.owing

/-! ## Jobs -/

/-- Every job keeps to the conduct, and owes nothing at its end. -/
theorem keeps_runJob (mode : Mode) (job : Job) :
    Keeps mode job (fun later _ => later = {}) {} (runJob mode job) := by
  refine ⟨.load, fun answer _ => ?_⟩
  cases answer with
  | error error => exact ⟨.acknowledge (.inr rfl), fun _ _ => rfl⟩
  | ok transaction =>
      have hfresh : transaction.status.isFinalState = false → Fresh job transaction
          (Sight.remember job {} .getTransaction (.ok transaction)) := fun hlive =>
        ⟨⟨rfl, hlive, rfl, fun halarming => Bool.or_eq_true_iff.mpr (.inl halarming)⟩, rfl⟩
      have hhandle : Keeps mode job (Settled mode)
          (Sight.remember job {} .getTransaction (.ok transaction))
          (handle mode job transaction) := by
        cases job with
        | prepare =>
            exact keeps_prepareTransaction (fun hpending => hfresh (by rw [hpending]; rfl)) rfl rfl
        | submit => exact (keeps_submitTransaction hfresh rfl).imp fun _ _ => .inr
        | status context => exact (keeps_handleTransactionStatus hfresh rfl).imp fun _ _ => .inr
      apply hhandle.bind
      intro later outcome hsettled
      exact ⟨.acknowledge hsettled, fun _ _ => rfl⟩

end Conduct

end Relayer.StellarLifecycle
