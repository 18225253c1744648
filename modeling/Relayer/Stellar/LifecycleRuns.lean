import Relayer.Core.Custody
import Relayer.Stellar.Conduct

/-!
# Interleaved Stellar jobs

Any number of preparation, submission and status jobs of one transaction run
against its stored record and the ledger.  With Redis a job may be told an earlier
version of the record, since reads go to a replica.  The ledger may include an accepted
envelope as long as its sequence number is not consumed and its time bound has not
passed; a submission is not accepted afterwards.

The record is a custody of its envelopes: a preparation signs and stores a new one,
and it should do so only when no earlier one succeeded or can still be included.  The
code does not ensure this: a submission that is told `txBadSeq` resets the record
and the transaction is signed anew, although the sequence number may have been
consumed by its own envelope.
-/

namespace Relayer.StellarLifecycleRuns

open Relayer.Transaction Relayer.Interaction Relayer.Interleaving Relayer.AtMostOnce
open Relayer.StellarLifecycle hiding Fresh Settled

/-- The source account's sequence number, the time, the envelopes the network has
accepted and those it has included successfully. -/
structure Ledger where
  sequence : ℤ
  time : ℕ
  accepted : List Envelope
  succeeded : List Envelope

/-- The envelope can no longer be included. -/
def Ledger.Dead (ledger : Ledger) (envelope : Envelope) : Prop :=
  envelope.sequence ≤ ledger.sequence ∨
    (envelope.maxTime ≠ 0 ∧ envelope.maxTime < ledger.time)

instance (ledger : Ledger) (envelope : Envelope) : Decidable (ledger.Dead envelope) :=
  inferInstanceAs (Decidable (_ ∨ _))

/-- The ledger after it included the envelope. -/
def Ledger.incorporate (ledger : Ledger) (envelope : Envelope) (success : Bool) : Ledger :=
  { ledger with
    sequence := envelope.sequence
    succeeded := ledger.succeeded ++ if success then [envelope] else [] }

/-- A delivered job. -/
structure Delivery where
  number : ℕ
  job : Job
  deriving DecidableEq, Repr

/-- The record with its earlier versions and the ledger, with the signed envelopes that were
stored in the record so far and the preparations of a pending record that are under way. -/
structure Shared where
  record : TransactionRepoModel
  versions : List TransactionRepoModel
  ledger : Ledger
  stored : List Envelope
  preparing : List Delivery

/-- No stored envelope can still be included and none has succeeded. -/
def Shared.Settled (shared : Shared) : Prop :=
  (∀ envelope ∈ shared.stored, shared.ledger.Dead envelope) ∧ shared.ledger.succeeded = []

instance (shared : Shared) : Decidable shared.Settled :=
  inferInstanceAs (Decidable (_ ∧ _))

/-- How jobs run: whether the relayer works on several transactions at once, and
whether the repository is Redis, which keeps the status of finished transactions and
reads from a replica. -/
structure Settings where
  concurrent : Bool
  keepsFinal : Bool

/-- The versions of the record that a read may be told. -/
def Shared.readable (settings : Settings) (shared : Shared) : List TransactionRepoModel :=
  shared.record :: if settings.keepsFinal then shared.versions else []

/-- The signed envelope that an update stores. -/
def envelopesOf (update : TransactionUpdateRequest) : List Envelope :=
  if update.status = some .sent then
    (update.networkData.bind StellarTransactionData.signedEnvelope).toList
  else []

def Shared.update (settings : Settings) (shared : Shared)
    (update : TransactionUpdateRequest) : Shared :=
  if settings.keepsFinal && shared.record.status.isFinalState && update.status.isSome then
    shared
  else
    { shared with
      record := shared.record.applyPartialUpdate update
      versions := shared.record :: shared.versions
      stored := shared.stored ++ envelopesOf update }

def Shared.updateMetadata (shared : Shared)
    (change : TransactionMetadata → TransactionMetadata) : Shared :=
  if shared.record.status.isFinalState then shared
  else
    { shared with
      record := { shared.record with metadata := change shared.record.metadata }
      versions := shared.record :: shared.versions }

/-- The network accepts a signed envelope. -/
def Shared.accept (shared : Shared) (envelope : Envelope) : Shared :=
  { shared with
    ledger := { shared.ledger with accepted := shared.ledger.accepted ++ [envelope] } }

/-- How a submission is answered.  An envelope that cannot be included any more, or
that bears no signature, is not accepted; an error of the provider leaves open
whether the network took the envelope. -/
def answerSend (shared : Shared) (envelope : Envelope) :
    Except TransactionError SendTransactionResponse → List Shared
  | .ok response =>
      let acceptable := envelope.signatures ≠ [] ∧ ¬ shared.ledger.Dead envelope
      if response.status = "PENDING" then
        if acceptable then [shared.accept envelope] else []
      else if response.status = "DUPLICATE" then
        if envelope ∈ shared.ledger.accepted ∧ ¬ shared.ledger.Dead envelope then [shared]
        else []
      else [shared]
  | .error _ =>
      if envelope.signatures ≠ [] ∧ ¬ shared.ledger.Dead envelope then
        [shared, shared.accept envelope]
      else [shared]

/-- A job that loads the record; a preparation that finds it pending goes ahead. -/
def Shared.load (shared : Shared) (delivery : Delivery) (told : TransactionRepoModel) :
    Shared :=
  if delivery.job = .prepare ∧ told.status = .pending then
    { shared with preparing := delivery :: shared.preparing }
  else shared

def Shared.finish (shared : Shared) (delivery : Delivery) : Shared :=
  { shared with preparing := shared.preparing.filter (· ≠ delivery) }

/-- The state after a write that is answered with the record. -/
def Shared.become (shared after : Shared) :
    Except RepositoryError TransactionRepoModel → List Shared :=
  written shared after after.record

def serve (settings : Settings) (shared : Shared) (delivery : Delivery) :
    (request : Request) → Answer request → List Shared
  | .getTransaction, answer =>
      match answer with
      | .ok told =>
          if told ∈ shared.readable settings then [shared.load delivery told] else []
      | .error _ => [shared]
  | .partialUpdate update, answer => shared.become (shared.update settings update) answer
  | .recordTryAgainLaterRetry, answer =>
      shared.become (shared.updateMetadata fun metadata =>
        { metadata with tryAgainLaterRetries := metadata.tryAgainLaterRetries + 1 }) answer
  | .recordInsufficientFeeRetry, answer =>
      shared.become (shared.updateMetadata fun metadata =>
        { metadata with insufficientFeeRetries := metadata.insufficientFeeRetries + 1 }) answer
  | .sendTransactionWithStatus envelope, answer => answerSend shared envelope answer
  | .acknowledge, _ => [shared.finish delivery]
  | _, _ => [shared]

/-- What the ledger does by itself: it includes an accepted envelope, successfully or
not, other transactions of the account consume sequence numbers, and time passes. -/
inductive Event where
  | include (index : ℕ) (success : Bool)
  | consume (count : ℕ)
  | elapse (seconds : ℕ)

def occur (shared : Shared) : Event → List Shared
  | .include index success =>
      match shared.ledger.accepted[index]? with
      | some envelope =>
          if shared.ledger.Dead envelope then []
          else [{ shared with ledger := shared.ledger.incorporate envelope success }]
      | none => []
  | .consume count =>
      [{ shared with
        ledger := { shared.ledger with sequence := shared.ledger.sequence + count } }]
  | .elapse seconds =>
      [{ shared with ledger := { shared.ledger with time := shared.ledger.time + seconds } }]

abbrev Jobs := System Request Answer Shared Event Delivery Outcome

abbrev Jobs.Config := Interleaving.Config Request Answer Shared Delivery Outcome

/-- Jobs are delivered at any time and any number of times, and may be lost. -/
def jobs (settings : Settings) : Jobs where
  launch delivery := some (runJob ⟨settings.concurrent, false⟩ delivery.job)
  serve := serve settings
  occur := occur
  crash shared delivery := some (shared.finish delivery)

/-- A preparation takes up a pending record only in its current version and while no other
one is under way, and a record is reset only when its envelopes are settled. -/
def disciplined (shared : Shared) (delivery : Delivery) :
    (request : Request) → Answer request → Bool
  | .getTransaction, .ok told =>
      decide (delivery.job = .prepare → told.status = .pending →
        told = shared.record ∧ shared.preparing = [])
  | .partialUpdate update, _ => decide (update.status = some .pending → shared.Settled)
  | _, _ => true

def disciplinedJobs (settings : Settings) : Jobs := (jobs settings).restrictAnswers disciplined

/-- A transaction as it is created: pending and not signed. -/
structure Fresh (record : TransactionRepoModel) : Prop where
  pending : record.status = .pending
  unsigned : record.networkData.signedEnvelope = none
  noSignatures : record.networkData.signatures = []

def initial (record : TransactionRepoModel) (sequence : ℤ) (time : ℕ) : Jobs.Config :=
  ⟨⟨record, [], ⟨sequence, time, [], []⟩, [], []⟩, []⟩

/-! ## What the jobs write -/

/-- Data that submits nothing signed but what the given data submits. -/
def Derives (data derived : StellarTransactionData) : Prop :=
  ∀ envelope, derived.getEnvelopeForSubmission = .ok envelope → envelope.signatures ≠ [] →
    data.getEnvelopeForSubmission = .ok envelope

theorem derives_withHash (data : StellarTransactionData) (hash : String) :
    Derives data (data.withHash hash) :=
  fun _ henvelope _ => henvelope

/-- Without a signed envelope and without signatures nothing signed is submitted. -/
theorem signatures_eq_nil {data : StellarTransactionData} {envelope : Envelope}
    (hunsigned : data.signedEnvelope = none) (hsignatures : data.signatures = [])
    (henvelope : data.getEnvelopeForSubmission = .ok envelope) : envelope.signatures = [] := by
  rw [StellarTransactionData.getEnvelopeForSubmission, hunsigned, hsignatures] at henvelope
  dsimp only at henvelope
  split at henvelope <;> cases henvelope <;> rfl

theorem derives_reset (data : StellarTransactionData) :
    Derives data data.resetToPrePrepareState :=
  fun _ henvelope hsigned => absurd (signatures_eq_nil rfl rfl henvelope) hsigned

/-! ## The invariant -/

/-- Preparations hold the custody of the envelopes that can still succeed. -/
def Shared.custody (shared : Shared) : Custody Envelope Delivery where
  issued := shared.stored
  dead := { envelope | shared.ledger.Dead envelope }
  redeemed := shared.ledger.succeeded
  holders := shared.preparing

/-- What the data submits is not signed or was stored. -/
def Vetted (stored : List Envelope) (data : StellarTransactionData) : Prop :=
  ∀ envelope, data.getEnvelopeForSubmission = .ok envelope → envelope.signatures ≠ [] →
    envelope ∈ stored

theorem Vetted.derives {stored : List Envelope} {data derived : StellarTransactionData}
    (hvetted : Vetted stored data) (hderives : Derives data derived) : Vetted stored derived :=
  fun envelope henvelope hsigned =>
    hvetted envelope (hderives envelope henvelope hsigned) hsigned

theorem Vetted.mono {stored later : List Envelope} {data : StellarTransactionData}
    (hvetted : Vetted stored data) (hsubset : stored ⊆ later) : Vetted later data :=
  fun envelope henvelope hsigned => hsubset (hvetted envelope henvelope hsigned)

/-- The record, the network and the stored envelopes agree. -/
structure Consistent (shared : Shared) : Prop where
  accepted_stored : ∀ envelope ∈ shared.ledger.accepted, envelope ∈ shared.stored
  succeeded_dead : ∀ envelope ∈ shared.ledger.succeeded, shared.ledger.Dead envelope
  vetted : ∀ version ∈ shared.record :: shared.versions,
    Vetted shared.stored version.networkData
  pending_settled : shared.record.status = .pending → shared.Settled

structure Sound (shared : Shared) : Prop where
  exclusive : Exclusive shared.custody
  consistent : Consistent shared

/-- A job writes what it derived from stored data; only a preparation stores an
envelope, while everything stored before is settled. -/
def Permitted (delivery : Delivery) (shared : Shared) : Request → Prop
  | .partialUpdate update =>
      (update.status ≠ some .sent → ∀ data ∈ update.networkData, Vetted shared.stored data) ∧
        (update.status = some .sent → Holds delivery shared.custody ∧
          ∃ data envelope, update.networkData = some data ∧
            data.signedEnvelope = some envelope)
  | .sendTransactionWithStatus envelope =>
      envelope.signatures ≠ [] → envelope ∈ shared.stored
  | _ => True

section Steps

variable {settings : Settings} {delivery : Delivery} {shared after : Shared}
  {update : TransactionUpdateRequest} {envelope : Envelope} {data : StellarTransactionData}

theorem mem_become {applied : Shared} {answer : Except RepositoryError TransactionRepoModel}
    (hafter : after ∈ shared.become applied answer) : after = shared ∨ after = applied :=
  (mem_written hafter).symm.imp And.left And.left

theorem mem_become_ok {applied : Shared} {told : TransactionRepoModel}
    (hafter : after ∈ shared.become applied (.ok told)) :
    told = applied.record ∧ after = applied := by
  rcases mem_written hafter with ⟨happlied, htold⟩ | ⟨-, hnot⟩
  · exact ⟨htold told rfl, happlied⟩
  · exact absurd rfl (hnot told)

/-- A load that is answered with a record is answered with a stored version. -/
theorem mem_serve_load {told : TransactionRepoModel}
    (hafter : after ∈ serve settings shared delivery .getTransaction (.ok told)) :
    told ∈ shared.record :: shared.versions ∧ after = shared.load delivery told := by
  by_cases htold : told ∈ shared.readable settings
  · rw [serve, if_pos htold, List.mem_singleton] at hafter
    refine ⟨?_, hafter⟩
    rw [Shared.readable] at htold
    split at htold
    · exact htold
    · exact List.mem_cons.mpr (.inl (List.mem_singleton.mp htold))
  · rw [serve, if_neg htold] at hafter
    cases hafter

/-- An update is dropped or applied. -/
theorem update_cases (settings : Settings) (shared : Shared)
    (update : TransactionUpdateRequest) :
    shared.update settings update = shared ∨
      shared.update settings update =
        { shared with
          record := shared.record.applyPartialUpdate update
          versions := shared.record :: shared.versions
          stored := shared.stored ++ envelopesOf update } := by
  rw [Shared.update]
  split
  · exact .inl rfl
  · exact .inr rfl

theorem envelopesOf_eq_nil (hstatus : update.status ≠ some .sent) : envelopesOf update = [] := by
  rw [envelopesOf, if_neg hstatus]

theorem envelopesOf_eq_singleton (hstatus : update.status = some .sent)
    (hdata : update.networkData = some data) (hsigned : data.signedEnvelope = some envelope) :
    envelopesOf update = [envelope] := by
  rw [envelopesOf, if_pos hstatus, hdata, Option.bind_some, hsigned]
  rfl

/-- A submission is accepted only if it bears a signature. -/
theorem mem_answerSend {answer : Except TransactionError SendTransactionResponse}
    (hafter : after ∈ answerSend shared envelope answer) :
    after = shared ∨ (envelope.signatures ≠ [] ∧ after = shared.accept envelope) := by
  cases answer with
  | ok response =>
      simp only [answerSend] at hafter
      split_ifs at hafter with hpending hsigned hduplicate hknown
      · exact .inr ⟨hsigned.1, List.mem_singleton.mp hafter⟩
      · cases hafter
      · exact .inl (List.mem_singleton.mp hafter)
      · cases hafter
      · exact .inl (List.mem_singleton.mp hafter)
  | error error =>
      simp only [answerSend] at hafter
      split_ifs at hafter with hsigned
      · rcases List.mem_pair.mp hafter with hsame | haccepted
        · exact .inl hsame
        · exact .inr ⟨hsigned.1, haccepted⟩
      · exact .inl (List.mem_singleton.mp hafter)

/-! ### The custody moves -/

theorem move_update (hpermitted : Permitted delivery shared (.partialUpdate update)) :
    Move (some delivery) shared.custody (shared.update settings update).custody := by
  rcases update_cases settings shared update with hsame | happlied
  · rw [hsame]
    exact .skip _ _
  · rw [happlied]
    by_cases hsent : update.status = some .sent
    · obtain ⟨hholds, data, envelope, hdata, hsigned⟩ := hpermitted.2 hsent
      rw [envelopesOf_eq_singleton hsent hdata hsigned]
      exact .issue envelope hholds
    · rw [envelopesOf_eq_nil hsent, List.append_nil]
      exact .skip _ shared.custody

theorem move_updateMetadata {change : TransactionMetadata → TransactionMetadata} :
    Move (some delivery) shared.custody (shared.updateMetadata change).custody := by
  rw [Shared.updateMetadata]
  split <;> exact .skip _ shared.custody

theorem move_load {told : TransactionRepoModel}
    (hfree : delivery.job = .prepare → told.status = .pending →
      told = shared.record ∧ shared.preparing = []) :
    Move (some delivery) shared.custody (shared.load delivery told).custody := by
  rw [Shared.load]
  split
  · next hprepare =>
      have hnone := (hfree hprepare.1 hprepare.2).2
      rw [hnone]
      exact .take delivery shared.custody hnone
  · exact .skip _ shared.custody

/-- A disciplined step is a move of the custody. -/
theorem move_serve {request : Request} {answer : Answer request}
    (hpermitted : Permitted delivery shared request)
    (hdisciplined : disciplined shared delivery request answer = true)
    (hafter : after ∈ serve settings shared delivery request answer) :
    Move (some delivery) shared.custody after.custody := by
  cases request with
  | getTransaction =>
      cases answer with
      | ok told =>
          rw [(mem_serve_load hafter).2]
          exact move_load (of_decide_eq_true hdisciplined)
      | error error =>
          rw [List.mem_singleton.mp hafter]
          exact .skip _ _
  | partialUpdate update =>
      rcases mem_become hafter with rfl | rfl
      · exact .skip _ _
      · exact move_update hpermitted
  | recordTryAgainLaterRetry =>
      rcases mem_become hafter with rfl | rfl
      · exact .skip _ _
      · exact move_updateMetadata
  | recordInsufficientFeeRetry =>
      rcases mem_become hafter with rfl | rfl
      · exact .skip _ _
      · exact move_updateMetadata
  | sendTransactionWithStatus envelope =>
      rcases mem_answerSend hafter with rfl | ⟨-, rfl⟩
      · exact .skip _ _
      · exact .skip _ shared.custody
  | acknowledge =>
      rw [List.mem_singleton.mp hafter]
      exact .release delivery shared.custody
  | _ =>
      rw [List.mem_singleton.mp hafter]
      exact .skip _ _

/-- The ledger moves on: sequence numbers and time only grow. -/
theorem dead_mono {ledger later : Ledger} (hsequence : ledger.sequence ≤ later.sequence)
    (htime : ledger.time ≤ later.time) (hdead : ledger.Dead envelope) : later.Dead envelope := by
  rcases hdead with hconsumed | ⟨hbounded, hexpired⟩
  · exact .inl (le_trans hconsumed hsequence)
  · exact .inr ⟨hbounded, lt_of_lt_of_le hexpired htime⟩

theorem dead_incorporate {ledger : Ledger} {other : Envelope} {success : Bool}
    (halive : ¬ ledger.Dead envelope) (hdead : ledger.Dead other) :
    (ledger.incorporate envelope success).Dead other := by
  rw [Ledger.Dead, not_or] at halive
  apply dead_mono _ _ hdead
  · exact le_of_lt (not_le.mp halive.1)
  · exact le_refl ledger.time

/-- Inclusion redeems the envelope if it succeeds, and kills it in any case. -/
theorem moves_incorporate {success : Bool} (hconsistent : Consistent shared)
    (haccepted : envelope ∈ shared.ledger.accepted) (halive : ¬ shared.ledger.Dead envelope) :
    Moves none shared.custody
      ({ shared with ledger := shared.ledger.incorporate envelope success } : Shared).custody := by
  have hdead : shared.custody.dead ⊆
      { other | (shared.ledger.incorporate envelope success).Dead other } :=
    fun _ => dead_incorporate halive
  cases success with
  | false =>
      have hsame : shared.ledger.succeeded =
          (shared.ledger.incorporate envelope false).succeeded := (List.append_nil _).symm
      rw [Shared.custody, Shared.custody, ← hsame]
      exact .single (.age shared.custody hdead)
  | true =>
      have hnew : envelope ∉ shared.ledger.succeeded :=
        fun hmem => halive (hconsistent.succeeded_dead envelope hmem)
      have hstored : envelope ∈ shared.custody.issued :=
        hconsistent.accepted_stored envelope haccepted
      exact .tail (.single (.redeem hstored halive hnew)) (.age _ hdead)

/-! ### The record -/

/-- Writing derived data, or resetting a settled record. -/
theorem consistent_update (hshared : Consistent shared) (hstatus : update.status ≠ some .sent)
    (hdata : ∀ data ∈ update.networkData, Vetted shared.stored data)
    (hreset : update.status = some .pending → shared.Settled) :
    Consistent (shared.update settings update) := by
  rcases update_cases settings shared update with hsame | happlied
  · rw [hsame]
    exact hshared
  · rw [happlied, envelopesOf_eq_nil hstatus, List.append_nil]
    refine ⟨hshared.accepted_stored, hshared.succeeded_dead, ?_, ?_⟩
    · refine List.forall_mem_cons.mpr ⟨?_, hshared.vetted⟩
      change Vetted shared.stored (update.networkData.getD shared.record.networkData)
      cases hnew : update.networkData with
      | none => exact hshared.vetted _ List.mem_cons_self
      | some data => exact hdata data hnew
    · change update.status.getD shared.record.status = .pending → shared.Settled
      cases hnew : update.status with
      | none => exact hshared.pending_settled
      | some status => exact fun hpending => hreset (hnew.trans (congrArg some hpending))

/-- Storing a signed envelope. -/
theorem consistent_store (hshared : Consistent shared) (hstatus : update.status = some .sent)
    (hdata : update.networkData = some data) (hsigned : data.signedEnvelope = some envelope) :
    Consistent (shared.update settings update) := by
  rcases update_cases settings shared update with hsame | happlied
  · rw [hsame]
    exact hshared
  · rw [happlied, envelopesOf_eq_singleton hstatus hdata hsigned]
    refine ⟨?_, hshared.succeeded_dead, ?_, ?_⟩
    · exact fun other hother => List.mem_append_left _ (hshared.accepted_stored other hother)
    · refine List.forall_mem_cons.mpr ⟨?_, fun version hversion =>
        (hshared.vetted version hversion).mono (List.subset_append_left _ _)⟩
      intro other hother _
      have hrecord : (shared.record.applyPartialUpdate update).networkData = data := by
        rw [TransactionRepoModel.applyPartialUpdate, hdata]
        rfl
      rw [hrecord, StellarTransactionData.getEnvelopeForSubmission, hsigned] at hother
      cases hother
      exact List.mem_append_right _ (List.mem_singleton_self envelope)
    · intro hpending
      rw [TransactionRepoModel.applyPartialUpdate, hstatus] at hpending
      cases hpending

theorem consistent_updateMetadata {change : TransactionMetadata → TransactionMetadata}
    (hshared : Consistent shared) : Consistent (shared.updateMetadata change) := by
  rw [Shared.updateMetadata]
  split
  · exact hshared
  · exact ⟨hshared.accepted_stored, hshared.succeeded_dead,
      List.forall_mem_cons.mpr
        ⟨hshared.vetted shared.record List.mem_cons_self, hshared.vetted⟩,
      hshared.pending_settled⟩

theorem consistent_accept (hshared : Consistent shared) (hstored : envelope ∈ shared.stored) :
    Consistent (shared.accept envelope) := by
  refine ⟨?_, hshared.succeeded_dead, hshared.vetted, hshared.pending_settled⟩
  intro other hother
  rcases List.mem_append.mp hother with hold | hnew
  · exact hshared.accepted_stored other hold
  · rw [List.mem_singleton.mp hnew]
    exact hstored

/-- Who prepares does not matter to the record. -/
theorem Consistent.withPreparing (hshared : Consistent shared) (preparing : List Delivery) :
    Consistent { shared with preparing := preparing } :=
  ⟨hshared.accepted_stored, hshared.succeeded_dead, hshared.vetted, hshared.pending_settled⟩

theorem consistent_load (hshared : Consistent shared) (told : TransactionRepoModel) :
    Consistent (shared.load delivery told) := by
  rw [Shared.load]
  split
  · exact hshared.withPreparing _
  · exact hshared

theorem consistent_serve {request : Request} {answer : Answer request}
    (hshared : Consistent shared) (hpermitted : Permitted delivery shared request)
    (hdisciplined : disciplined shared delivery request answer = true)
    (hafter : after ∈ serve settings shared delivery request answer) : Consistent after := by
  cases request with
  | getTransaction =>
      cases answer with
      | ok told =>
          rw [(mem_serve_load hafter).2]
          exact consistent_load hshared told
      | error error =>
          rw [List.mem_singleton.mp hafter]
          exact hshared
  | partialUpdate update =>
      rcases mem_become hafter with rfl | rfl
      · exact hshared
      · by_cases hsent : update.status = some .sent
        · obtain ⟨-, data, envelope, hdata, hsigned⟩ := hpermitted.2 hsent
          exact consistent_store hshared hsent hdata hsigned
        · exact consistent_update hshared hsent (hpermitted.1 hsent)
            (of_decide_eq_true hdisciplined)
  | recordTryAgainLaterRetry =>
      rcases mem_become hafter with rfl | rfl
      · exact hshared
      · exact consistent_updateMetadata hshared
  | recordInsufficientFeeRetry =>
      rcases mem_become hafter with rfl | rfl
      · exact hshared
      · exact consistent_updateMetadata hshared
  | sendTransactionWithStatus envelope =>
      rcases mem_answerSend hafter with rfl | ⟨hsigned, rfl⟩
      · exact hshared
      · exact consistent_accept hshared (hpermitted hsigned)
  | acknowledge =>
      rw [List.mem_singleton.mp hafter]
      exact hshared.withPreparing _
  | _ =>
      rw [List.mem_singleton.mp hafter]
      exact hshared

/-- Where nothing new succeeds, the ledger only moves on. -/
theorem occur_ledger {later : Ledger} (hshared : Consistent shared)
    (hsequence : shared.ledger.sequence ≤ later.sequence)
    (htime : shared.ledger.time ≤ later.time)
    (haccepted : later.accepted = shared.ledger.accepted)
    (hsucceeded : later.succeeded = shared.ledger.succeeded) :
    Moves none shared.custody ({ shared with ledger := later } : Shared).custody ∧
      Consistent { shared with ledger := later } := by
  have hdead : ∀ envelope, shared.ledger.Dead envelope → later.Dead envelope :=
    fun _ => dead_mono hsequence htime
  refine ⟨?_, ⟨?_, ?_, hshared.vetted, fun hpending => ?_⟩⟩
  · rw [Shared.custody, Shared.custody, hsucceeded]
    exact .single (.age shared.custody hdead)
  · rw [haccepted]
    exact hshared.accepted_stored
  · intro envelope hmem
    rw [hsucceeded] at hmem
    exact hdead envelope (hshared.succeeded_dead envelope hmem)
  · obtain ⟨hstored, hnone⟩ := hshared.pending_settled hpending
    exact ⟨fun envelope hmem => hdead envelope (hstored envelope hmem), hsucceeded.trans hnone⟩

theorem consistent_incorporate {success : Bool} (hshared : Consistent shared)
    (haccepted : envelope ∈ shared.ledger.accepted) (halive : ¬ shared.ledger.Dead envelope) :
    Consistent { shared with ledger := shared.ledger.incorporate envelope success } := by
  refine ⟨hshared.accepted_stored, ?_, hshared.vetted, fun hpending => ?_⟩
  · intro other hother
    rcases List.mem_append.mp hother with hold | hnew
    · exact dead_incorporate halive (hshared.succeeded_dead other hold)
    · cases success with
      | false => cases hnew
      | true =>
          rw [List.mem_singleton.mp hnew]
          exact .inl (le_refl envelope.sequence)
  · have hsettled := hshared.pending_settled hpending
    exact absurd (hsettled.1 envelope (hshared.accepted_stored envelope haccepted)) halive

/-- What the ledger does by itself. -/
theorem occur_cases {event : Event} (hshared : Consistent shared)
    (hafter : after ∈ occur shared event) :
    Moves none shared.custody after.custody ∧ Consistent after := by
  cases event with
  | «include» index success =>
      simp only [occur] at hafter
      split at hafter
      · next envelope haccepted =>
          have hmem := List.mem_of_getElem? haccepted
          split_ifs at hafter with hdead
          · cases hafter
          · rw [List.mem_singleton.mp hafter]
            exact ⟨moves_incorporate hshared hmem hdead,
              consistent_incorporate hshared hmem hdead⟩
      · cases hafter
  | consume count =>
      rw [List.mem_singleton.mp hafter]
      apply occur_ledger hshared
      · exact Int.le_add_of_nonneg_right (Int.natCast_nonneg count)
      · exact le_refl shared.ledger.time
      · rfl
      · rfl
  | elapse seconds =>
      rw [List.mem_singleton.mp hafter]
      apply occur_ledger hshared
      · exact le_refl shared.ledger.sequence
      · exact Nat.le_add_right shared.ledger.time seconds
      · rfl
      · rfl

end Steps

/-! ## What the jobs know -/

/-- The data that a job has loaded was stored, and a preparation of a pending record that has
written nothing holds the custody. -/
structure Knows (delivery : Delivery) (seen : Sight) (shared : Shared) : Prop where
  vetted : ∀ transaction, seen.loaded = some transaction →
    Vetted shared.stored transaction.networkData
  holds : delivery.job = .prepare → ∀ transaction, seen.latest = some transaction →
    transaction.status = .pending → seen.unsaved = false → Holds delivery shared.custody

theorem Knows.start (delivery : Delivery) (shared : Shared) : Knows delivery {} shared :=
  ⟨fun _ hnone => (nomatch hnone), fun _ _ hnone => (nomatch hnone)⟩

section Jobs

variable {settings : Settings} {mode : Mode} {delivery : Delivery} {shared after : Shared}
  {seen later : Sight} {request : Request} {answer : Answer request}
  {update : TransactionUpdateRequest} {envelope : Envelope}

/-- What the conduct allows is permitted. -/
theorem Knows.permitted (hknows : Knows delivery seen shared) (hinput : mode.signedInput = false)
    (hacts : Acts mode delivery.job seen request) : Permitted delivery shared request := by
  cases hacts with
  | write hloaded hlive hwrites =>
      have hvetted := hknows.vetted _ hloaded
      cases hwrites with
      | sent hjob hlatest hsaved hpending hclaimed hsigned =>
          have hsome := hsigned.resolve_left (by simp [hinput])
          obtain ⟨envelope, henvelope⟩ := Option.isSome_iff_exists.mp hsome
          exact ⟨fun hne => absurd rfl hne, fun _ =>
            ⟨hknows.holds hjob _ hlatest hpending hsaved, _, envelope, rfl, henvelope⟩⟩
      | submitted hjob hlatest =>
          refine ⟨fun _ => ?_, nofun⟩
          rintro _ ⟨⟩
          exact hvetted.derives (derives_withHash _ _)
      | reset hjob hlatest halarmed =>
          refine ⟨fun _ => ?_, nofun⟩
          rintro _ ⟨⟩
          exact hvetted.derives (derives_reset _)
      | confirmed hjob =>
          refine ⟨fun _ => ?_, nofun⟩
          rintro _ ⟨⟩
          -- neither the fee nor the result is part of what is submitted
          exact hvetted.derives fun _ henvelope _ => henvelope
      | failed | expired => exact ⟨fun _ _ hnone => (nomatch hnone), nofun⟩
  | send hjob hloaded hlive henvelope => exact hknows.vetted _ hloaded _ henvelope
  | plain hplain =>
      cases request with
      | partialUpdate | sendTransactionWithStatus => exact hplain.elim
      | _ => trivial
  | _ => trivial

theorem believable_serve (hserve : after ∈ serve settings shared delivery request answer) :
    Believable request answer := by
  cases request with
  | partialUpdate update =>
      cases answer with
      | error error => trivial
      | ok told =>
          intro status hstatus
          rw [(mem_become_ok hserve).1, Shared.update]
          split
          · next hkept =>
              simp only [Bool.and_eq_true] at hkept
              exact .inr hkept.1.2
          · refine .inl ?_
            rw [TransactionRepoModel.applyPartialUpdate, hstatus]
            rfl
  | _ => trivial

/-- A preparation never writes a pending record. -/
theorem not_pending_of_writes {transaction told : TransactionRepoModel}
    (hwrites : Writes mode .prepare seen transaction update)
    (hbelievable : Believable (.partialUpdate update) (.ok told)) : told.status ≠ .pending := by
  have hnot : ∀ status, update.status = some status → status ≠ .pending →
      told.status ≠ .pending := by
    intro status hstatus hne hpending
    rcases hbelievable status hstatus with hsame | hfinal
    · exact hne (hsame.symm.trans hpending)
    · rw [hpending] at hfinal
      cases hfinal
  cases hwrites with
  | submitted hjob | reset hjob => cases hjob
  | sent | confirmed | failed | expired => exact hnot _ rfl (by decide)

/-- A call that leaves the custody alone. -/
theorem Knows.keep (hknows : Knows delivery seen shared) (hcustody : after.custody = shared.custody)
    (hloaded : later.loaded = seen.loaded)
    (hprepare : delivery.job = .prepare → later.latest = seen.latest ∧
      (later.unsaved = false → seen.unsaved = false)) : Knows delivery later after := by
  have hstored : after.stored = shared.stored := congrArg Custody.issued hcustody
  refine ⟨fun transaction htransaction => ?_, fun hjob transaction hlatest hpending hsaved => ?_⟩
  · rw [hstored]
    exact hknows.vetted transaction (hloaded ▸ htransaction)
  · obtain ⟨hsame, hunsaved⟩ := hprepare hjob
    rw [hcustody]
    exact hknows.holds hjob transaction (hsame ▸ hlatest) hpending (hunsaved hsaved)

theorem Knows.load {told : TransactionRepoModel} (hknows : Knows delivery seen shared)
    (hsound : Sound shared) (hversion : told ∈ shared.record :: shared.versions)
    (hcurrent : delivery.job = .prepare → told.status = .pending →
      told = shared.record ∧ shared.preparing = []) :
    Knows delivery (seen.remember delivery.job .getTransaction (.ok told))
      (shared.load delivery told) := by
  have hstored : (shared.load delivery told).stored = shared.stored := by
    rw [Shared.load]
    split <;> rfl
  refine ⟨fun transaction htransaction => ?_, fun hjob transaction hlatest hpending _ => ?_⟩
  · rw [hstored]
    simp only [Sight.remember, Sight.note] at htransaction
    split at htransaction
    · exact hknows.vetted transaction htransaction
    · cases htransaction
      exact hsound.consistent.vetted told hversion
  · have hsame : transaction = told := by
      simp only [Sight.remember, Sight.note] at hlatest
      split at hlatest <;> exact (Option.some.inj hlatest).symm
    rw [hsame] at hpending
    rw [Shared.load, if_pos ⟨hjob, hpending⟩]
    refine ⟨List.mem_cons_self, hsound.consistent.pending_settled ?_⟩
    rw [← (hcurrent hjob hpending).1]
    exact hpending

theorem Knows.write {transaction : TransactionRepoModel}
    {answer : Answer (.partialUpdate update)} (hknows : Knows delivery seen shared)
    (hwrites : Writes mode delivery.job seen transaction update)
    (hstored : shared.stored ⊆ after.stored)
    (hserve : after ∈ serve settings shared delivery (.partialUpdate update) answer) :
    Knows delivery (seen.remember delivery.job (.partialUpdate update) answer) after := by
  refine ⟨fun transaction htransaction => ?_, fun hjob transaction hlatest hpending hsaved => ?_⟩
  · have hloaded : seen.loaded = some transaction := by cases answer <;> exact htransaction
    exact (hknows.vetted transaction hloaded).mono hstored
  · cases answer with
    | error error => cases hsaved
    | ok told =>
        cases hlatest
        rw [hjob] at hwrites
        exact absurd hpending (not_pending_of_writes hwrites (believable_serve hserve))

theorem serve_plain (hplain : Plain request)
    (hserve : after ∈ serve settings shared delivery request answer) : after = shared := by
  cases request with
  | getTransaction | partialUpdate | recordTryAgainLaterRetry | recordInsufficientFeeRetry =>
      exact hplain.elim
  | sendTransactionWithStatus | acknowledge => exact hplain.elim
  | _ => exact List.mem_singleton.mp hserve

theorem custody_updateMetadata {change : TransactionMetadata → TransactionMetadata}
    {answer : Except RepositoryError TransactionRepoModel}
    (hafter : after ∈ shared.become (shared.updateMetadata change) answer) :
    after.custody = shared.custody := by
  rcases mem_become hafter with rfl | rfl
  · rfl
  · rw [Shared.updateMetadata]
    split <;> rfl

/-- What a job knows after its own call. -/
theorem Knows.remember (hknows : Knows delivery seen shared) (hsound : Sound shared)
    (hacts : Acts mode delivery.job seen request) (hstored : shared.stored ⊆ after.stored)
    (hdisciplined : disciplined shared delivery request answer = true)
    (hserve : after ∈ serve settings shared delivery request answer) :
    Knows delivery (seen.remember delivery.job request answer) after := by
  cases hacts with
  | load =>
      cases answer with
      | error error =>
          cases List.mem_singleton.mp hserve
          exact hknows.keep rfl rfl fun _ => ⟨rfl, id⟩
      | ok told =>
          obtain ⟨hversion, rfl⟩ := mem_serve_load hserve
          exact hknows.load hsound hversion (of_decide_eq_true hdisciplined)
  | plain hplain =>
      rw [remember_plain hplain, serve_plain hplain hserve]
      exact hknows.keep rfl rfl fun _ => ⟨rfl, id⟩
  | write hloaded hlive hwrites => exact hknows.write hwrites hstored hserve
  | recordTryAgainLater hjob | recordInsufficientFee hjob =>
      refine hknows.keep (custody_updateMetadata hserve) (by cases answer <;> rfl) ?_
      exact fun hprepare => absurd (hjob.symm.trans hprepare) nofun
  | send =>
      refine hknows.keep ?_ rfl fun _ => ⟨rfl, id⟩
      rcases mem_answerSend hserve with rfl | ⟨-, rfl⟩ <;> rfl
  | acknowledge => exact .start delivery after
  | handOver =>
      cases List.mem_singleton.mp hserve
      cases answer <;> exact hknows.keep rfl rfl fun _ => ⟨rfl, id⟩
  | claim | queue | retry | free =>
      cases List.mem_singleton.mp hserve
      exact hknows.keep rfl rfl fun _ => ⟨rfl, id⟩

theorem Knows.relies {other : Delivery} (hknows : Knows other seen shared)
    (hrelies : Relies other shared.custody after.custody) : Knows other seen after :=
  ⟨fun transaction hloaded => (hknows.vetted transaction hloaded).mono hrelies.issued,
    fun hjob transaction hlatest hpending hsaved =>
      hrelies.holds (hknows.holds hjob transaction hlatest hpending hsaved)⟩

end Jobs

theorem disciplinedJobs_upholds (settings : Settings) :
    Upholds (disciplinedJobs settings)
      (fun delivery => conduct ⟨settings.concurrent, false⟩ delivery.job) (fun _ _ _ => True)
      {} Sound Knows where
  launch delivery program hlaunch := by
    cases hlaunch
    exact (keeps_runJob _ delivery.job).imp fun _ _ _ => trivial
  serve delivery seen shared request answer _ hsound hknows hacts after hserve := by
    obtain ⟨hdisciplined, hserve⟩ := System.mem_serve_restrictAnswers.mp hserve
    have hpermitted := hknows.permitted rfl hacts
    have hmove := move_serve hpermitted hdisciplined hserve
    exact ⟨⟨hmove.exclusive hsound.exclusive,
        consistent_serve hsound.consistent hpermitted hdisciplined hserve⟩,
      believable_serve hserve,
      hknows.remember hsound hacts hmove.issued_subset hdisciplined hserve,
      fun _ hother _ hkept =>
        hkept.relies (hmove.relies hsound.exclusive (by simpa using hother))⟩
  occur shared event hsound after hafter := by
    obtain ⟨hmoves, hconsistent⟩ := occur_cases hsound.consistent hafter
    exact ⟨⟨hmoves.exclusive hsound.exclusive, hconsistent⟩, fun _ _ hknows =>
      hknows.relies (hmoves.relies hsound.exclusive (by simp))⟩
  crash delivery shared after hsound hcrash := by
    cases hcrash
    have hmove := Move.release delivery shared.custody
    exact ⟨⟨hmove.exclusive hsound.exclusive, hsound.consistent.withPreparing _⟩,
      .start delivery _, fun _ hother _ hknows =>
        hknows.relies (hmove.relies hsound.exclusive (by simpa using hother))⟩

theorem sound_initial {record : TransactionRepoModel} (hfresh : Fresh record) (sequence : ℤ)
    (time : ℕ) : Sound (initial record sequence time).state where
  exclusive := ⟨List.forall_mem_nil _, .inl rfl, Nat.zero_le 1⟩
  consistent :=
    { accepted_stored := List.forall_mem_nil _
      succeeded_dead := List.forall_mem_nil _
      vetted := List.forall_mem_singleton.mpr fun _ henvelope hsigned =>
        absurd (signatures_eq_nil hfresh.unsigned hfresh.noSignatures henvelope) hsigned
      pending_settled := fun _ => ⟨List.forall_mem_nil _, rfl⟩ }

/-- In every disciplined run, at most one of the envelopes signed for the transaction is
ever included successfully. -/
theorem stellarJobs_succeed_at_most_once {settings : Settings} {record : TransactionRepoModel}
    {sequence : ℤ} {time : ℕ} {config : Jobs.Config} (hfresh : Fresh record)
    (hrun : (disciplinedJobs settings).Reachable (initial record sequence time) config) :
    config.state.ledger.succeeded.length ≤ 1 := by
  have hsound : Sound config.state :=
    ((disciplinedJobs_upholds settings).reachable (sound_initial hfresh sequence time)
      (fun delivery => .start delivery _) hrun).1
  exact hsound.exclusive.redeemed_length_le

/-! ## Runs of a payment -/

section Payment

/-- A payment as it is created. -/
def samplePayment : TransactionRepoModel where
  id := "tx-1"
  status := .pending
  statusReason := none
  networkData :=
    { transactionInput := .operations (some ⟨"payment", 0, 0, []⟩)
      fee := none
      sequenceNumber := none
      signatures := []
      hash := none
      simulationTransactionData := none
      signedEnvelope := none
      transactionResultXdr := none }
  hashes := []
  metadata := ⟨0, 0⟩

def signedPayment (sequence : ℤ) : Envelope := ⟨"payment", sequence, 0, ["signature"]⟩

/-- The record after its preparation with the sequence number. -/
def preparedPayment (record : TransactionRepoModel) (sequence : ℤ) : TransactionRepoModel :=
  { record with
    status := .sent
    networkData :=
      { record.networkData with
        sequenceNumber := some sequence
        signatures := ["signature"]
        signedEnvelope := some (signedPayment sequence) } }

/-- The record after the network took its envelope. -/
def submittedPayment (record : TransactionRepoModel) : TransactionRepoModel :=
  { record with
    status := .submitted
    networkData := record.networkData.withHash "hash"
    hashes := ["hash"] }

/-- The record after a submission was told `txBadSeq`. -/
def resetPayment (record : TransactionRepoModel) : TransactionRepoModel :=
  record.applyPartialUpdate record.createResetUpdateRequest

def pendingResponse : SendTransactionResponse := ⟨"PENDING", "hash", none⟩

def badSequenceResponse : SendTransactionResponse :=
  ⟨"ERROR", "hash", some ("AAAAAAAAAGT////7AAAAAA==", some "TxBadSeq")⟩

/-- Answers while the record is `current`: a preparation gets the sequence number, a
submission the response. -/
def paymentAnswers (current : TransactionRepoModel) (sequence : ℤ)
    (response : SendTransactionResponse) : (request : Request) → Answer request
  | .getTransaction => .ok current
  | .partialUpdate update => .ok (current.applyPartialUpdate update)
  | .recordTryAgainLaterRetry => .ok current
  | .recordInsufficientFeeRetry => .ok current
  | .isTransactionExpired _ => .ok false
  | .exceedsMaxLifetime _ => .ok false
  | .recoveryDue _ => .ok false
  | .resubmitDue _ => .ok false
  | .claimLane => true
  | .process data => .ok { data with sequenceNumber := some sequence }
  | .signTransaction _ => .ok (some "signature")
  | .sendTransactionWithStatus _ => .ok response
  | .parseHash _ => .ok ()
  | .getNetworkTransaction _ => .ok ⟨"NOT_FOUND", none, none, none, none, none, none⟩
  | .syncSequenceFromChain => .ok ()
  | .submitJob _ => .ok ()
  | .transactionRequestJob => .ok ()
  | .notificationJob => .ok ()
  | .enqueueNextPendingTransaction => .ok ()
  | .freeLane => ()
  | .acknowledge => ()

/-- Delivers a job and answers all its calls. -/
def deliver (number : ℕ) (job : Job) (calls : ℕ)
    (answers : (request : Request) → Answer request) :
    List (Action Request Answer Event Delivery) :=
  .start ⟨number, job⟩ :: List.replicate calls (.advance number answers 0)

/-- The payment is prepared, submitted and included. -/
def paymentActions : List (Action Request Answer Event Delivery) :=
  deliver 0 .prepare 7 (paymentAnswers samplePayment 5 pendingResponse) ++
  deliver 1 .submit 6 (paymentAnswers (preparedPayment samplePayment 5) 5 pendingResponse) ++
  [.occur (.include 0 true) 0]

theorem stellarJobs_succeed_at_most_once_payment :
    ∃ config : Jobs.Config,
      (disciplinedJobs ⟨true, true⟩).Reachable (initial samplePayment 4 0) config ∧
      config.state.ledger.succeeded = [signedPayment 5] ∧
      config.state.ledger.succeeded.length ≤ 1 := by
  have hexecute : ((disciplinedJobs ⟨true, true⟩).execute (initial samplePayment 4 0)
      paymentActions).map (fun config => config.state.ledger.succeeded) =
      some [signedPayment 5] := by
    decide +kernel
  obtain ⟨config, hrun, hsucceeded⟩ := System.reachable_of_execute hexecute
  exact ⟨config, hrun, hsucceeded, stellarJobs_succeed_at_most_once ⟨rfl, rfl, rfl⟩ hrun⟩

/-- A second submission of the included payment is told `txBadSeq`; the record is reset
and prepared again. -/
def duplicateActions : List (Action Request Answer Event Delivery) :=
  let sent := preparedPayment samplePayment 5
  let submitted := submittedPayment sent
  let reset := resetPayment submitted
  paymentActions ++
  deliver 2 .submit 6 (paymentAnswers submitted 5 badSequenceResponse) ++
  deliver 3 .prepare 7 (paymentAnswers reset 6 pendingResponse) ++
  deliver 4 .submit 6 (paymentAnswers (preparedPayment reset 6) 6 pendingResponse) ++
  [.occur (.include 1 true) 0]

/-- The payment is made twice. -/
theorem stellarJobs_succeed_twice :
    ∃ config : Jobs.Config, Fresh samplePayment ∧
      (jobs ⟨true, true⟩).Reachable (initial samplePayment 4 0) config ∧
      config.state.ledger.succeeded = [signedPayment 5, signedPayment 6] ∧
      ¬ config.state.ledger.succeeded.length ≤ 1 := by
  have hexecute : ((jobs ⟨true, true⟩).execute (initial samplePayment 4 0)
      duplicateActions).map (fun config => config.state.ledger.succeeded) =
      some [signedPayment 5, signedPayment 6] := by
    decide +kernel
  obtain ⟨config, hreachable, hsucceeded⟩ := System.reachable_of_execute hexecute
  refine ⟨config, ⟨rfl, rfl, rfl⟩, hreachable, hsucceeded, ?_⟩
  rw [hsucceeded]
  decide

end Payment

end Relayer.StellarLifecycleRuns
