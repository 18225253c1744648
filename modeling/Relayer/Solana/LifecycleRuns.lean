import Relayer.Core.Protocol
import Relayer.Solana.Lifecycle

/-!
# Interleaved Solana jobs

Any number of jobs of one transaction run against its stored record, in any order and
more than once.  A message that others have signed as well must reach the network as it was
given.
-/

namespace Relayer.SolanaLifecycleRuns

open Relayer.Transaction Relayer.Interaction Relayer.Interleaving
open Relayer.SolanaMessage Relayer.SolanaLifecycle

/-! ## The system -/

structure Delivery where
  number : ℕ
  job : Job
  deriving DecidableEq

/-- The record, the payloads handed to the network, and whether a resubmission was queued. -/
structure Shared where
  record : TransactionRepoModel
  sent : List SolanaTransaction
  resubmitQueued : Bool

/-- Whose jobs run, and whether the repository keeps the status of finished transactions, as
Redis does. -/
structure Settings where
  relayer : SolanaRelayerTransaction
  keepsFinal : Bool

def Shared.update (settings : Settings) (shared : Shared)
    (update : TransactionUpdateRequest) : Shared :=
  if settings.keepsFinal && shared.record.status.isFinalState && update.status.isSome then
    shared
  else { shared with record := shared.record.applyPartialUpdate update }

def Shared.send (shared : Shared) (payload : SolanaTransaction) : Shared :=
  { shared with sent := payload :: shared.sent }

def Shared.queueResubmit (shared : Shared) : Shared := { shared with resubmitQueued := true }

def serve (settings : Settings) (shared : Shared) :
    (request : Request) → Answer request → List Shared
  | .getTransaction, answer => readFrom shared shared.record answer
  | .partialUpdate update, answer =>
      let after := shared.update settings update
      written shared after after.record answer
  | .sendTransaction payload, _ => [shared.send payload]
  | .resubmitJob, answer => written shared shared.queueResubmit () answer
  | _, _ => [shared]

/-- Jobs are delivered at any time, and may be lost. -/
def jobs (settings : Settings) : System Request Answer Shared Empty Delivery Outcome where
  launch delivery := some (runJob settings.relayer delivery.job)
  serve shared _ := serve settings shared
  occur _ event := nomatch event
  crash shared _ := some shared

def initial (record : TransactionRepoModel) : Config Request Answer Shared Delivery Outcome :=
  ⟨⟨record, [], false⟩, []⟩

/-- What a read told is good. -/
def Told (good : TransactionRepoModel → Prop) : (request : Request) → Answer request → Prop
  | .getTransaction, answer => ∀ told, answer = .ok told → good told
  | _, _ => True

section Serving

variable {settings : Settings} {shared after : Shared}

theorem update_cases (settings : Settings) (shared : Shared) (update : TransactionUpdateRequest) :
    shared.update settings update = shared ∨
      shared.update settings update =
        { shared with record := shared.record.applyPartialUpdate update } := by
  rw [Shared.update]
  split
  · exact .inl rfl
  · exact .inr rfl

/-- What one call does to the state: it writes, sends, queues, or leaves it as it is. -/
theorem serve_cases {request : Request} {answer : Answer request}
    (hafter : after ∈ serve settings shared request answer) :
    Told (· = shared.record) request answer ∧
      (after = shared ∨
        (∃ update, request = .partialUpdate update ∧
          after = { shared with record := shared.record.applyPartialUpdate update }) ∨
        (∃ payload, request = .sendTransaction payload ∧ after = shared.send payload) ∨
        (request = .resubmitJob ∧ after = shared.queueResubmit)) := by
  cases request with
  | getTransaction =>
      obtain ⟨rfl, htold⟩ := mem_readFrom.mp hafter
      exact ⟨htold, .inl rfl⟩
  | partialUpdate update =>
      rcases mem_written hafter with ⟨rfl, -⟩ | ⟨rfl, -⟩
      · exact ⟨trivial, (update_cases settings shared update).imp_right
          fun hchanged => .inl ⟨update, rfl, hchanged⟩⟩
      · exact ⟨trivial, .inl rfl⟩
  | sendTransaction payload =>
      exact ⟨trivial, .inr (.inr (.inl ⟨payload, rfl, List.mem_singleton.mp hafter⟩))⟩
  | resubmitJob =>
      rcases mem_written hafter with ⟨rfl, -⟩ | ⟨rfl, -⟩
      · exact ⟨trivial, .inr (.inr (.inr ⟨rfl, rfl⟩))⟩
      · exact ⟨trivial, .inl rfl⟩
  | _ => exact ⟨trivial, .inl (List.mem_singleton.mp hafter)⟩

end Serving

/-! ## Messages that others have signed -/

/-- The record holds a payload with the message. -/
def Holds (message : Message) (data : SolanaTransactionData) : Prop :=
  ∃ payload, data.transaction = some (.ok payload) ∧ payload.message = message

/-- Calls that keep the message: no other message is sent or stored, and a resubmission is
queued only for a single signer. -/
def Keeps (message : Message) : Request → Prop
  | .sendTransaction payload => payload.message = message
  | .partialUpdate update => ∀ data, update.networkData = some data → Holds message data
  | .resubmitJob => message.header.numRequiredSignatures ≤ 1
  | _ => True

section Calls

variable {transaction : TransactionRepoModel} {message : Message}

theorem decode_of_holds (hholds : Holds message transaction.networkData) :
    ∃ payload, decodeSolanaTransaction transaction = .ok payload ∧ payload.message = message := by
  obtain ⟨payload, hpayload, hmessage⟩ := hholds
  refine ⟨payload, ?_, hmessage⟩
  rw [decodeSolanaTransaction, hpayload]
  rfl

/-- A signature changes no message. -/
theorem withSignature_eq_ok {unsigned signed : SolanaTransaction} {signature : Signature}
    (hsigned : withSignature unsigned signature = .ok signed) :
    signed.message = unsigned.message := by
  rw [withSignature] at hsigned
  split at hsigned
  · cases hsigned
  · cases hsigned
    rfl

theorem keeps_statusUpdate {status : TransactionStatus} {reason : Option String} :
    Keeps message (.partialUpdate { status := some status, statusReason := reason }) :=
  fun _ hdata => nomatch hdata

theorem callsOnly_failTransactionWithNotification {error : TransactionError} :
    (failTransactionWithNotification error).CallsOnly (Keeps message) := by
  refine ⟨keeps_statusUpdate, fun answer => ?_⟩
  cases answer with
  | error error => trivial
  | ok updated => exact ⟨trivial, fun _ => trivial⟩

theorem callsOnly_rejectSubmission (error : SolanaProviderError) :
    (rejectSubmission error).CallsOnly (Keeps message) := by
  rw [rejectSubmission]
  split
  · trivial
  · exact callsOnly_failTransactionWithNotification

theorem callsOnly_concludeSubmission {decoded : SolanaTransaction}
    (answer : Except SolanaProviderError Signature) :
    (concludeSubmission transaction decoded answer).CallsOnly (Keeps message) := by
  unfold concludeSubmission
  split
  · trivial
  · split
    · trivial
    · exact callsOnly_rejectSubmission _
  · exact callsOnly_rejectSubmission _
  · split
    · trivial
    · exact ⟨fun _ hdata => (nomatch hdata), fun _ => ⟨trivial, fun _ => trivial⟩⟩

theorem callsOnly_storeSigned {data : SolanaTransactionData} {signature : Signature}
    {signed : SolanaTransaction} (hsigned : signed.message = message) :
    (storeSigned data signature signed).CallsOnly (Keeps message) := by
  refine ⟨?_, fun written => ?_⟩
  · intro stored hstored
    cases hstored
    exact ⟨signed, rfl, hsigned⟩
  · cases written with
    | error error => trivial
    | ok updated =>
        refine ⟨trivial, fun queued => ?_⟩
        cases queued with
        | error error => trivial
        | ok _ => exact ⟨trivial, fun _ => trivial⟩

theorem callsOnly_signAndStore {data : SolanaTransactionData} {built : SolanaTransaction}
    (hbuilt : built.message = message) :
    (signAndStore data built).CallsOnly (Keeps message) := by
  refine ⟨trivial, fun answer => ?_⟩
  cases answer with
  | error error => trivial
  | ok signature =>
      dsimp only [Program.bind]
      split
      · trivial
      · next signed hsigned =>
          exact callsOnly_storeSigned ((withSignature_eq_ok hsigned).trans hbuilt)

theorem callsOnly_prepareTransaction {relayer : SolanaRelayerTransaction}
    (hholds : Holds message transaction.networkData) :
    (prepareTransaction relayer transaction).CallsOnly (Keeps message) := by
  obtain ⟨payload, hpayload, hmessage⟩ := hholds
  rw [prepareTransaction]
  split
  · trivial
  · rw [buildOrDecode, hpayload]
    refine ⟨trivial, fun answer => ?_⟩
    cases answer with
    | error invalid =>
        dsimp only [Program.bind]
        split
        · trivial
        · exact callsOnly_failTransactionWithNotification
    | ok _ => exact callsOnly_signAndStore hmessage

theorem callsOnly_submitTransaction (hholds : Holds message transaction.networkData) :
    (submitTransaction transaction).CallsOnly (Keeps message) := by
  obtain ⟨payload, hdecode, hmessage⟩ := decode_of_holds hholds
  rw [submitTransaction, hdecode]
  split
  · trivial
  · exact ⟨hmessage, callsOnly_concludeSubmission⟩

theorem callsOnly_markAsExpired {reason : String} :
    (markAsExpired reason).CallsOnly (Keeps message) := by
  refine ⟨keeps_statusUpdate, fun answer => ?_⟩
  cases answer <;> trivial

theorem callsOnly_updateAndSendNotification {update : TransactionUpdateRequest}
    (hupdate : Keeps message (.partialUpdate update)) :
    (updateAndSendNotification update).CallsOnly (Keeps message) := by
  refine ⟨hupdate, fun answer => ?_⟩
  cases answer with
  | error error => trivial
  | ok updated => exact ⟨trivial, fun _ => trivial⟩

theorem callsOnly_markAsFailed {reason : String} :
    (markAsFailed reason).CallsOnly (Keeps message) :=
  callsOnly_updateAndSendNotification keeps_statusUpdate

theorem callsOnly_updateTransactionStatusIfNeeded {latest : TransactionRepoModel}
    {status : TransactionStatus} :
    (updateTransactionStatusIfNeeded latest status).CallsOnly (Keeps message) := by
  rw [updateTransactionStatusIfNeeded]
  split
  · exact callsOnly_updateAndSendNotification keeps_statusUpdate
  · trivial

theorem callsOnly_hasExceededTimeout :
    (hasExceededTimeout transaction).CallsOnly (Keeps message) := by
  refine ⟨trivial, fun age => ?_⟩
  cases age <;> trivial

theorem callsOnly_handlePendingStatus :
    (handlePendingStatus transaction).CallsOnly (Keeps message) := by
  refine ⟨trivial, fun expired => ?_⟩
  cases expired with
  | true => exact callsOnly_markAsExpired
  | false =>
      apply callsOnly_hasExceededTimeout.bind
      intro overdue
      cases overdue with
      | error error => trivial
      | ok overdue =>
          cases overdue with
          | true => exact callsOnly_markAsFailed
          | false =>
              refine ⟨trivial, fun age => ?_⟩
              cases age with
              | none => trivial
              | some age =>
                  dsimp only [Program.bind]
                  split
                  · trivial
                  · refine ⟨trivial, fun queued => ?_⟩
                    cases queued <;> trivial

theorem callsOnly_checkAnySignatureOnChain (hashes : List String) :
    (checkAnySignatureOnChain hashes).CallsOnly (Keeps message) := by
  induction hashes with
  | nil => trivial
  | cons text rest ih =>
      rw [checkAnySignatureOnChain]
      split
      · exact ih
      · refine ⟨trivial, fun answer => ?_⟩
        cases answer with
        | ok status => trivial
        | error error => exact ih

/-- The check that keeps messages with several signers from being queued. -/
theorem callsOnly_resubmitOrExpire {decoded : SolanaTransaction}
    (hdecoded : decoded.message = message) :
    (resubmitOrExpire transaction decoded).CallsOnly (Keeps message) := by
  rw [resubmitOrExpire]
  split
  · next hsingle =>
      refine ⟨?_, fun queued => ?_⟩
      · rw [Keeps, ← hdecoded]
        exact of_decide_eq_true hsingle
      · cases queued <;> trivial
  · exact callsOnly_markAsExpired

theorem callsOnly_resubmitIfExpired (hholds : Holds message transaction.networkData) :
    (resubmitIfExpired transaction).CallsOnly (Keeps message) := by
  obtain ⟨payload, hdecode, hmessage⟩ := decode_of_holds hholds
  rw [resubmitIfExpired, hdecode]
  refine ⟨trivial, fun answer => ?_⟩
  cases answer with
  | ok valid =>
      cases valid with
      | true => trivial
      | false => exact callsOnly_resubmitOrExpire hmessage
  | error error =>
      cases error with
      | blockhashNotFound _ => exact callsOnly_resubmitOrExpire hmessage
      | _ => trivial

theorem callsOnly_followOnChain (hholds : Holds message transaction.networkData) :
    (followOnChain transaction).CallsOnly (Keeps message) := by
  refine ⟨trivial, fun age => ?_⟩
  cases age with
  | none => trivial
  | some age =>
      dsimp only [Program.bind]
      split
      · trivial
      · apply (callsOnly_checkAnySignatureOnChain transaction.hashes).bind
        intro found
        cases found with
        | none => exact callsOnly_resubmitIfExpired hholds
        | some found =>
            apply callsOnly_updateAndSendNotification
            intro data hdata
            cases hdata
            exact hholds

theorem callsOnly_handleResubmitOrExpiration (hholds : Holds message transaction.networkData) :
    (handleResubmitOrExpiration transaction).CallsOnly (Keeps message) := by
  refine ⟨trivial, fun expired => ?_⟩
  cases expired with
  | true => exact callsOnly_markAsExpired
  | false =>
      dsimp only [Program.bind]
      split
      · next hexpired => cases hexpired
      · split
        · split
          · exact callsOnly_markAsFailed
          · exact callsOnly_followOnChain hholds
        · apply callsOnly_hasExceededTimeout.bind
          intro overdue
          cases overdue with
          | error error => trivial
          | ok overdue =>
              cases overdue with
              | true => exact callsOnly_markAsFailed
              | false => exact callsOnly_followOnChain hholds

theorem callsOnly_handleDetectedStatus {detected : TransactionStatus}
    (hholds : Holds message transaction.networkData) :
    (handleDetectedStatus transaction detected).CallsOnly (Keeps message) := by
  unfold handleDetectedStatus
  split
  · exact callsOnly_handlePendingStatus
  · exact callsOnly_handleResubmitOrExpiration hholds
  · exact callsOnly_handleResubmitOrExpiration hholds
  · exact callsOnly_updateTransactionStatusIfNeeded

theorem callsOnly_checkOnchainTransactionStatus :
    (checkOnchainTransactionStatus transaction).CallsOnly (Keeps message) := by
  rw [checkOnchainTransactionStatus]
  split
  · trivial
  · split
    · trivial
    · split
      · trivial
      · refine ⟨trivial, fun answer => ?_⟩
        cases answer <;> trivial

/-- The record holds the message whenever it is read, and no resubmission reads it. -/
def keeper (message : Message) (delivery : Delivery) : Protocol Request Answer Unit where
  allowed _ := Keeps message
  possible _ := Told fun told =>
    Holds message told.networkData ∧ delivery.job ≠ .resubmit
  remember _ _ _ := ()

variable {delivery : Delivery} {A : Type}

theorem follows_of_callsOnly {program : Step A} (hcalls : program.CallsOnly (Keeps message)) :
    program.Follows (keeper message delivery) (fun _ _ => True) () :=
  hcalls.follows (keeper message delivery) (fun _ => True)
    (fun _ _ hkeeps _ => ⟨hkeeps, fun _ _ => trivial⟩) trivial

theorem follows_handleNews {detected : TransactionStatus}
    (hholds : Holds message transaction.networkData) :
    (handleNews transaction detected).Follows (keeper message delivery) (fun _ _ => True) () := by
  rw [handleNews]
  split
  · exact follows_of_callsOnly (callsOnly_handleDetectedStatus hholds)
  · refine ⟨trivial, fun answer hanswer => ?_⟩
    cases answer with
    | error error => trivial
    | ok latest =>
        exact follows_of_callsOnly (callsOnly_handleDetectedStatus (hanswer latest rfl).1)

theorem follows_handleTransactionStatus {context : Option StatusCheckContext}
    (hholds : Holds message transaction.networkData) :
    (handleTransactionStatus context transaction).Follows (keeper message delivery)
      (fun _ _ => True) () := by
  rw [handleTransactionStatus]
  split
  · trivial
  · split
    · exact follows_of_callsOnly callsOnly_markAsFailed
    · apply (follows_of_callsOnly callsOnly_checkOnchainTransactionStatus).bind
      intro _ detected _
      cases detected with
      | error error => trivial
      | ok detected => exact follows_handleNews hholds

theorem follows_runJob (relayer : SolanaRelayerTransaction) (delivery : Delivery) :
    (runJob relayer delivery.job).Follows (keeper message delivery) (fun _ _ => True) () := by
  refine ⟨trivial, fun answer hanswer => ?_⟩
  cases answer with
  | error error => trivial
  | ok told =>
      obtain ⟨hholds, hother⟩ := hanswer told rfl
      cases hjob : delivery.job with
      | prepare => exact follows_of_callsOnly (callsOnly_prepareTransaction hholds)
      | submit => exact follows_of_callsOnly (callsOnly_submitTransaction hholds)
      | resubmit => exact absurd hjob hother
      | status context => exact follows_handleTransactionStatus hholds

end Calls

/-- Resubmissions read the record only once one was queued. -/
def queuedOnly (shared : Shared) (delivery : Delivery) : Request → Bool
  | .getTransaction => delivery.job ≠ .resubmit || shared.resubmitQueued
  | _ => true

structure Untouched (message : Message) (shared : Shared) : Prop where
  holds : Holds message shared.record.networkData
  sent : ∀ payload ∈ shared.sent, payload.message = message
  unqueued : shared.resubmitQueued = false

theorem Untouched.serve {settings : Settings} {message : Message} {shared after : Shared}
    (hmulti : 1 < message.header.numRequiredSignatures) (huntouched : Untouched message shared)
    {request : Request} {answer : Answer request} (hkeeps : Keeps message request)
    (hafter : after ∈ SolanaLifecycleRuns.serve settings shared request answer) :
    Untouched message after := by
  rcases (serve_cases hafter).2 with
    rfl | ⟨update, rfl, rfl⟩ | ⟨payload, rfl, rfl⟩ | ⟨rfl, rfl⟩
  · exact huntouched
  · refine ⟨?_, huntouched.sent, huntouched.unqueued⟩
    cases hdata : update.networkData with
    | none =>
        simp only [TransactionRepoModel.applyPartialUpdate, hdata]
        exact huntouched.holds
    | some data =>
        simp only [TransactionRepoModel.applyPartialUpdate, hdata]
        exact hkeeps data hdata
  · refine ⟨huntouched.holds, fun sent hsent => ?_, huntouched.unqueued⟩
    rcases List.mem_cons.mp hsent with rfl | hbefore
    · exact hkeeps
    · exact huntouched.sent sent hbefore
  · exact absurd hmulti (UInt8.not_lt.mpr hkeeps)

theorem upholds_keeper {settings : Settings} {message : Message}
    (hmulti : 1 < message.header.numRequiredSignatures) :
    Upholds ((jobs settings).restrict queuedOnly) (keeper message)
      (fun _ _ _ => True) () (Untouched message) (fun _ _ _ => True) where
  launch delivery program hlaunch := by
    cases hlaunch
    exact follows_runJob settings.relayer delivery
  serve delivery memory shared request answer _ huntouched _ hkeeps after hafter := by
    obtain ⟨hadmitted, hserved⟩ := System.mem_serve_restrict.mp hafter
    refine ⟨huntouched.serve hmulti hkeeps hserved, ?_, trivial, fun _ _ _ _ => trivial⟩
    have htold := (serve_cases hserved).1
    cases request with
    | getTransaction =>
        intro told hanswer
        rw [htold told hanswer]
        refine ⟨huntouched.holds, ?_⟩
        simpa [queuedOnly, huntouched.unqueued] using hadmitted
    | _ => trivial
  occur _ event := nomatch event
  crash _ _ _ huntouched hcrash := by
    cases hcrash
    exact ⟨huntouched, trivial, fun _ _ _ _ => trivial⟩

/-- However often jobs are delivered and whatever the network answers, a message with several
signers is sent only as it was given, if resubmissions are those that were queued. -/
theorem multiSigner_messages_kept (settings : Settings) (record : TransactionRepoModel)
    (given : SolanaTransaction) (config : Config Request Answer Shared Delivery Outcome)
    (hgiven : record.networkData.transaction = some (.ok given))
    (hmulti : 1 < given.message.header.numRequiredSignatures)
    (hrun : ((jobs settings).restrict queuedOnly).Reachable (initial record)
      config) :
    ∀ payload ∈ config.state.sent, payload.message = given.message :=
  ((upholds_keeper hmulti).reachable ⟨⟨given, hgiven, rfl⟩, List.forall_mem_nil _, rfl⟩
    (fun _ => trivial) hrun).1.sent

/-! A transfer that the relayer signs first and a second signer has signed. -/

section Transfer

def signatureUnder (blockhash : Pubkey) : Signature :=
  List.replicate 64 (UInt8.ofNat blockhash.value.toNat)

def givenTransfer : SolanaTransaction where
  signatures := [List.replicate 64 0, List.replicate 64 5]
  message := transferMessage 2 ⟨7⟩

/-- The transfer signed by the relayer. -/
def signedTransfer (blockhash : Pubkey) : SolanaTransaction where
  signatures := [signatureUnder blockhash, List.replicate 64 5]
  message := transferMessage 2 blockhash

def pendingTransfer : TransactionRepoModel where
  id := "tx-1"
  status := .pending
  statusReason := none
  networkData := { transaction := some (.ok givenTransfer) }
  hashes := []

def sentTransfer : TransactionRepoModel :=
  { pendingTransfer with
    status := .sent
    networkData :=
      { transaction := some (.ok (signedTransfer ⟨7⟩))
        signature := some (Signature.toText (signatureUnder ⟨7⟩)) } }

def submittedTransfer : TransactionRepoModel :=
  { sentTransfer with
    status := .submitted
    hashes := [Signature.toText (signatureUnder ⟨7⟩)] }

/-- Every call succeeds; the latest blockhash is not that of the transfer. -/
def transferAnswers (current : TransactionRepoModel) : (request : Request) → Answer request
  | .getTransaction => .ok current
  | .partialUpdate update => .ok (current.applyPartialUpdate update)
  | .isValidUntilExpired _ => false
  | .timeSinceSentOrCreatedAt _ => some 100000
  | .validateTransaction _ => .ok ()
  | .sign message => .ok (signatureUnder message.recentBlockhash)
  | .getLatestBlockhash => .ok ⟨8⟩
  | .isBlockhashValid _ => .ok false
  | .sendTransaction payload => .ok (payload.signatures.headD [])
  | .getTransactionStatus _ => .error (.rpcError "Transaction not found")
  | .submitJob => .ok ()
  | .resubmitJob => .ok ()
  | .transactionRequestJob => .ok ()
  | .notificationJob => .ok ()

/-- Delivers a job and answers its calls. -/
def deliver (number : ℕ) (job : Job) (calls : ℕ) (current : TransactionRepoModel) :
    List (Action Request Answer Empty Delivery) :=
  .start ⟨number, job⟩ :: List.replicate calls (.advance number (transferAnswers current) 0)

def transferSettings : Settings where
  relayer := ⟨"11111111111111111111111111111112", fun _ _ => .ok givenTransfer⟩
  keepsFinal := true

/-- The transfer is prepared and sent, and expires with its blockhash. -/
theorem multiSigner_messages_kept_transfer :
    ∃ config, ((jobs transferSettings).restrict queuedOnly).Reachable
        (initial pendingTransfer) config ∧
      config.state.sent = [signedTransfer ⟨7⟩] ∧ config.state.record.status = .expired ∧
      ∀ payload ∈ config.state.sent, payload.message = givenTransfer.message := by
  have hexecute : (((jobs transferSettings).restrict queuedOnly).execute
      (initial pendingTransfer) (deliver 0 .prepare 6 pendingTransfer ++
        deliver 1 .submit 4 sentTransfer ++
        deliver 2 (.status none) 7 submittedTransfer)).map
          (fun config => (config.state.sent, config.state.record.status)) =
      some ([signedTransfer ⟨7⟩], .expired) := by
    decide +kernel
  obtain ⟨config, hrun, hseen⟩ := System.reachable_of_execute hexecute
  obtain ⟨hsent, hstatus⟩ := Prod.mk.inj hseen
  exact ⟨config, hrun, hsent, hstatus,
    multiSigner_messages_kept _ _ givenTransfer config rfl (by decide) hrun⟩

/-- A resubmission that nothing has queued replaces the blockhash under the other signature. -/
theorem multiSigner_message_replaced :
    ∃ config, (jobs transferSettings).Reachable (initial pendingTransfer) config ∧
      pendingTransfer.networkData.transaction = some (.ok givenTransfer) ∧
      1 < givenTransfer.message.header.numRequiredSignatures ∧
      ∃ payload ∈ config.state.sent, payload.message ≠ givenTransfer.message := by
  have hexecute : ((jobs transferSettings).execute
      (initial pendingTransfer) (deliver 0 .prepare 6 pendingTransfer ++
        deliver 1 .resubmit 5 sentTransfer)).map (·.state.sent) =
      some [signedTransfer ⟨8⟩] := by
    decide +kernel
  obtain ⟨config, hreachable, hsent⟩ := System.reachable_of_execute hexecute
  refine ⟨config, hreachable, rfl, by decide, signedTransfer ⟨8⟩, ?_, by decide +kernel⟩
  rw [hsent]
  exact List.mem_singleton_self _

end Transfer

end Relayer.SolanaLifecycleRuns
