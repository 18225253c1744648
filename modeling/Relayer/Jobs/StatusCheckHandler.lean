import Relayer.Api.Relayers
import Relayer.Repositories.Counters

/-!
# The job that checks a transaction

The handler of status checks reads the transaction, builds the service of its relayer, has
that service check the transaction, and turns the outcome into the end of the job or into
another attempt.  The check itself is one call here, so every outcome of it is possible.
-/

namespace Relayer.StatusCheckJob

open Relayer.Interaction
open Relayer.Policies
open Relayer.RelayerModel
open Relayer.Relayers (apiErrorText)
open Relayer.Transaction
open Relayer.TransactionRecord

/-! ## The code -/

def getMaxConsecutiveStatusFailures : RelayerNetworkType → ℕ
  | .evm => 25
  | .stellar => 100
  | .solana => 38

def getMaxTotalStatusFailures : RelayerNetworkType → ℕ
  | .evm => 75
  | .stellar => 300
  | .solana => 115

structure TransactionStatusCheck where
  transactionId : String
  relayerId : String
  metadata : Option (List (String × String))
  deriving DecidableEq, Repr

/-- The counters of a check with what else the service is told. -/
structure CheckContext where
  counters : StatusCheckContext
  totalRetries : UInt32
  networkType : RelayerNetworkType
  jobMetadata : Option (List (String × String))
  deriving DecidableEq, Repr

section Code

variable {Data : Type}

/-- A stored transaction with the type of its network. -/
structure StoredTransaction (Data : Type) where
  networkType : RelayerNetworkType
  record : TransactionRepoModel Data
  deriving DecidableEq, Repr

/-- What the handler asks for.  A signer is known by its id, and the service of a relayer by
the relayer and its signer. -/
inductive Request (Data : Type) where
  | getTransaction (id : String)
  | getRelayer (id : String)
  | getSigner (id : String)
  | createTransaction (relayer : RelayerRepoModel) (signer : String)
  | handleTransactionStatus (relayer : RelayerRepoModel) (signer : String)
      (tx : StoredTransaction Data) (context : CheckContext)
  | resetStatusCheckConsecutiveFailures (id : String)
  | incrementStatusCheckFailures (id : String)
  deriving DecidableEq

abbrev Answer : Request Data → Type
  | .getTransaction _ => Except RepositoryError (StoredTransaction Data)
  | .getRelayer _ => Except RepositoryError RelayerRepoModel
  | .getSigner _ => Except RepositoryError String
  | .createTransaction .. => Except TransactionError Unit
  | .handleTransactionStatus .. => Except TransactionError (StoredTransaction Data)
  | .resetStatusCheckConsecutiveFailures _ => Except RepositoryError Unit
  | .incrementStatusCheckFailures _ => Except RepositoryError Unit

/-- `From<TransactionError> for ApiError`. -/
def apiErrorOfTransaction : TransactionError → ApiError
  | .validationError message | .solanaValidation message | .notSupported message
  | .insufficientBalance message | .simulationFailed message => .badRequest message
  | .stellarTransactionValidationError error => .badRequest error.toText
  | .networkConfiguration message | .jobProducerError message | .invalidType message
  | .underlyingProvider message | .underlyingSolanaProvider message
  | .unexpectedError message | .concurrentUpdateConflict message | .signerError message =>
      .internalError message

/-- An error as the handler passes it on: a text, or an error of one of two kinds. -/
inductive Report where
  | message (text : String)
  | api (error : ApiError)
  | transaction (error : TransactionError)
  deriving DecidableEq, Repr

def Report.toText : Report → String
  | message text => text
  | api error => apiErrorText error
  | transaction error => error.toText

/-- Only an error of a transaction can be found to be a conflict. -/
def Report.isConcurrentUpdateConflict : Report → Bool
  | transaction (.concurrentUpdateConflict _) => true
  | _ => false

inductive HandlerError where
  | retry (message : String)
  | abort (message : String)
  | notYetFinal (status : TransactionStatus)
  deriving DecidableEq, Repr

structure HandleRequestResult (Data : Type) where
  result : Except Report (StoredTransaction Data)
  metadata : Option TransactionMetadata
  shouldRetryOnError : Bool

def getRelayerTransaction (relayerId : String) :
    Task (Request Data) Answer ApiError (RelayerRepoModel × String) := do
  let found ← Task.ask (Request.getRelayer relayerId)
  let relayer ← Task.ofExcept (found.mapError apiErrorOfRepository)
  let found ← Task.ask (Request.getSigner relayer.signerId)
  let signer ← Task.ofExcept (found.mapError apiErrorOfRepository)
  let created ← Task.ask (Request.createTransaction relayer signer)
  Task.ofExcept (created.mapError apiErrorOfTransaction)
  return (relayer, signer)

def checkContext (check : TransactionStatusCheck) (attempt : ℕ) (tx : StoredTransaction Data) :
    CheckContext where
  counters :=
    { consecutiveFailures := tx.record.counters.consecutiveFailures.toNat
      totalFailures := tx.record.counters.totalFailures.toNat
      maxConsecutiveFailures := getMaxConsecutiveStatusFailures tx.networkType
      maxTotalFailures := getMaxTotalStatusFailures tx.networkType }
  totalRetries := UInt32.ofNat attempt
  networkType := tx.networkType
  jobMetadata := check.metadata

def handleRequest (check : TransactionStatusCheck) (attempt : ℕ) :
    Program (Request Data) Answer (HandleRequestResult Data) := do
  let found ← Program.ask (Request.getTransaction check.transactionId)
  match found.mapError apiErrorOfRepository with
  | .error (.notFound text) =>
      return ⟨.error (.message s!"Transaction not found: {text}"), none, false⟩
  | .error error => return ⟨.error (.api error), none, true⟩
  | .ok tx =>
      match ← (getRelayerTransaction check.relayerId).run with
      | .error (.notFound text) =>
          return ⟨.error (.message s!"Relayer or signer not found: {text}"),
            some tx.record.counters, false⟩
      | .error error => return ⟨.error (.api error), some tx.record.counters, true⟩
      | .ok (relayer, signer) =>
          let checked ← Program.ask
            (Request.handleTransactionStatus relayer signer tx (checkContext check attempt tx))
          return ⟨checked.mapError .transaction, some tx.record.counters, true⟩

/-- The counters are updated in the repository, and a failure to do so is only logged. -/
def handleResult (txId : String) (request : HandleRequestResult Data) :
    Program (Request Data) Answer (Except HandlerError Unit) :=
  match request.result with
  | .ok tx =>
      if tx.record.status.isFinalState then return .ok ()
      else do
        match tx.record.metadata.or request.metadata with
        | some metadata =>
            if 0 < metadata.consecutiveFailures then
              let _ ← Program.ask (Request.resetStatusCheckConsecutiveFailures txId)
        | none => pure ()
        return .error (.notYetFinal tx.record.status)
  | .error error =>
      if error.isConcurrentUpdateConflict then return .ok ()
      else if !request.shouldRetryOnError then return .ok ()
      else do
        if request.metadata.isSome then
          let _ ← Program.ask (Request.incrementStatusCheckFailures txId)
        return .error (.retry error.toText)

def transactionStatusHandler (check : TransactionStatusCheck) (attempt : ℕ) :
    Program (Request Data) Answer (Except HandlerError Unit) := do
  let request ← handleRequest check attempt
  handleResult check.transactionId request

/-! ## When the job ends -/

/-- The outside world as one run of the handler meets it.  The handler asks for nothing
twice. -/
abbrev World (Data : Type) := (request : Request Data) → Answer request

/-- How a run ends, and the calls it makes. -/
def runHandler (world : World Data) (check : TransactionStatusCheck) (attempt : ℕ) :
    Except HandlerError Unit × List (Request Data) :=
  (transactionStatusHandler check attempt).run (fun _ => world) 0

/-- The transaction, the relayer or the signer was asked for and does not exist. -/
def Missing (world : World Data) : Request Data → Prop
  | .getTransaction id => ∃ text, world (.getTransaction id) = .error (.notFound text)
  | .getRelayer id => ∃ text, world (.getRelayer id) = .error (.notFound text)
  | .getSigner id => ∃ text, world (.getSigner id) = .error (.notFound text)
  | _ => False

/-- The service was asked to check the transaction `tx`, with this outcome. -/
def Checked (world : World Data) (calls : List (Request Data)) (tx : StoredTransaction Data)
    (outcome : Except TransactionError (StoredTransaction Data)) : Prop :=
  ∃ relayer signer context, .handleTransactionStatus relayer signer tx context ∈ calls ∧
    world (.handleTransactionStatus relayer signer tx context) = outcome

/-- How a job ends, and how it counts its failures. -/
structure WatchesTransaction (world : World Data) (id : String) (outcome : Except HandlerError Unit)
    (calls : List (Request Data)) : Prop where
  ends : outcome = .ok () ↔
    (∃ tx checked, Checked world calls tx (.ok checked) ∧
        checked.record.status.isFinalState = true) ∨
      (∃ request ∈ calls, Missing world request) ∨
      ∃ tx text, Checked world calls tx (.error (.concurrentUpdateConflict text))
  retries : ∀ error, outcome = .error error → ∀ text, error ≠ .abort text
  increments : ∀ txId, .incrementStatusCheckFailures txId ∈ calls ↔
    txId = id ∧ (∃ tx, world (.getTransaction id) = .ok tx) ∧
      ∃ text, outcome = .error (.retry text)
  resets : ∀ txId, .resetStatusCheckConsecutiveFailures txId ∈ calls ↔
    txId = id ∧ ∃ tx checked, Checked world calls tx (.ok checked) ∧
      checked.record.status.isFinalState = false ∧
      0 < (checked.record.metadata.getD tx.record.counters).consecutiveFailures
  once : calls.Nodup

/-! ## Lookups -/

variable {world : World Data} {check : TransactionStatusCheck} {n : ℕ}
  {tx : StoredTransaction Data} {calls : List (Request Data)}

/-- Calls that look up the relayer, its signer and its service, between the call that reads
the transaction and those that check and count. -/
inductive Phase where
  | read
  | lookup
  | later
  deriving DecidableEq

def Request.phase : Request Data → Phase
  | .getTransaction _ => .read
  | .getRelayer _ | .getSigner _ | .createTransaction .. => .lookup
  | _ => .later

/-- A run of the lookups of the relayer, its signer and its service. -/
def runLookups (world : World Data) (relayerId : String) :
    Except ApiError (RelayerRepoModel × String) × List (Request Data) :=
  Task.exec (fun _ => world) (getRelayerTransaction relayerId) 1

theorem apiErrorOfRepository_notFound_iff {error : RepositoryError} :
    (∃ text, apiErrorOfRepository error = .notFound text) ↔ ∃ text, error = .notFound text := by
  cases error <;> simp [apiErrorOfRepository]

theorem apiErrorOfTransaction_found (error : TransactionError) (text : String) :
    apiErrorOfTransaction error ≠ .notFound text := by
  cases error <;> simp [apiErrorOfTransaction]

theorem isConcurrentUpdateConflict_iff {error : TransactionError} :
    (Report.transaction error).isConcurrentUpdateConflict = true ↔
      ∃ text, error = .concurrentUpdateConflict text := by
  cases error <;> simp [Report.isConcurrentUpdateConflict]

structure LookupsDone (world : World Data)
    (ran : Except ApiError (RelayerRepoModel × String) × List (Request Data)) : Prop where
  missing : (∃ text, ran.1 = .error (.notFound text)) ↔ ∃ request ∈ ran.2, Missing world request
  lookups : ∀ request ∈ ran.2, request.phase = .lookup
  once : ran.2.Nodup

/-- The handler makes no call twice. -/
theorem LookupsDone.nodup
    {ran : Except ApiError (RelayerRepoModel × String) × List (Request Data)}
    (hdone : LookupsDone world ran) (id : String) {rest : List (Request Data)}
    (hlater : ∀ request ∈ rest, request.phase = .later) (hrest : rest.Nodup) :
    (.getTransaction id :: (ran.2 ++ rest)).Nodup := by
  refine List.nodup_cons.mpr ⟨?_, List.nodup_append.mpr ⟨hdone.once, hrest, ?_⟩⟩
  · intro hmem
    rcases List.mem_append.mp hmem with hlookup | hlast
    · cases hdone.lookups _ hlookup
    · cases hlater _ hlast
  · rintro request hlookup _ hlast rfl
    cases (hdone.lookups request hlookup).symm.trans (hlater request hlast)

theorem runLookups_done (world : World Data) (relayerId : String) :
    LookupsDone world (runLookups world relayerId) := by
  cases hrelayer : world (.getRelayer relayerId) with
  | error error =>
      have hran : runLookups world relayerId =
          (.error (apiErrorOfRepository error), [.getRelayer relayerId]) := by
        simp [runLookups, getRelayerTransaction, Task.exec_bind, hrelayer, Except.mapError]
      rw [hran]
      refine ⟨?_, by simp [Request.phase], by simp⟩
      simp [Missing, hrelayer, apiErrorOfRepository_notFound_iff]
  | ok relayer =>
      cases hsigner : world (.getSigner relayer.signerId) with
      | error error =>
          have hran : runLookups world relayerId = (.error (apiErrorOfRepository error),
              [.getRelayer relayerId, .getSigner relayer.signerId]) := by
            simp [runLookups, getRelayerTransaction, Task.exec_bind, hrelayer, hsigner,
              Except.mapError]
          rw [hran]
          refine ⟨?_, by simp [Request.phase], by simp⟩
          simp [Missing, hrelayer, hsigner, apiErrorOfRepository_notFound_iff]
      | ok signer =>
          have hmissing : ¬ ∃ request ∈ [Request.getRelayer relayerId,
              .getSigner relayer.signerId, .createTransaction relayer signer],
                Missing world request := by
            simp [Missing, hrelayer, hsigner]
          cases hcreated : world (.createTransaction relayer signer) with
          | error error =>
              have hran : runLookups world relayerId = (.error (apiErrorOfTransaction error),
                  [.getRelayer relayerId, .getSigner relayer.signerId,
                    .createTransaction relayer signer]) := by
                simp [runLookups, getRelayerTransaction, Task.exec_bind, hrelayer, hsigner,
                  hcreated, Except.mapError, -bind_pure_comp]
              rw [hran]
              refine ⟨iff_of_false ?_ hmissing, by simp [Request.phase], by simp⟩
              simp [apiErrorOfTransaction_found]
          | ok created =>
              have hran : runLookups world relayerId = (.ok (relayer, signer),
                  [.getRelayer relayerId, .getSigner relayer.signerId,
                    .createTransaction relayer signer]) := by
                simp [runLookups, getRelayerTransaction, Task.exec_bind, hrelayer, hsigner,
                  hcreated, Except.mapError, -bind_pure_comp]
              rw [hran]
              exact ⟨iff_of_false (by simp) hmissing, by simp [Request.phase], by simp⟩

/-! ## Runs of the handler -/

/-- A check without an error ends the job or resets the consecutive failures. -/
theorem run_handleResult_ok (txId : String) (checked : StoredTransaction Data)
    (metadata : TransactionMetadata) (retries : Bool) :
    (handleResult txId ⟨.ok checked, some metadata, retries⟩).run (fun _ => world) n =
      if checked.record.status.isFinalState then (.ok (), [])
      else (.error (.notYetFinal checked.record.status),
        if 0 < (checked.record.metadata.getD metadata).consecutiveFailures then
          [.resetStatusCheckConsecutiveFailures txId]
        else []) := by
  simp only [handleResult]
  cases hmetadata : checked.record.metadata <;> split_ifs <;> simp_all [Program.run_bind]

/-- An error ends the job or is counted. -/
theorem run_handleResult_error (txId : String) (error : Report)
    (metadata : Option TransactionMetadata) (retries : Bool) :
    (handleResult txId (⟨.error error, metadata, retries⟩ : HandleRequestResult Data)).run
        (fun _ => world) n =
      if error.isConcurrentUpdateConflict || !retries then (.ok (), [])
      else (.error (.retry error.toText),
        if metadata.isSome then [.incrementStatusCheckFailures txId] else []) := by
  simp only [handleResult]
  cases error.isConcurrentUpdateConflict <;> cases retries <;> cases metadata <;>
    simp [Program.run_bind]

/-- A job without its transaction ends if that does not exist. -/
theorem run_unread (attempt : ℕ) {error : RepositoryError}
    (hread : world (.getTransaction check.transactionId) = .error error) :
    ((∃ text, error = .notFound text) ∧
        runHandler world check attempt = (.ok (), [.getTransaction check.transactionId])) ∨
      (¬ ∃ text, error = .notFound text) ∧ ∃ text, runHandler world check attempt =
        (.error (.retry text), [.getTransaction check.transactionId]) := by
  rw [← apiErrorOfRepository_notFound_iff]
  simp only [runHandler, transactionStatusHandler, handleRequest, Program.run_bind,
    Program.run_ask, hread, Except.mapError]
  cases apiErrorOfRepository error with
  | notFound text => exact .inl ⟨⟨text, rfl⟩, rfl⟩
  | _ => exact .inr ⟨by simp, _, rfl⟩

/-- A job without the service of its relayer ends if the relayer or its signer does not
exist; another failure is counted. -/
theorem run_lookup_failed (attempt : ℕ) {error : ApiError}
    (hread : world (.getTransaction check.transactionId) = .ok tx)
    (hlookups : runLookups world check.relayerId = (.error error, calls)) :
    ((∃ text, error = .notFound text) ∧ runHandler world check attempt =
        (.ok (), .getTransaction check.transactionId :: calls)) ∨
      (¬ ∃ text, error = .notFound text) ∧ ∃ text, runHandler world check attempt =
        (.error (.retry text), .getTransaction check.transactionId ::
          (calls ++ [.incrementStatusCheckFailures check.transactionId])) := by
  rw [runLookups, Task.exec] at hlookups
  simp only [runHandler, transactionStatusHandler, handleRequest, Program.run_bind,
    Program.run_ask, hread, Except.mapError, hlookups, List.length_singleton, zero_add]
  by_cases hmissing : ∃ text, error = .notFound text
  · obtain ⟨text, rfl⟩ := hmissing
    exact .inl ⟨⟨text, rfl⟩, by simp [run_handleResult_error]⟩
  · refine .inr ⟨hmissing, apiErrorText error, ?_⟩
    cases error with
    | notFound text => exact absurd ⟨text, rfl⟩ hmissing
    | _ => simp [run_handleResult_error, Report.isConcurrentUpdateConflict, Report.toText]

theorem run_checked {attempt : ℕ} {relayer : RelayerRepoModel} {signer : String}
    {outcome : Except TransactionError (StoredTransaction Data)}
    (hread : world (.getTransaction check.transactionId) = .ok tx)
    (hlookups : runLookups world check.relayerId = (.ok (relayer, signer), calls))
    (houtcome : world (.handleTransactionStatus relayer signer tx
      (checkContext check attempt tx)) = outcome) :
    ∃ ended, ended = (handleResult check.transactionId
        ⟨outcome.mapError .transaction, some tx.record.counters, true⟩).run (fun _ => world)
          (1 + calls.length + 1) ∧
      runHandler world check attempt = (ended.1, .getTransaction check.transactionId ::
        (calls ++ .handleTransactionStatus relayer signer tx (checkContext check attempt tx) ::
          ended.2)) := by
  rw [runLookups, Task.exec] at hlookups
  refine ⟨_, rfl, ?_⟩
  simp [runHandler, transactionStatusHandler, handleRequest, Program.run_bind,
    hread, Except.mapError, hlookups, houtcome]

/-! ## What the calls tell -/

section Calls

variable {result : Except ApiError (RelayerRepoModel × String)} {id : String}
  {rest : List (Request Data)} {outcome : Except HandlerError Unit}

theorem LookupsDone.mem_iff (hdone : LookupsDone world (result, calls))
    {request : Request Data} (hlater : request.phase = .later) :
    request ∈ .getTransaction id :: (calls ++ rest) ↔ request ∈ rest := by
  refine ⟨fun hmem => ?_, fun hmem => by simp [hmem]⟩
  rcases List.mem_cons.mp hmem with rfl | hmem
  · cases hlater
  · rcases List.mem_append.mp hmem with hlookup | hrest
    · cases (hdone.lookups request hlookup).symm.trans hlater
    · exact hrest

theorem LookupsDone.checked_iff (hdone : LookupsDone world (result, calls))
    {outcome : Except TransactionError (StoredTransaction Data)} :
    Checked world (.getTransaction id :: (calls ++ rest)) tx outcome ↔
      Checked world rest tx outcome := by
  refine exists_congr fun relayer => exists_congr fun signer => exists_congr fun context => ?_
  rw [hdone.mem_iff rfl]

theorem LookupsDone.missing_iff (hdone : LookupsDone world (result, calls))
    (hlater : ∀ request ∈ rest, request.phase = .later)
    (hread : world (.getTransaction id) = .ok tx) :
    (∃ request ∈ .getTransaction id :: (calls ++ rest), Missing world request) ↔
      ∃ text, result = .error (.notFound text) := by
  have hrest : ∀ request ∈ rest, ¬ Missing world request := by
    intro request hmem hmissing
    have hphase := hlater request hmem
    cases request with
    | getTransaction | getRelayer | getSigner => cases hphase
    | _ => exact hmissing
  rw [hdone.missing]
  constructor
  · rintro ⟨request, hmem, hmissing⟩
    rcases List.mem_cons.mp hmem with rfl | hmem
    · obtain ⟨text, htext⟩ := hmissing
      cases hread.symm.trans htext
    · rcases List.mem_append.mp hmem with hlookup | hmem
      · exact ⟨request, hlookup, hmissing⟩
      · exact absurd hmissing (hrest request hmem)
  · rintro ⟨request, hlookup, hmissing⟩
    exact ⟨request, by simp [hlookup], hmissing⟩

/-- Of a run that has read its transaction, only the calls after the lookups matter. -/
theorem LookupsDone.watches (hdone : LookupsDone world (result, calls))
    (hread : world (.getTransaction id) = .ok tx)
    (hlater : ∀ request ∈ rest, request.phase = .later) (hrest : rest.Nodup)
    (hends : outcome = .ok () ↔
      (∃ tx checked, Checked world rest tx (.ok checked) ∧
          checked.record.status.isFinalState = true) ∨
        (∃ text, result = .error (.notFound text)) ∨
        ∃ tx text, Checked world rest tx (.error (.concurrentUpdateConflict text)))
    (hretries : ∀ error, outcome = .error error → ∀ text, error ≠ .abort text)
    (hincrements : ∀ txId, .incrementStatusCheckFailures txId ∈ rest ↔
      txId = id ∧ ∃ text, outcome = .error (.retry text))
    (hresets : ∀ txId, .resetStatusCheckConsecutiveFailures txId ∈ rest ↔
      txId = id ∧ ∃ tx checked, Checked world rest tx (.ok checked) ∧
        checked.record.status.isFinalState = false ∧
        0 < (checked.record.metadata.getD tx.record.counters).consecutiveFailures) :
    WatchesTransaction world id outcome (.getTransaction id :: (calls ++ rest)) where
  ends := by simpa only [hdone.checked_iff, hdone.missing_iff hlater hread] using hends
  retries := hretries
  increments txId := by
    rw [hdone.mem_iff rfl, hincrements]
    simp [hread]
  resets txId := by
    rw [hdone.mem_iff rfl, hresets]
    simp only [hdone.checked_iff]
  once := hdone.nodup id hlater hrest

end Calls

/-- A job ends exactly if its transaction has come to an end, if the transaction, its
relayer or its signer does not exist, or if its check met a concurrent update.  It counts
the errors for which it is retried once the transaction was read. -/
theorem statusCheck_watchesTransaction (world : World Data) (check : TransactionStatusCheck)
    (attempt : ℕ) :
    WatchesTransaction world check.transactionId (runHandler world check attempt).1
      (runHandler world check attempt).2 := by
  cases hread : world (.getTransaction check.transactionId) with
  | error error =>
      rcases run_unread attempt hread with ⟨⟨text, rfl⟩, hrun⟩ | ⟨hfound, text, hrun⟩
      · rw [hrun]
        constructor <;> simp [Checked, Missing, hread]
      · rw [hrun]
        constructor <;> simp_all [Checked, Missing]
  | ok tx =>
      have hdone := runLookups_done world check.relayerId
      rcases hlookups : runLookups world check.relayerId with ⟨result, calls⟩
      rw [hlookups] at hdone
      cases result with
      | error error =>
          rcases run_lookup_failed attempt hread hlookups with
            ⟨⟨text, rfl⟩, hrun⟩ | ⟨hfound, text, hrun⟩
          · rw [hrun, ← List.append_nil calls]
            apply hdone.watches hread <;> simp [Checked]
          · rw [hrun]
            apply hdone.watches hread <;> simp_all [Checked, Request.phase]
      | ok service =>
          cases houtcome : world (.handleTransactionStatus service.1 service.2 tx
              (checkContext check attempt tx)) with
          | error error =>
              obtain ⟨ended, hended, hrun⟩ := run_checked hread hlookups houtcome
              rw [Except.mapError, run_handleResult_error] at hended
              rw [hrun]
              by_cases hconflict : (Report.transaction error).isConcurrentUpdateConflict
              · obtain ⟨text, rfl⟩ := isConcurrentUpdateConflict_iff.mp hconflict
                rw [hconflict] at hended
                subst hended
                apply hdone.watches hread <;> simp [Checked, Request.phase, houtcome]
              · rw [Bool.eq_false_of_not_eq_true hconflict] at hended
                rw [isConcurrentUpdateConflict_iff] at hconflict
                subst hended
                apply hdone.watches hread <;>
                  simp_all [Checked, Request.phase]
          | ok checked =>
              obtain ⟨ended, hended, hrun⟩ := run_checked hread hlookups houtcome
              rw [Except.mapError, run_handleResult_ok] at hended
              rw [hrun]
              split_ifs at hended with hfinal hpositive
              · subst hended
                apply hdone.watches hread <;> simp [Checked, Request.phase, houtcome, hfinal]
              · subst hended
                apply hdone.watches hread <;>
                  simp [Checked, Request.phase, houtcome, hfinal, hpositive]
              · subst hended
                apply hdone.watches hread <;>
                  simp [Checked, Request.phase, houtcome, hfinal, hpositive]

end Code

/-! ## A conflict ends the job -/

def sampleRelayer : RelayerRepoModel where
  id := "relayer-1"
  name := "sample"
  network := "sepolia"
  paused := false
  networkType := .evm
  signerId := "signer-1"
  policies := .evm ⟨none, none, none, none, none, none, none⟩
  address := ""
  notificationId := none
  systemDisabled := false
  disabledReason := none
  customRpcUrls := none

def sampleTransaction : StoredTransaction Unit where
  networkType := .evm
  record :=
    { id := "tx-1"
      relayerId := "relayer-1"
      status := .submitted
      statusReason := none
      createdAt := ""
      sentAt := none
      confirmedAt := none
      validUntil := none
      networkData := ()
      pricedAt := none
      hashes := []
      noopCount := none
      isCanceled := none
      metadata := none }

/-- Everything is there, and the check of a submitted transaction meets a conflict. -/
def conflictWorld : World Unit
  | .getTransaction _ => .ok sampleTransaction
  | .getRelayer _ => .ok sampleRelayer
  | .getSigner _ => .ok "signer-1"
  | .createTransaction .. => .ok ()
  | .handleTransactionStatus .. => .error (.concurrentUpdateConflict "tx race")
  | .resetStatusCheckConsecutiveFailures _ => .ok ()
  | .incrementStatusCheckFailures _ => .ok ()

/-- The transaction cannot be read for a while. -/
def unreadableWorld : World Unit
  | .getTransaction _ => .error (.connectionError "timeout")
  | request => conflictWorld request

/-- A conflict ends the job of a submitted transaction, and a failure to read the transaction
is not counted. -/
theorem conflict_ends_job :
    ((runHandler conflictWorld ⟨"tx-1", "relayer-1", none⟩ 0).1 = .ok () ∧
        sampleTransaction.record.status.isFinalState = false ∧
        ∀ request, ¬ Missing conflictWorld request) ∧
      runHandler unreadableWorld ⟨"tx-1", "relayer-1", none⟩ 0 =
        (.error (.retry "Internal Server Error: An unknown error occurred"),
          [.getTransaction "tx-1"]) := by
  refine ⟨⟨by decide +kernel, by decide, ?_⟩, by decide +kernel⟩
  intro request hmissing
  cases request with
  | getTransaction | getRelayer | getSigner =>
      obtain ⟨text, htext⟩ := hmissing
      cases htext
  | _ => exact hmissing

end Relayer.StatusCheckJob
