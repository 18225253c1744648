import Relayer.Core.Interleaving
import Relayer.Models.Transaction

/-!
# The jobs of a Stellar transaction

`prepare_transaction_impl` signs an envelope and stores it, `submit_transaction_impl`
sends the stored envelope, and `handle_transaction_status_impl` follows it on the
network.  Each repository access and each request to the network, the signer, the
counter or the queue is one call.  What the clock decides (expiry, age, backoff) is
asked for as well, so every timing is covered.

The contents of an envelope matter here only as far as the network tells envelopes
apart: its sequence number, the end of its time bounds and its signatures.
-/

namespace Relayer.StellarLifecycle

open Relayer.Transaction Relayer.Interaction

structure Envelope where
  content : String
  sequence : ℤ
  /-- `0` where the envelope has no upper time bound. -/
  maxTime : ℕ
  signatures : List String
  deriving DecidableEq, Repr

/-- The inputs whose envelopes the relayer numbers and signs.  What an encoded input
decodes to stands for the input. -/
inductive TransactionInput where
  | operations (converted : Option Envelope)
  | unsignedXdr (decoded : Option Envelope)
  | sorobanGasAbstraction (decoded : Option Envelope)
  deriving DecidableEq, Repr

structure StellarTransactionData where
  transactionInput : TransactionInput
  fee : Option ℕ
  sequenceNumber : Option ℤ
  signatures : List String
  hash : Option String
  simulationTransactionData : Option String
  signedEnvelope : Option Envelope
  transactionResultXdr : Option String
  deriving DecidableEq, Repr

namespace StellarTransactionData

def resetToPrePrepareState (data : StellarTransactionData) : StellarTransactionData :=
  { data with
    fee := none
    sequenceNumber := none
    signatures := []
    signedEnvelope := none
    simulationTransactionData := none
    hash := none }

def withHash (data : StellarTransactionData) (hash : String) : StellarTransactionData :=
  { data with hash := some hash }

def attachSignature (data : StellarTransactionData) (signature : String) :
    StellarTransactionData :=
  { data with signatures := data.signatures ++ [signature] }

/-- `get_envelope_for_submission`: the envelope signed before, or one built from the
input with whatever signatures the data holds. -/
def getEnvelopeForSubmission (data : StellarTransactionData) : Except String Envelope :=
  match data.signedEnvelope with
  | some cached => .ok cached
  | none =>
      match data.transactionInput with
      | .operations (some envelope) =>
          .ok { envelope with
            sequence := data.sequenceNumber.getD 0
            signatures := data.signatures }
      | .unsignedXdr (some envelope) | .sorobanGasAbstraction (some envelope) =>
          .ok { envelope with signatures := data.signatures }
      | _ => .error "Transaction conversion error: Invalid XDR"

end StellarTransactionData

structure TransactionMetadata where
  insufficientFeeRetries : ℕ
  tryAgainLaterRetries : ℕ
  deriving DecidableEq, Repr

structure TransactionRepoModel where
  id : String
  status : TransactionStatus
  statusReason : Option String
  networkData : StellarTransactionData
  hashes : List String
  metadata : TransactionMetadata
  deriving DecidableEq, Repr

structure TransactionUpdateRequest where
  status : Option TransactionStatus := none
  statusReason : Option String := none
  networkData : Option StellarTransactionData := none
  hashes : Option (List String) := none
  deriving DecidableEq, Repr

namespace TransactionRepoModel

def applyPartialUpdate (transaction : TransactionRepoModel)
    (update : TransactionUpdateRequest) : TransactionRepoModel :=
  { transaction with
    status := update.status.getD transaction.status
    statusReason := update.statusReason.or transaction.statusReason
    networkData := update.networkData.getD transaction.networkData
    hashes := update.hashes.getD transaction.hashes }

def createResetUpdateRequest (transaction : TransactionRepoModel) :
    TransactionUpdateRequest where
  status := some .pending
  networkData := some transaction.networkData.resetToPrePrepareState
  hashes := some []

end TransactionRepoModel

/-- The answer of the network to a submission.  `errorResult` is the encoded result
with the name of the result code it decodes to. -/
structure SendTransactionResponse where
  status : String
  hash : String
  errorResult : Option (String × Option String)
  deriving DecidableEq, Repr

structure GetTransactionResponse where
  status : String
  feeCharged : Option ℕ
  returnValueXdr : Option String
  resultCode : Option String
  innerResultCode : Option String
  opResultCode : Option String
  contractError : Option String
  deriving DecidableEq, Repr

/-- Everything the jobs ask for. -/
inductive Request where
  | getTransaction
  | partialUpdate (update : TransactionUpdateRequest)
  | recordTryAgainLaterRetry
  | recordInsufficientFeeRetry
  | isTransactionExpired (transaction : TransactionRepoModel)
  | exceedsMaxLifetime (transaction : TransactionRepoModel)
  | recoveryDue (transaction : TransactionRepoModel)
  | resubmitDue (transaction : TransactionRepoModel)
  | claimLane
  | process (data : StellarTransactionData)
  | signTransaction (data : StellarTransactionData)
  | sendTransactionWithStatus (envelope : Envelope)
  | parseHash (hash : String)
  | getNetworkTransaction (hash : String)
  | syncSequenceFromChain
  | submitJob (delaySeconds : Option ℕ)
  | transactionRequestJob
  | notificationJob
  | enqueueNextPendingTransaction
  | freeLane
  | acknowledge
  deriving DecidableEq, Repr

abbrev Answer : Request → Type
  | .getTransaction => Except RepositoryError TransactionRepoModel
  | .partialUpdate _ => Except RepositoryError TransactionRepoModel
  | .recordTryAgainLaterRetry => Except RepositoryError TransactionRepoModel
  | .recordInsufficientFeeRetry => Except RepositoryError TransactionRepoModel
  | .isTransactionExpired _ => Except TransactionError Bool
  | .exceedsMaxLifetime _ => Except TransactionError Bool
  | .recoveryDue _ => Except TransactionError Bool
  | .resubmitDue _ => Except TransactionError Bool
  | .claimLane => Bool
  | .process _ => Except TransactionError StellarTransactionData
  | .signTransaction _ => Except TransactionError (Option String)
  | .sendTransactionWithStatus _ => Except TransactionError SendTransactionResponse
  | .parseHash _ => Except String Unit
  | .getNetworkTransaction _ => Except TransactionError GetTransactionResponse
  | .syncSequenceFromChain => Except TransactionError Unit
  | .submitJob _ => Except TransactionError Unit
  | .transactionRequestJob => Except String Unit
  | .notificationJob => Except String Unit
  | .enqueueNextPendingTransaction => Except TransactionError Unit
  | .freeLane => Unit
  | .acknowledge => Unit

abbrev Step (A : Type) := Program Request Answer A

abbrev Outcome := Except TransactionError TransactionRepoModel

section Steps

open Program

def getTransaction : Step (Except RepositoryError TransactionRepoModel) :=
  ask Request.getTransaction

def partialUpdate (update : TransactionUpdateRequest) :
    Step (Except RepositoryError TransactionRepoModel) :=
  ask (Request.partialUpdate update)

def recordTryAgainLaterRetry : Step (Except RepositoryError TransactionRepoModel) :=
  ask Request.recordTryAgainLaterRetry

def recordInsufficientFeeRetry : Step (Except RepositoryError TransactionRepoModel) :=
  ask Request.recordInsufficientFeeRetry

def isTransactionExpired (transaction : TransactionRepoModel) :
    Step (Except TransactionError Bool) :=
  ask (Request.isTransactionExpired transaction)

def exceedsMaxLifetime (transaction : TransactionRepoModel) :
    Step (Except TransactionError Bool) :=
  ask (Request.exceedsMaxLifetime transaction)

def recoveryDue (transaction : TransactionRepoModel) : Step (Except TransactionError Bool) :=
  ask (Request.recoveryDue transaction)

def resubmitDue (transaction : TransactionRepoModel) : Step (Except TransactionError Bool) :=
  ask (Request.resubmitDue transaction)

def claimLane : Step Bool := ask Request.claimLane

def process (data : StellarTransactionData) :
    Step (Except TransactionError StellarTransactionData) :=
  ask (Request.process data)

def signTransaction (data : StellarTransactionData) :
    Step (Except TransactionError (Option String)) :=
  ask (Request.signTransaction data)

def sendTransactionWithStatus (envelope : Envelope) :
    Step (Except TransactionError SendTransactionResponse) :=
  ask (Request.sendTransactionWithStatus envelope)

def parseHash (hash : String) : Step (Except String Unit) := ask (Request.parseHash hash)

def getNetworkTransaction (hash : String) :
    Step (Except TransactionError GetTransactionResponse) :=
  ask (Request.getNetworkTransaction hash)

def syncSequenceFromChain : Step (Except TransactionError Unit) :=
  ask Request.syncSequenceFromChain

/-- `send_submit_transaction_job`. -/
def submitJob (delaySeconds : Option ℕ) : Step (Except TransactionError Unit) :=
  ask (Request.submitJob delaySeconds)

def transactionRequestJob : Step (Except String Unit) := ask Request.transactionRequestJob

def notificationJob : Step (Except String Unit) := ask Request.notificationJob

def enqueueNextPendingTransaction : Step (Except TransactionError Unit) :=
  ask Request.enqueueNextPendingTransaction

def freeLane : Step Unit := ask Request.freeLane

def acknowledge : Step Unit := ask Request.acknowledge

end Steps

/-! ## Ending a transaction -/

def finalizeTransactionState (update : TransactionUpdateRequest) : Step Outcome := do
  match ← partialUpdate update with
  | .error error => return .error error.toTransactionError
  | .ok updated =>
      let _ ← notificationJob
      return .ok updated

/-- `mark_as_failed` and `mark_as_expired`. -/
def markAs (status : TransactionStatus) (reason : String) : Step Outcome := do
  match ← finalizeTransactionState { status := some status, statusReason := some reason } with
  | .error error => return .error error
  | .ok updated =>
      let _ ← enqueueNextPendingTransaction
      return .ok updated

def markAsFailed (reason : String) : Step Outcome := markAs .failed reason

def markAsExpired (reason : String) : Step Outcome := markAs .expired reason

/-! ## Preparation -/

/-- How the relayer works: on several transactions at once or not; and whether the input was
signed by its sender. -/
structure Mode where
  concurrent : Bool
  signedInput : Bool

/-- `update_and_notify_transaction`: this stores the signed envelope. -/
def updateAndNotifyTransaction (data : StellarTransactionData) : Step Outcome := do
  match ← partialUpdate { status := some .sent, networkData := some data } with
  | .error error => return .error error.toTransactionError
  | .ok saved =>
      match ← submitJob none with
      | .error error => return .error error
      | .ok _ =>
          let _ ← notificationJob
          return .ok saved

/-- `finalize_with_signature`. -/
def finalizeWithSignature (data : StellarTransactionData) : Step Outcome := do
  match ← signTransaction data with
  | .error error => return .error error
  | .ok none => return .error (.invalidType "Expected Stellar signature")
  | .ok (some signature) =>
      let signed := data.attachSignature signature
      match signed.getEnvelopeForSubmission with
      | .error error =>
          return .error (.signerError s!"Failed to build signed envelope: {error}")
      | .ok envelope => updateAndNotifyTransaction { signed with signedEnvelope := some envelope }

/-- `process_fee_bump` wraps a signed input in a fee bump and signs this. -/
def prepareCore (mode : Mode) (transaction : TransactionRepoModel) : Step Outcome := do
  match ← process transaction.networkData with
  | .error error => return .error error
  | .ok data =>
      if mode.signedInput then updateAndNotifyTransaction data else finalizeWithSignature data

def handlePrepareFailure (concurrent : Bool) (error : TransactionError) : Step Outcome := do
  let text := error.toText
  let _ ← syncSequenceFromChain
  let _ ← finalizeTransactionState
    { status := some .failed, statusReason := some s!"Preparation failed: {text}" }
  if concurrent then return .error error
  match ← enqueueNextPendingTransaction with
  | .ok _ => return .error error
  | .error _ =>
      freeLane
      return .error error

/-- `prepare_transaction_impl`. -/
def prepareTransaction (mode : Mode) (transaction : TransactionRepoModel) : Step Outcome := do
  if transaction.status.isFinalState then return .ok transaction
  if transaction.status ≠ .pending then return .ok transaction
  let claimed ← if mode.concurrent then pure true else claimLane
  if !claimed then return .ok transaction
  match ← prepareCore mode transaction with
  | .ok prepared => return .ok prepared
  | .error error => handlePrepareFailure mode.concurrent error

/-! ## Submission -/

def maxInsufficientFeeRetries : ℕ := 6

def maxTryAgainLaterFastRetries : ℕ := 3

def fastResubmitBaseDelaySeconds : ℕ := 5

/-- `is_bad_sequence_error`. -/
def isBadSequenceError (message : String) : Bool :=
  decide ("txbadseq".toList <:+: message.toLower.toList)

/-- `is_insufficient_fee_error`, up to the case of ASCII letters. -/
def isInsufficientFeeError (resultCode : String) : Bool :=
  resultCode.toLower == "txinsufficientfee" || resultCode.toLower == "tx_insufficient_fee"

/-- A rejection that may pass: the retry is recorded and, within `limit`, another
submission is queued. -/
def retryLater (record : Step (Except RepositoryError TransactionRepoModel))
    (retries : TransactionMetadata → ℕ) (limit : ℕ) : Step Outcome := do
  match ← record with
  | .error error => return .error error.toTransactionError
  | .ok updated =>
      if updated.status.isFinalState then return .ok updated
      if retries updated.metadata ≤ limit then
        let _ ← submitJob (some (fastResubmitBaseDelaySeconds * retries updated.metadata))
        return .ok updated
      else return .ok updated

/-- An accepted submission, or one the network already knew. -/
def recordSubmission (transaction : TransactionRepoModel)
    (response : SendTransactionResponse) : Step Outcome := do
  let hashes := if transaction.hashes.contains response.hash then transaction.hashes
    else transaction.hashes ++ [response.hash]
  match ← partialUpdate
      { status := some .submitted
        networkData := some (transaction.networkData.withHash response.hash)
        hashes := some hashes } with
  | .error error => return .error error.toTransactionError
  | .ok updated =>
      if response.status = "PENDING" then
        let _ ← notificationJob
        return .ok updated
      else return .ok updated

/-- A rejection: too low a fee is retried up to its limit, anything else is an
error that names the result code. -/
def handleErrorResponse (transaction : TransactionRepoModel)
    (response : SendTransactionResponse) : Step Outcome :=
  let (detail, code) := response.errorResult.getD ("No error details provided", none)
  if code.any isInsufficientFeeError then
    if maxInsufficientFeeRetries < transaction.metadata.insufficientFeeRetries + 1 then
      return .error (.unexpectedError
        "Transaction submission error: insufficient fee retry limit exceeded (6)")
    else retryLater recordInsufficientFeeRetry (·.insufficientFeeRetries)
      maxInsufficientFeeRetries
  else
    let message := code.getD detail
    return .error (.unexpectedError s!"Transaction submission error: {message}")

/-- `submit_core` with what `get_envelope_for_submission` returned. -/
def submitCoreWith (built : Except String Envelope) (transaction : TransactionRepoModel) :
    Step Outcome := do
  match built with
  | .error error => return .error (.signerError error)
  | .ok envelope =>
      match ← sendTransactionWithStatus envelope with
      | .error error => return .error error
      | .ok response =>
          if response.status = "PENDING" ∨ response.status = "DUPLICATE" then
            recordSubmission transaction response
          else if response.status = "TRY_AGAIN_LATER" then
            retryLater recordTryAgainLaterRetry (·.tryAgainLaterRetries)
              maxTryAgainLaterFastRetries
          else if response.status = "ERROR" then handleErrorResponse transaction response
          else
            let status := response.status
            return .error (.unexpectedError s!"Unknown transaction status: {status}")

def submitCore (transaction : TransactionRepoModel) : Step Outcome :=
  submitCoreWith transaction.networkData.getEnvelopeForSubmission transaction

/-- `reset_transaction_for_retry`. -/
def resetTransactionForRetry (transaction : TransactionRepoModel) : Step Outcome := do
  match ← partialUpdate transaction.createResetUpdateRequest with
  | .error error => return .error error.toTransactionError
  | .ok reset => return .ok reset

/-- The end of a failed submission that is not retried. -/
def failSubmission (error : TransactionError) (reason : String) : Step Outcome := do
  match ← finalizeTransactionState
      { status := some .failed, statusReason := some reason } with
  | .error _ => return .error error
  | .ok failed =>
      let _ ← enqueueNextPendingTransaction
      return .ok failed

/-- `handle_submit_failure`: a bad sequence number sends the transaction back to its
state before preparation. -/
def handleSubmitFailure (transaction : TransactionRepoModel) (error : TransactionError) :
    Step Outcome := do
  let text := error.toText
  let reason := s!"Submission failed: {text}"
  match error with
  | .concurrentUpdateConflict _ =>
      match ← getTransaction with
      | .error reload => return .error reload.toTransactionError
      | .ok latest => return .ok latest
  | _ =>
      if isBadSequenceError reason then
        let reset ← resetTransactionForRetry transaction
        let _ ← syncSequenceFromChain
        match reset with
        | .ok latest => return .ok latest
        | .error _ => failSubmission error reason
      else failSubmission error reason

/-- `submit_transaction_impl` with the envelope that is built for the transaction. -/
def submitTransactionWith (built : Except String Envelope) (transaction : TransactionRepoModel) :
    Step Outcome := do
  if transaction.status.isFinalState then return .ok transaction
  match ← isTransactionExpired transaction with
  | .error error => return .error error
  | .ok true => markAsExpired "Transaction time_bounds expired"
  | .ok false =>
      match ← submitCoreWith built transaction with
      | .ok submitted => return .ok submitted
      | .error error => handleSubmitFailure transaction error

/-- `submit_transaction_impl`, and `resubmit_transaction_impl`. -/
def submitTransaction (transaction : TransactionRepoModel) : Step Outcome :=
  submitTransactionWith transaction.networkData.getEnvelopeForSubmission transaction

/-! ## Status -/

/-- `check_expiration_and_max_lifetime`: the outcome where the check ends the
transaction. -/
def checkExpirationAndMaxLifetime (transaction : TransactionRepoModel)
    (failedReason : String) : Step (Option Outcome) := do
  match ← exceedsMaxLifetime transaction with
  | .error error => return some (.error error)
  | .ok overdue =>
      match ← isTransactionExpired transaction with
      | .ok true =>
          let expired ← markAsExpired "Transaction time_bounds expired"
          return some expired
      | _ =>
          if overdue then
            let failed ← markAsFailed failedReason
            return some failed
          else return none

/-- Queues another submission where the backoff since the last one is over. -/
def resubmitIfDue (transaction : TransactionRepoModel) : Step Outcome := do
  match ← resubmitDue transaction with
  | .error error => return .error error
  | .ok false => return .ok transaction
  | .ok true =>
      match ← submitJob none with
      | .error error => return .error error
      | .ok _ => return .ok transaction

def handlePendingState (transaction : TransactionRepoModel) : Step Outcome := do
  match ← checkExpirationAndMaxLifetime transaction
      "Transaction stuck in Pending status for too long" with
  | some outcome => return outcome
  | none =>
      match ← recoveryDue transaction with
      | .error error => return .error error
      | .ok false => return .ok transaction
      | .ok true =>
          let _ ← transactionRequestJob
          return .ok transaction

def handleSentState (transaction : TransactionRepoModel) : Step Outcome := do
  match ← checkExpirationAndMaxLifetime transaction
      "Transaction stuck in Sent status for too long" with
  | some outcome => return outcome
  | none => resubmitIfDue transaction

/-- `parse_and_validate_hash`. -/
def parseAndValidateHash (transaction : TransactionRepoModel) :
    Step (Except TransactionError String) := do
  let id := transaction.id
  let missing := s!"Stellar transaction {id} is missing or has an empty on-chain hash " ++
    "in network_data. Cannot check status."
  match transaction.networkData.hash with
  | some hash =>
      if hash.isEmpty then return .error (.validationError missing)
      match ← parseHash hash with
      | .ok _ => return .ok hash
      | .error error =>
          return .error (.unexpectedError
            (s!"Failed to parse transaction hash '{hash}' for tx {id}: {error}. " ++
              "This hash may be corrupted or not a valid Stellar hash."))
  | none => return .error (.validationError missing)

/-- Ends a transaction whose fate on the network is known and hands the lane on. -/
def finalizeOnChain (update : TransactionUpdateRequest) : Step Outcome := do
  match ← finalizeTransactionState update with
  | .error error => return .error error
  | .ok updated =>
      match ← enqueueNextPendingTransaction with
      | .error error => return .error error
      | .ok _ => return .ok updated

def handleStellarSuccess (transaction : TransactionRepoModel)
    (response : GetTransactionResponse) : Step Outcome :=
  let data := transaction.networkData
  finalizeOnChain
    { status := some .confirmed
      networkData := some
        { data with
          fee := response.feeCharged.or data.fee
          transactionResultXdr := response.returnValueXdr.or data.transactionResultXdr } }

/-- `format_failure_reason`. -/
def formatFailureReason (response : GetTransactionResponse) : String :=
  let outer := response.resultCode.getD "unknown"
  let part (label : String) (value : Option String) : String :=
    match value with
    | some text => s!" {label}={text}"
    | none => ""
  s!"Transaction failed on-chain. reason={outer}" ++ part "inner" response.innerResultCode ++
    part "op" response.opResultCode ++ part "contract_error" response.contractError

def handleStellarFailed (response : GetTransactionResponse) : Step Outcome :=
  finalizeOnChain
    { status := some .failed, statusReason := some (formatFailureReason response) }

def handleSubmittedState (transaction : TransactionRepoModel) : Step Outcome := do
  match ← parseAndValidateHash transaction with
  | .error error =>
      let text := error.toText
      markAsFailed s!"Failed to parse and validate hash: {text}"
  | .ok hash =>
      match ← getNetworkTransaction hash with
      | .error error => return .error error
      | .ok response =>
          if response.status.toUpper = "SUCCESS" then handleStellarSuccess transaction response
          else if response.status.toUpper = "FAILED" then handleStellarFailed response
          else
            match ← checkExpirationAndMaxLifetime transaction
                "Transaction stuck in Submitted status for too long" with
            | some outcome => return outcome
            | none => resubmitIfDue transaction

def statusCore (transaction : TransactionRepoModel) : Step Outcome :=
  match transaction.status with
  | .pending => handlePendingState transaction
  | .sent => handleSentState transaction
  | _ => handleSubmittedState transaction

/-- `handle_transaction_status_impl`. -/
def handleTransactionStatus (context : Option StatusCheckContext)
    (transaction : TransactionRepoModel) : Step Outcome := do
  if transaction.status.isFinalState then return .ok transaction
  match context.filter StatusCheckContext.shouldForceFinalize with
  | some forced =>
      let consecutive := forced.consecutiveFailures
      let total := forced.totalFailures
      let status := transaction.status.toText
      markAsFailed
        (s!"Transaction status monitoring failed after {consecutive} consecutive errors " ++
          s!"(total: {total}). Last status: {status}. " ++
          "Unable to determine final on-chain state.")
  | none =>
      match ← statusCore transaction with
      | .ok updated => return .ok updated
      | .error (.concurrentUpdateConflict _) =>
          match ← getTransaction with
          | .error reload => return .error reload.toTransactionError
          | .ok latest => return .ok latest
      | .error (.validationError message) => markAsFailed s!"Validation error: {message}"
      | .error error => return .error error

/-! ## Jobs -/

inductive Job where
  | prepare
  | submit
  | status (context : Option StatusCheckContext)
  deriving DecidableEq, Repr

def handle (mode : Mode) : Job → TransactionRepoModel → Step Outcome
  | .prepare => prepareTransaction mode
  | .submit => submitTransaction
  | .status context => handleTransactionStatus context

/-- A delivered job loads the transaction, handles it and is acknowledged. -/
def runJob (mode : Mode) (job : Job) : Step Outcome := do
  match ← getTransaction with
  | .error error =>
      acknowledge
      return .error error.toTransactionError
  | .ok transaction =>
      let outcome ← handle mode job transaction
      acknowledge
      return outcome

end Relayer.StellarLifecycle
