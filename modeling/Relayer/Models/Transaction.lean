import Mathlib

/-!
# Transaction status and errors

The vocabulary that every network shares: the life cycle states of a stored
transaction, the errors its handlers return and the counters of its status checks.
Errors keep the text the source gives them, since handlers and callers branch on it.
-/

namespace Relayer.Transaction

inductive TransactionStatus where
  | canceled
  | pending
  | sent
  | submitted
  | mined
  | confirmed
  | failed
  | expired
  deriving DecidableEq, Repr

namespace TransactionStatus

def toText : TransactionStatus → String
  | canceled => "Canceled"
  | pending => "Pending"
  | sent => "Sent"
  | submitted => "Submitted"
  | mined => "Mined"
  | confirmed => "Confirmed"
  | failed => "Failed"
  | expired => "Expired"

/-- `FINAL_TRANSACTION_STATUSES`. -/
def finalStatuses : List TransactionStatus := [canceled, confirmed, failed, expired]

def isFinalState (status : TransactionStatus) : Bool := finalStatuses.contains status

end TransactionStatus

/-- The part of a stored transaction that the clean-up and the reconciliation of the
indexes read, for a transaction of any network. -/
structure StoredTransaction where
  id : String
  relayerId : String
  status : TransactionStatus
  createdAt : String
  confirmedAt : Option String
  deleteAt : Option String
  nonce : Option ℕ
  deriving DecidableEq, Repr

/-- What names a transaction to the repository's `delete_by_requests`. -/
structure TransactionDeleteRequest where
  id : String
  relayerId : String
  nonce : Option ℕ
  deriving DecidableEq, Repr

/-- Errors of the repository layer. -/
inductive RepositoryError where
  | notFound (message : String)
  | lockError (message : String)
  | connectionError (message : String)
  | constraintViolation (message : String)
  | invalidData (message : String)
  | transactionFailure (message : String)
  | concurrentUpdateConflict (message : String)
  | transactionValidationFailed (message : String)
  | permissionDenied (message : String)
  | unknown (message : String)
  | notSupported (message : String)
  | unexpectedError (message : String)
  | other (message : String)
  deriving DecidableEq, Repr

def RepositoryError.toText : RepositoryError → String
  | .notFound message => s!"Entity not found: {message}"
  | .lockError message => s!"Entity already exists: {message}"
  | .connectionError message => s!"Failed to connect to the database: {message}"
  | .constraintViolation message => s!"Constraint violated: {message}"
  | .invalidData message => s!"Invalid data: {message}"
  | .transactionFailure message => s!"Transaction failure: {message}"
  | .concurrentUpdateConflict message => s!"Concurrent update conflict: {message}"
  | .transactionValidationFailed message => s!"Transaction validation failed: {message}"
  | .permissionDenied message => s!"Permission denied: {message}"
  | .unknown message => s!"An unknown error occurred: {message}"
  | .notSupported message => s!"Not supported: {message}"
  | .unexpectedError message => s!"Unexpected error: {message}"
  | .other message => s!"Other error: {message}"

/-- Errors of the Stellar validators. -/
inductive StellarTransactionValidationError where
  | validationError (message : String)
  | policyViolation (message : String)
  | invalidAssetIdentifier (message : String)
  | tokenNotAllowed (message : String)
  | insufficientTokenPayment (expected got : UInt64)
  | maxFeeExceeded (maxFee : UInt64)
  deriving DecidableEq, Repr

def StellarTransactionValidationError.toText :
    StellarTransactionValidationError → String
  | .validationError message => s!"Validation error: {message}"
  | .policyViolation message => s!"Policy violation: {message}"
  | .invalidAssetIdentifier message => s!"Invalid asset identifier: {message}"
  | .tokenNotAllowed message => s!"Token not allowed: {message}"
  | .insufficientTokenPayment expected got =>
      s!"Insufficient token payment: expected {expected}, got {got}"
  | .maxFeeExceeded maxFee => s!"Max fee exceeded: {maxFee}"

/-- Errors of the transaction handlers.  Errors of other components that are only
passed through keep their rendered text. -/
inductive TransactionError where
  | validationError (message : String)
  | solanaValidation (message : String)
  | networkConfiguration (message : String)
  | jobProducerError (message : String)
  | invalidType (message : String)
  | underlyingProvider (message : String)
  | underlyingSolanaProvider (message : String)
  | stellarTransactionValidationError (error : StellarTransactionValidationError)
  | unexpectedError (message : String)
  | concurrentUpdateConflict (message : String)
  | notSupported (message : String)
  | signerError (message : String)
  | insufficientBalance (message : String)
  | simulationFailed (message : String)
  deriving DecidableEq, Repr

def TransactionError.toText : TransactionError → String
  | .validationError message => s!"Transaction validation error: {message}"
  | .solanaValidation message => s!"Solana transaction validation error: {message}"
  | .networkConfiguration message => s!"Network configuration error: {message}"
  | .jobProducerError message => s!"Job producer error: {message}"
  | .invalidType message => s!"Invalid transaction type: {message}"
  | .underlyingProvider message => s!"Underlying provider error: {message}"
  | .underlyingSolanaProvider message => s!"Underlying Solana provider error: {message}"
  | .stellarTransactionValidationError error =>
      let message := error.toText
      s!"Stellar validation error: {message}"
  | .unexpectedError message => s!"Unexpected error: {message}"
  | .concurrentUpdateConflict message => s!"Concurrent update conflict: {message}"
  | .notSupported message => s!"Not supported: {message}"
  | .signerError message => s!"Signer error: {message}"
  | .insufficientBalance message => s!"Insufficient balance: {message}"
  | .simulationFailed message => s!"Stellar transaction simulation failed: {message}"

/-- `From<RepositoryError> for TransactionError`. -/
def RepositoryError.toTransactionError : RepositoryError → TransactionError
  | .notFound message | .invalidData message | .constraintViolation message
  | .transactionValidationFailed message => .validationError message
  | .concurrentUpdateConflict message => .concurrentUpdateConflict message
  | .transactionFailure message | .lockError message | .connectionError message
  | .permissionDenied message | .unknown message | .unexpectedError message
  | .other message => .unexpectedError message
  | .notSupported message => .notSupported message

inductive ApiError where
  | internalError (message : String)
  | notFound (message : String)
  | badRequest (message : String)
  | unauthorized (message : String)
  | notSupported (message : String)
  | forbiddenError (message : String)
  | conflict (message : String)
  | unprocessableEntity (message : String)
  deriving DecidableEq, Repr

/-- Errors of the relayers; errors of their components keep their rendered text. -/
inductive RelayerError where
  | networkConfiguration (message : String)
  | providerError (message : String)
  | underlyingProvider (message : String)
  | underlyingSolanaProvider (message : String)
  | queueError (message : String)
  | signerFactoryError (message : String)
  | signerError (message : String)
  | notSupported (message : String)
  | relayerDisabled
  | relayerPaused
  | transactionSequenceError (message : String)
  | insufficientBalanceError (message : String)
  | insufficientRelayerBalance (message : String)
  | policyConfigurationError (message : String)
  | invalidDexName (message : String)
  | dexError (message : String)
  | validationError (message : String)
  | internal (message : String)
  deriving DecidableEq, Repr

/-- `From<RelayerError> for ApiError`. -/
def RelayerError.toApiError : RelayerError → ApiError
  | .networkConfiguration message | .providerError message | .queueError message
  | .signerError message | .signerFactoryError message | .transactionSequenceError message
  | .underlyingProvider message | .underlyingSolanaProvider message
  | .policyConfigurationError message | .invalidDexName message | .dexError message
  | .internal message => .internalError message
  | .notSupported message | .insufficientBalanceError message
  | .insufficientRelayerBalance message | .validationError message => .badRequest message
  | .relayerDisabled => .forbiddenError "Relayer disabled"
  | .relayerPaused => .forbiddenError "Relayer paused"

/-- `From<RepositoryError> for ApiError`. -/
def apiErrorOfRepository : RepositoryError → ApiError
  | .notFound message => .notFound message
  | .unknown message => .internalError message
  | _ => .internalError "An unknown error occurred"

/-- The guard of operations that are valid in several states. -/
def ensureStatusOneOf (status : TransactionStatus) (expected : List TransactionStatus)
    (operation : Option String) : Except TransactionError Unit :=
  if expected.contains status then .ok ()
  else
    let current := status.toText
    let states := String.intercalate ", " (expected.map TransactionStatus.toText)
    match operation with
    | some op => .error (.validationError
        s!"Invalid transaction state for {op}. Current: {current}, Expected one of: [{states}]")
    | none => .error (.validationError
        s!"Invalid transaction state. Current: {current}, Expected one of: [{states}]")

/-- The failure counters of a status check. -/
structure StatusCheckContext where
  consecutiveFailures : ℕ
  totalFailures : ℕ
  maxConsecutiveFailures : ℕ
  maxTotalFailures : ℕ
  deriving DecidableEq, Repr

def StatusCheckContext.shouldForceFinalize (context : StatusCheckContext) : Bool :=
  decide (context.maxConsecutiveFailures ≤ context.consecutiveFailures) ||
    decide (context.maxTotalFailures ≤ context.totalFailures)

end Relayer.Transaction
