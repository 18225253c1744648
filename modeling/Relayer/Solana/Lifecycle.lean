import Relayer.Core.Interleaving
import Relayer.Models.Transaction
import Relayer.Solana.Validation

/-!
# The jobs of a Solana transaction

`prepare_transaction_impl` signs a transaction and stores it, `submit_transaction_impl`
sends what is stored, `resubmit_transaction_impl` signs it anew with a fresh blockhash
and sends it before it is stored, and `handle_transaction_status_impl` looks for the
transaction on the chain and queues a resubmission once its blockhash has expired.
Each repository access and each request to the provider, the signer or the queue is
one call, and so is every look at the clock.
-/

namespace Relayer.SolanaLifecycle

open Relayer.Transaction Relayer.Interaction Relayer.SolanaMessage
open Relayer.SolanaValidation (Fault)

/-! ## Signatures -/

abbrev Signature := List UInt8

namespace Signature

def value (signature : Signature) : ℕ :=
  signature.foldl (fun total byte => total * 256 + byte.toNat) 0

def toText (signature : Signature) : String :=
  let zeros := signature.takeWhile (· == 0)
  let digits := (base58Digits 88 (value signature)).dropWhile (· == 0)
  String.ofList (zeros.map (fun _ => '1') ++
    digits.map fun digit => base58Alphabet.getD digit '1')

/-- `Signature::from_str`. -/
def fromStr (text : String) : Except String Signature :=
  let chars := text.toList
  let wrongSize := "string decoded to wrong size for signature"
  if 88 < chars.length then .error wrongSize
  else if !chars.all base58Alphabet.contains then
    .error "failed to decode string to signature"
  else
    let total := base58Value (chars.map base58Alphabet.idxOf)
    if (chars.takeWhile (· == '1')).length + byteLength total = 64 then
      .ok ((List.range 64).map fun index => UInt8.ofNat (total / 256 ^ (63 - index)))
    else .error wrongSize

end Signature

/-! ## Stored transactions -/

structure SolanaAccountMeta where
  pubkey : String
  isSigner : Bool
  isWritable : Bool
  deriving DecidableEq, Repr

structure SolanaInstructionSpec where
  programId : String
  accounts : List SolanaAccountMeta
  data : String
  deriving DecidableEq, Repr

/-- A serialized transaction stands for what it decodes to. -/
abbrev EncodedTransaction := Except String SolanaTransaction

structure SolanaTransactionData where
  transaction : Option EncodedTransaction := none
  instructions : Option (List SolanaInstructionSpec) := none
  signature : Option String := none
  deriving DecidableEq

structure TransactionRepoModel where
  id : String
  status : TransactionStatus
  statusReason : Option String
  networkData : SolanaTransactionData
  hashes : List String
  deriving DecidableEq

structure TransactionUpdateRequest where
  status : Option TransactionStatus := none
  statusReason : Option String := none
  networkData : Option SolanaTransactionData := none
  hashes : Option (List String) := none
  deriving DecidableEq

def TransactionRepoModel.applyPartialUpdate (transaction : TransactionRepoModel)
    (update : TransactionUpdateRequest) : TransactionRepoModel :=
  { transaction with
    status := update.status.getD transaction.status
    statusReason := update.statusReason.or transaction.statusReason
    networkData := update.networkData.getD transaction.networkData
    hashes := update.hashes.getD transaction.hashes }

/-! ## Errors of the provider -/

inductive SolanaProviderError where
  | networkError (message : String)
  | rpcError (message : String)
  | requestError (error : String) (statusCode : UInt16)
  | invalidAddress (message : String)
  | selectorError (message : String)
  | networkConfiguration (message : String)
  | insufficientFunds (message : String)
  | blockhashNotFound (message : String)
  | invalidTransaction (message : String)
  | alreadyProcessed (message : String)
  deriving DecidableEq, Repr

namespace SolanaProviderError

def toText : SolanaProviderError → String
  | networkError message => s!"Network error: {message}"
  | rpcError message => s!"RPC error: {message}"
  | requestError error statusCode => s!"Request error (HTTP {statusCode}): {error}"
  | invalidAddress message => s!"Invalid address: {message}"
  | selectorError message => s!"RPC selector error: {message}"
  | networkConfiguration message => s!"Network configuration error: {message}"
  | insufficientFunds message => s!"Insufficient funds for transaction: {message}"
  | blockhashNotFound message => s!"Blockhash not found or expired: {message}"
  | invalidTransaction message => s!"Invalid transaction: {message}"
  | alreadyProcessed message => s!"Transaction already processed: {message}"

def isTransient : SolanaProviderError → Bool
  | networkError _ | rpcError _ | blockhashNotFound _ | selectorError _ => true
  | requestError _ statusCode =>
      if statusCode = 501 ∨ statusCode = 505 then false
      else if 500 ≤ statusCode ∧ statusCode ≤ 599 then true
      else decide (statusCode = 408 ∨ statusCode = 425 ∨ statusCode = 429)
  | insufficientFunds _ | invalidTransaction _ | alreadyProcessed _ | invalidAddress _
  | networkConfiguration _ => false

def toTransactionError (error : SolanaProviderError) : TransactionError :=
  .underlyingSolanaProvider error.toText

end SolanaProviderError

/-- What validation fails with, and whether that error is transient. -/
structure ValidationFailure where
  error : TransactionError
  transient : Bool
  deriving DecidableEq, Repr

inductive SolanaTransactionStatus where
  | processed
  | confirmed
  | finalized
  | failed
  deriving DecidableEq, Repr

def mapSolanaStatusToTransactionStatus : SolanaTransactionStatus → TransactionStatus
  | .processed => .mined
  | .confirmed => .mined
  | .finalized => .confirmed
  | .failed => .failed

/-! ## Calls -/

/-- Everything the jobs ask for. -/
inductive Request where
  | getTransaction
  | partialUpdate (update : TransactionUpdateRequest)
  | isValidUntilExpired (transaction : TransactionRepoModel)
  | timeSinceSentOrCreatedAt (transaction : TransactionRepoModel)
  | validateTransaction (transaction : SolanaTransaction)
  | sign (message : Message)
  | getLatestBlockhash
  | isBlockhashValid (blockhash : Pubkey)
  | sendTransaction (transaction : SolanaTransaction)
  | getTransactionStatus (signature : Signature)
  | submitJob
  | resubmitJob
  | transactionRequestJob
  | notificationJob
  deriving DecidableEq

/-- Ages are in milliseconds and missing where the timestamp does not parse. -/
abbrev Answer : Request → Type
  | .getTransaction => Except RepositoryError TransactionRepoModel
  | .partialUpdate _ => Except RepositoryError TransactionRepoModel
  | .isValidUntilExpired _ => Bool
  | .timeSinceSentOrCreatedAt _ => Option ℤ
  | .validateTransaction _ => Except ValidationFailure Unit
  | .sign _ => Except String Signature
  | .getLatestBlockhash => Except SolanaProviderError Pubkey
  | .isBlockhashValid _ => Except SolanaProviderError Bool
  | .sendTransaction _ => Except SolanaProviderError Signature
  | .getTransactionStatus _ => Except SolanaProviderError SolanaTransactionStatus
  | .submitJob => Except TransactionError Unit
  | .resubmitJob => Except String Unit
  | .transactionRequestJob => Except String Unit
  | .notificationJob => Except String Unit

abbrev Step (A : Type) := Program Request Answer A

/-- A job returns, with an error or without, or stops at an index out of range. -/
abbrev Outcome := Except (Fault TransactionError) TransactionRepoModel

def failure (error : TransactionError) : Outcome := .error (.returned error)

section Steps

open Program

def getTransaction : Step (Except RepositoryError TransactionRepoModel) :=
  ask Request.getTransaction

def partialUpdate (update : TransactionUpdateRequest) :
    Step (Except RepositoryError TransactionRepoModel) :=
  ask (Request.partialUpdate update)

def isValidUntilExpired (transaction : TransactionRepoModel) : Step Bool :=
  ask (Request.isValidUntilExpired transaction)

def timeSinceSentOrCreatedAt (transaction : TransactionRepoModel) : Step (Option ℤ) :=
  ask (Request.timeSinceSentOrCreatedAt transaction)

def validateTransaction (transaction : SolanaTransaction) :
    Step (Except ValidationFailure Unit) :=
  ask (Request.validateTransaction transaction)

def sign (message : Message) : Step (Except String Signature) := ask (Request.sign message)

def getLatestBlockhash : Step (Except SolanaProviderError Pubkey) :=
  ask Request.getLatestBlockhash

def sendTransaction (transaction : SolanaTransaction) :
    Step (Except SolanaProviderError Signature) :=
  ask (Request.sendTransaction transaction)

def getTransactionStatus (signature : Signature) :
    Step (Except SolanaProviderError SolanaTransactionStatus) :=
  ask (Request.getTransactionStatus signature)

def submitJob : Step (Except TransactionError Unit) := ask Request.submitJob

def resubmitJob : Step (Except String Unit) := ask Request.resubmitJob

def transactionRequestJob : Step (Except String Unit) := ask Request.transactionRequestJob

def notificationJob : Step (Except String Unit) := ask Request.notificationJob

end Steps

/-- `mark_transaction_as_failed` with its notification. -/
def failTransactionWithNotification (error : TransactionError) : Step Outcome := do
  match ← partialUpdate { status := some .failed, statusReason := some error.toText } with
  | .error error => return failure error.toTransactionError
  | .ok updated =>
      let _ ← notificationJob
      return .ok updated

/-! ## Transactions -/

def decodeSolanaTransactionFromString (encoded : EncodedTransaction) :
    Except TransactionError SolanaTransaction :=
  encoded.mapError fun error => .validationError s!"Invalid transaction: {error}"

def decodeSolanaTransaction (transaction : TransactionRepoModel) :
    Except TransactionError SolanaTransaction :=
  match transaction.networkData.transaction with
  | some encoded => decodeSolanaTransactionFromString encoded
  | none => .error (.validationError
      "Transaction not yet built - only available after preparation")

def isResubmitable (transaction : SolanaTransaction) : Bool :=
  transaction.message.header.numRequiredSignatures ≤ 1

def withBlockhash (transaction : SolanaTransaction) (blockhash : Pubkey) : SolanaTransaction :=
  { transaction with message := { transaction.message with recentBlockhash := blockhash } }

/-- Overwrites the first signature. -/
def withSignature (transaction : SolanaTransaction) (signature : Signature) :
    Except (Fault TransactionError) SolanaTransaction :=
  match transaction.signatures with
  | [] => .error (.outOfBounds 0 0)
  | _ :: others => .ok { transaction with signatures := signature :: others }

/-- The handler: the address of its relayer, and the way instructions are compiled into an
unsigned transaction for a payer. -/
structure SolanaRelayerTransaction where
  address : String
  compile : List SolanaInstructionSpec → Pubkey → Except TransactionError SolanaTransaction

def buildTransactionFromInstructions (relayer : SolanaRelayerTransaction)
    (instructions : List SolanaInstructionSpec) (payer recentBlockhash : Pubkey) :
    Except TransactionError SolanaTransaction :=
  (relayer.compile instructions payer).map fun transaction =>
    withBlockhash transaction recentBlockhash

/-! ## Preparation -/

/-- The transaction to sign: decoded as it was given, or built from instructions with the
latest blockhash. -/
def buildOrDecode (relayer : SolanaRelayerTransaction) (data : SolanaTransactionData) :
    Step (Except TransactionError (Option SolanaTransaction)) := do
  match data.transaction with
  | some encoded => return (decodeSolanaTransactionFromString encoded).map some
  | none =>
      match data.instructions with
      | none => return .ok none
      | some instructions =>
          match Pubkey.fromStr relayer.address with
          | .error error => return .error (.validationError s!"Invalid relayer address: {error}")
          | .ok payer =>
              match ← getLatestBlockhash with
              | .error error => return .error error.toTransactionError
              | .ok blockhash =>
                  return (buildTransactionFromInstructions relayer instructions payer
                    blockhash).map some

/-- Stores the signed transaction and queues its submission. -/
def storeSigned (data : SolanaTransactionData) (signature : Signature)
    (signed : SolanaTransaction) : Step Outcome := do
  match ← partialUpdate
      { status := some .sent
        networkData := some
          { transaction := some (.ok signed)
            instructions := data.instructions
            signature := some (Signature.toText signature) } } with
  | .error error => return failure error.toTransactionError
  | .ok updated =>
      match ← submitJob with
      | .error error => return failure error
      | .ok _ =>
          let _ ← notificationJob
          return .ok updated

def signAndStore (data : SolanaTransactionData) (transaction : SolanaTransaction) :
    Step Outcome := do
  match ← sign transaction.message with
  | .error error => return failure (.signerError error)
  | .ok signature =>
      match withSignature transaction signature with
      | .error fault => return .error fault
      | .ok signed => storeSigned data signature signed

/-- `prepare_transaction_impl`. -/
def prepareTransaction (relayer : SolanaRelayerTransaction) (transaction : TransactionRepoModel) :
    Step Outcome := do
  if transaction.status ≠ .pending then return .ok transaction
  match ← buildOrDecode relayer transaction.networkData with
  | .error error => return failure error
  | .ok none =>
      failTransactionWithNotification
        (.validationError "Must provide either transaction or instructions")
  | .ok (some built) =>
      match ← validateTransaction built with
      | .error invalid =>
          if invalid.transient then return failure invalid.error
          else failTransactionWithNotification invalid.error
      | .ok _ => signAndStore transaction.networkData built

/-! ## Submission -/

/-- Submission and resubmission are for these states. -/
def InFlight (status : TransactionStatus) : Prop := status = .sent ∨ status = .submitted

instance (status : TransactionStatus) : Decidable (InFlight status) :=
  inferInstanceAs (Decidable (_ ∨ _))

/-- A submission whose error is not special: a transient error is returned for a retry,
any other ends the transaction. -/
def rejectSubmission (error : SolanaProviderError) : Step Outcome :=
  if error.isTransient then return failure error.toTransactionError
  else failTransactionWithNotification error.toTransactionError

/-- The record after a write, or as it was where the write failed. -/
def updatedOr (transaction : TransactionRepoModel) :
    Except RepositoryError TransactionRepoModel → TransactionRepoModel
  | .ok updated => updated
  | .error _ => transaction

/-- What a submission does once the network has answered. -/
def concludeSubmission (transaction : TransactionRepoModel) (decoded : SolanaTransaction) :
    Except SolanaProviderError Signature → Step Outcome
  | .error (.alreadyProcessed _) => return .ok transaction
  | .error (.blockhashNotFound message) =>
      if isResubmitable decoded then return .ok transaction
      else rejectSubmission (.blockhashNotFound message)
  | .error error => rejectSubmission error
  | .ok _ =>
      match decoded.signatures with
      | [] => return .error (.outOfBounds 0 0)
      | signature :: _ => do
          let written ← partialUpdate
            { status := some .submitted
              hashes := some (transaction.hashes ++ [Signature.toText signature]) }
          let _ ← notificationJob
          return .ok (updatedOr transaction written)

/-- `submit_transaction_impl`. -/
def submitTransaction (transaction : TransactionRepoModel) : Step Outcome := do
  if ¬ InFlight transaction.status then return .ok transaction
  match decodeSolanaTransaction transaction with
  | .error error => return failure error
  | .ok decoded =>
      let answer ← sendTransaction decoded
      concludeSubmission transaction decoded answer

/-! ## Resubmission -/

/-- What a resubmission does once the network has answered: the new signature is stored
only now. -/
def concludeResubmission (transaction : TransactionRepoModel) (signature : Signature)
    (signed : SolanaTransaction) : Except SolanaProviderError Signature → Step Outcome
  | .error (.alreadyProcessed _) => return .ok transaction
  | .error error => rejectSubmission error
  | .ok _ => do
      let written ← partialUpdate
        { status := some .submitted
          networkData := some
            { transaction := some (.ok signed), signature := some (Signature.toText signature) }
          hashes := some (transaction.hashes ++ [Signature.toText signature]) }
      return .ok (updatedOr transaction written)

/-- Signs the transaction with the blockhash it now has and sends it. -/
def signAndSend (transaction : TransactionRepoModel) (refreshed : SolanaTransaction) :
    Step Outcome := do
  match ← sign refreshed.message with
  | .error error => return failure (.signerError error)
  | .ok signature =>
      match withSignature refreshed signature with
      | .error fault => return .error fault
      | .ok signed =>
          let answer ← sendTransaction signed
          concludeResubmission transaction signature signed answer

/-- `resubmit_transaction_impl`. -/
def resubmitTransaction (transaction : TransactionRepoModel) : Step Outcome := do
  if ¬ InFlight transaction.status then return .ok transaction
  match decodeSolanaTransaction transaction with
  | .error error => return failure error
  | .ok decoded =>
      match ← getLatestBlockhash with
      | .error error => return failure error.toTransactionError
      | .ok blockhash => signAndSend transaction (withBlockhash decoded blockhash)

/-! ## Status -/

def solanaMinAgeForResubmitCheckSeconds : ℤ := 90

def solanaPendingRecoveryTriggerSeconds : ℤ := 20

def solanaPendingTimeoutMinutes : ℤ := 3

def solanaSentTimeoutMinutes : ℤ := 3

def maximumSolanaTxAttempts : ℕ := 20

def tooManySolanaAttempts (transaction : TransactionRepoModel) : Bool :=
  decide (maximumSolanaTxAttempts ≤ transaction.hashes.length)

def repositoryFailure (error : RepositoryError) : Outcome :=
  failure (.unexpectedError error.toText)

/-- `mark_as_expired` sends no notification. -/
def markAsExpired (reason : String) : Step Outcome := do
  match ← partialUpdate { status := some .expired, statusReason := some reason } with
  | .error error => return repositoryFailure error
  | .ok updated => return .ok updated

/-- A status update that is notified. -/
def updateAndSendNotification (update : TransactionUpdateRequest) : Step Outcome := do
  match ← partialUpdate update with
  | .error error => return repositoryFailure error
  | .ok updated =>
      let _ ← notificationJob
      return .ok updated

def markAsFailed (reason : String) : Step Outcome :=
  updateAndSendNotification { status := some .failed, statusReason := some reason }

/-- `update_transaction_status_and_send_notification`. -/
def updateTransactionStatusAndSendNotification (status : TransactionStatus)
    (networkData : Option SolanaTransactionData) : Step Outcome :=
  updateAndSendNotification { status := some status, networkData := networkData }

def updateTransactionStatusIfNeeded (transaction : TransactionRepoModel)
    (status : TransactionStatus) : Step Outcome :=
  if transaction.status ≠ status then updateTransactionStatusAndSendNotification status none
  else return .ok transaction

/-- `check_onchain_transaction_status`: an error of the provider counts as no news. -/
def checkOnchainTransactionStatus (transaction : TransactionRepoModel) :
    Step (Except TransactionError TransactionStatus) := do
  if transaction.status = .pending ∨ transaction.status = .sent then
    return .ok transaction.status
  match transaction.networkData.signature with
  | none => return .error (.validationError "Transaction signature is missing")
  | some text =>
      match Signature.fromStr text with
      | .error error => return .error (.validationError s!"Invalid signature format: {error}")
      | .ok signature =>
          match ← getTransactionStatus signature with
          | .ok status => return .ok (mapSolanaStatusToTransactionStatus status)
          | .error _ => return .ok transaction.status

def missingTimestamps : TransactionError :=
  .unexpectedError "Both sent_at and created_at are missing or invalid"

def timeoutMinutes : TransactionStatus → Option ℤ
  | .pending => some solanaPendingTimeoutMinutes
  | .sent => some solanaSentTimeoutMinutes
  | _ => none

def hasExceededTimeout (transaction : TransactionRepoModel) :
    Step (Except TransactionError Bool) := do
  match ← timeSinceSentOrCreatedAt transaction with
  | none => return .error missingTimestamps
  | some age =>
      return .ok ((timeoutMinutes transaction.status).any fun minutes =>
        decide (minutes * 60000 ≤ age))

/-- `num_seconds`. -/
def seconds (age : ℤ) : ℤ := age.tdiv 1000

def handlePendingStatus (transaction : TransactionRepoModel) : Step Outcome := do
  if ← isValidUntilExpired transaction then
    return ← markAsExpired "Transaction valid_until timestamp has expired"
  match ← hasExceededTimeout transaction with
  | .error error => return failure error
  | .ok true =>
      markAsFailed
        ("Transaction stuck in Pending status for more than " ++
          s!"{solanaPendingTimeoutMinutes} minutes")
  | .ok false =>
      match ← timeSinceSentOrCreatedAt transaction with
      | none => return failure missingTimestamps
      | some age =>
          if seconds age < solanaPendingRecoveryTriggerSeconds then return .ok transaction
          match ← transactionRequestJob with
          | .error error =>
              return failure (.unexpectedError
                s!"Failed to enqueue transaction request job: {error}")
          | .ok _ => return .ok transaction

/-- `check_any_signature_on_chain`: a signature that cannot be looked up is passed over. -/
def checkAnySignatureOnChain : List String → Step (Option (String × SolanaTransactionStatus))
  | [] => return none
  | text :: rest =>
      match Signature.fromStr text with
      | .error _ => checkAnySignatureOnChain rest
      | .ok signature => do
          match ← getTransactionStatus signature with
          | .ok status => return some (text, status)
          | .error _ => checkAnySignatureOnChain rest

def isBlockhashValid (transaction : SolanaTransaction) :
    Step (Except TransactionError Bool) := do
  match ← Program.ask (Request.isBlockhashValid transaction.message.recentBlockhash) with
  | .ok valid => return .ok valid
  | .error (.blockhashNotFound _) => return .ok false
  | .error error => return .error error.toTransactionError

/-- The last step of `handle_resubmit_or_expiration`: a transaction whose blockhash has
expired is resubmitted if the relayer is its only signer. -/
def resubmitOrExpire (transaction : TransactionRepoModel) (decoded : SolanaTransaction) :
    Step Outcome := do
  if isResubmitable decoded then
    match ← resubmitJob with
    | .error error =>
        return failure (.unexpectedError s!"Failed to enqueue resubmit job: {error}")
    | .ok _ => return .ok transaction
  else
    let required := decoded.message.header.numRequiredSignatures
    markAsExpired
      (s!"Blockhash expired and transaction requires {required} signatures " ++
        "(cannot resubmit)")

/-- The steps before: the blockhash is looked up. -/
def resubmitIfExpired (transaction : TransactionRepoModel) : Step Outcome := do
  match decodeSolanaTransaction transaction with
  | .error error => return failure error
  | .ok decoded =>
      match ← isBlockhashValid decoded with
      | .error error => return failure error
      | .ok true => return .ok transaction
      | .ok false => resubmitOrExpire transaction decoded

/-- The middle steps: nothing is done while the transaction is young, and one that is
found on the chain under an earlier signature is updated. -/
def followOnChain (transaction : TransactionRepoModel) : Step Outcome := do
  match ← timeSinceSentOrCreatedAt transaction with
  | none => return .ok transaction
  | some age =>
      if seconds age < solanaMinAgeForResubmitCheckSeconds then return .ok transaction
      match ← checkAnySignatureOnChain transaction.hashes with
      | some (found, status) =>
          updateTransactionStatusAndSendNotification (mapSolanaStatusToTransactionStatus status)
            (some { transaction.networkData with signature := some found })
      | none => resubmitIfExpired transaction

/-- `handle_resubmit_or_expiration`. -/
def handleResubmitOrExpiration (transaction : TransactionRepoModel) : Step Outcome := do
  if ← isValidUntilExpired transaction then
    return ← markAsExpired "Transaction valid_until timestamp has expired"
  if transaction.status = .submitted then
    if tooManySolanaAttempts transaction then
      let count := transaction.hashes.length
      return ← markAsFailed
        ("Transaction exceeded maximum resubmission attempts " ++
          s!"({count} > {maximumSolanaTxAttempts})")
    followOnChain transaction
  else
    match ← hasExceededTimeout transaction with
    | .error error => return failure error
    | .ok true =>
        let status := transaction.status.toText
        let minutes := (timeoutMinutes transaction.status).getD 0
        markAsFailed
          s!"Transaction stuck in {status} status for more than {minutes} minutes"
    | .ok false => followOnChain transaction

def handleDetectedStatus (transaction : TransactionRepoModel) (detected : TransactionStatus) :
    Step Outcome :=
  match detected with
  | .pending => handlePendingStatus transaction
  | .sent | .submitted => handleResubmitOrExpiration transaction
  | status => updateTransactionStatusIfNeeded transaction status

/-- The record is loaded again where the chain had news. -/
def handleNews (transaction : TransactionRepoModel) (detected : TransactionStatus) :
    Step Outcome := do
  if transaction.status = detected then
    return ← handleDetectedStatus transaction detected
  match ← getTransaction with
  | .error error => return failure error.toTransactionError
  | .ok latest => handleDetectedStatus latest detected

/-- `handle_transaction_status_impl`. -/
def handleTransactionStatus (context : Option StatusCheckContext)
    (transaction : TransactionRepoModel) : Step Outcome := do
  if transaction.status.isFinalState then return .ok transaction
  match context.filter StatusCheckContext.shouldForceFinalize with
  | some forced =>
      let consecutive := forced.consecutiveFailures
      let total := forced.totalFailures
      let status := transaction.status.toText
      markAsFailed
        (s!"Transaction status monitoring failed after {consecutive} consecutive errors " ++
          s!"(total: {total}). Last status: {status}. " ++
          "Unable to determine final on-chain state.")
  | none =>
      match ← checkOnchainTransactionStatus transaction with
      | .error error => return failure error
      | .ok detected => handleNews transaction detected

/-! ## Jobs -/

inductive Job where
  | prepare
  | submit
  | resubmit
  | status (context : Option StatusCheckContext)
  deriving DecidableEq, Repr

def handle (relayer : SolanaRelayerTransaction) : Job → TransactionRepoModel → Step Outcome
  | .prepare => prepareTransaction relayer
  | .submit => submitTransaction
  | .resubmit => resubmitTransaction
  | .status context => handleTransactionStatus context

/-- A delivered job loads the transaction and handles it. -/
def runJob (relayer : SolanaRelayerTransaction) (job : Job) : Step Outcome := do
  match ← getTransaction with
  | .error error => return failure error.toTransactionError
  | .ok transaction => handle relayer job transaction

end Relayer.SolanaLifecycle
