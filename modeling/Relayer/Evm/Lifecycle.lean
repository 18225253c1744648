import Relayer.Core.Interleaving
import Relayer.Evm.Replacement
import Relayer.Models.Record

/-!
# The jobs of an EVM transaction

`prepare_transaction` prices a transaction, takes a nonce for it and signs it,
`submit_transaction` sends what is stored, and `resubmit_transaction` raises the price,
signs anew and sends before it stores.  Each repository access and each request to the
provider, the signer, the counter or a queue is one call, and so is every look at the
clock.  The jobs are about one transaction, so the calls do not name it.
-/

namespace Relayer.EvmLifecycle

open Relayer.Transaction Relayer.EvmPricing Relayer.Interaction
open Relayer.TransactionRecord (TransactionMetadata)
open Relayer.EvmReplacement (NetworkTransactionData NetworkTransactionRequest
  SignTransactionResponse SignTransactionResponseEvm withSignedTransactionData)

abbrev TransactionRepoModel := TransactionRecord.TransactionRepoModel NetworkTransactionData

abbrev TransactionUpdateRequest :=
  TransactionRecord.TransactionUpdateRequest NetworkTransactionData

structure RelayerRepoModel extends EvmReplacement.RelayerRepoModel where
  network : String
  deriving DecidableEq, Repr

/-- What the code takes from its libraries: the lower case of a text, the reading and the
writing of timestamps in nanoseconds, and whether stored data can be made into a call. -/
structure Platform where
  toLowercase : String → String
  parseFromRfc3339 : String → Except String ℤ
  toRfc3339 : ℤ → String
  buildsRevertCallRequest : EvmTransactionData → Bool

/-! ## Answers of the provider -/

/-- The text before the first occurrence of a pattern. -/
def textBefore (pattern : List Char) : List Char → Option (List Char)
  | [] => if pattern.isEmpty then some [] else none
  | char :: rest =>
      if pattern.isPrefixOf (char :: rest) then some []
      else (textBefore pattern rest).map (char :: ·)

def containsText (text pattern : String) : Bool :=
  (textBefore pattern.toList text.toList).isSome

inductive SubmissionErrorKind where
  | nonceTooLow
  | alreadyKnown
  | replacementUnderpriced
  | nonceTooHigh
  | other (message : String)
  deriving DecidableEq, Repr

/-- `ALREADY_SUBMITTED_PATTERNS` with the kind that each one stands for. -/
def alreadySubmittedPatterns : List (String × SubmissionErrorKind) :=
  [("nonce too low", .nonceTooLow),
    ("nonce is too low", .nonceTooLow),
    ("already known", .alreadyKnown),
    ("replacement transaction underpriced", .replacementUnderpriced),
    ("same hash was already imported", .alreadyKnown)]

def nonceTooHighPatterns : List String :=
  ["nonce too high", "nonce is too high", "nonce too far in the future",
    "exceeds next nonce", "nonce out of range", "tx-nonce-too-high"]

/-- The first "known transaction" of the text does not end an "unknown transaction". -/
def matchesKnownTransaction (text : String) : Bool :=
  match textBefore "known transaction".toList text.toList with
  | some before => !"un".toList.isSuffixOf before
  | none => false

def classifySubmissionError (platform : Platform) (error : String) : SubmissionErrorKind :=
  let message := platform.toLowercase error
  match alreadySubmittedPatterns.find? fun entry => containsText message entry.1 with
  | some entry => entry.2
  | none =>
      if matchesKnownTransaction message then .alreadyKnown
      else if nonceTooHighPatterns.any (containsText message) then .nonceTooHigh
      else .other error

structure TransactionReceipt where
  succeeded : Bool
  blockNumber : Option UInt64
  «from» : String
  «to» : Option String
  deriving DecidableEq, Repr

/-! ## Calls -/

/-- The commands that the submission queue carries for these jobs. -/
inductive TransactionCommand where
  | submit
  | resubmit
  deriving DecidableEq, Repr

/-- Everything the jobs ask for. -/
inductive Request where
  | getTransaction
  | partialUpdate (update : TransactionUpdateRequest)
  | updateNetworkData (data : NetworkTransactionData)
  | getNonceOccupancy (first last : ℕ)
  | getAndIncrement
  | getByChainId (chainId : ℕ)
  | getByName (network : String)
  | estimateGas (data : EvmTransactionData)
  | getBlockByNumber
  | getTransactionPriceParams (data : EvmTransactionData)
  | calculateBumpedGasPrice (data : EvmTransactionData) (forceBump : Bool)
  | getBalance (address : String)
  | signTransaction (data : EvmTransactionData)
  | sendRawTransaction (raw : List UInt8)
  | getTransactionReceipt (hash : String)
  | getBlockNumber
  | getTransactionCount (address : String)
  | debugTraceTransaction (hash : String)
  | getCallRevertData (data : EvmTransactionData) (blockNumber : UInt64)
  | produceTransactionRequestJob
  | produceSubmitTransactionJob (command : TransactionCommand)
  | produceCheckTransactionStatusJob (retryDelaySeconds : UInt64) (trigger : Option String)
  | produceRelayerHealthCheckJob (nonceHint : Option ℕ)
  | sendTransactionUpdateNotification
  | shouldFire
  | clear
  | utcNow
  | acknowledge
  deriving DecidableEq

/-- Errors of the provider, the counter and the queues are their texts.  A block is its gas
limit, and a trace is its output where that is a text. -/
abbrev Answer : Request → Type
  | .getTransaction => Except RepositoryError TransactionRepoModel
  | .partialUpdate _ => Except RepositoryError TransactionRepoModel
  | .updateNetworkData _ => Except RepositoryError TransactionRepoModel
  | .getNonceOccupancy _ _ => Except RepositoryError (List (ℕ × Option TransactionStatus))
  | .getAndIncrement => Except String ℕ
  | .getByChainId _ => Except RepositoryError (Option (Except String EvmNetwork))
  | .getByName _ => Except RepositoryError (Option (Except String EvmNetwork))
  | .estimateGas _ => Except String ℕ
  | .getBlockByNumber => Except String ℕ
  | .getTransactionPriceParams _ => Except TransactionError PriceParams
  | .calculateBumpedGasPrice _ _ => Except TransactionError PriceParams
  | .getBalance _ => Except String ℕ
  | .signTransaction _ => Except TransactionError SignTransactionResponse
  | .sendRawTransaction _ => Except String String
  | .getTransactionReceipt _ => Except String (Option TransactionReceipt)
  | .getBlockNumber => Except String UInt64
  | .getTransactionCount _ => Except String ℕ
  | .debugTraceTransaction _ => Except String (Option String)
  | .getCallRevertData _ _ => Except String (Option (List UInt8))
  | .produceTransactionRequestJob => Except String Unit
  | .produceSubmitTransactionJob _ => Except String Unit
  | .produceCheckTransactionStatusJob _ _ => Except String Unit
  | .produceRelayerHealthCheckJob _ => Except String Unit
  | .sendTransactionUpdateNotification => Except String Unit
  | .shouldFire => Bool
  | .clear => Unit
  | .utcNow => ℤ
  | .acknowledge => Unit

abbrev Step (A : Type) := Task Request Answer TransactionError A

section Steps

open Task

/-- A write whose failure is returned. -/
def storeUpdate (update : TransactionUpdateRequest) : Step TransactionRepoModel := do
  let stored ← ask (Request.partialUpdate update)
  Task.ofExcept (stored.mapError RepositoryError.toTransactionError)

/-- A write whose failure is only logged: the job goes on with the record it has. -/
def storeUpdateOr (tx : TransactionRepoModel) (update : TransactionUpdateRequest) :
    Step TransactionRepoModel := do
  match ← ask (Request.partialUpdate update) with
  | .ok updated => return updated
  | .error _ => return tx

/-- Notifications are best effort. -/
def notify : Step Unit := do
  let _ ← ask Request.sendTransactionUpdateNotification
  return ()

def storeAndNotify (update : TransactionUpdateRequest) : Step TransactionRepoModel := do
  let updated ← storeUpdate update
  notify
  return updated

def sendTransactionSubmitJob : Step Unit := do
  match ← ask (Request.produceSubmitTransactionJob .submit) with
  | .ok _ => return ()
  | .error e => throw (.unexpectedError s!"Failed to produce submit job: {e}")

def sendTransactionResubmitJob : Step Unit := do
  match ← ask (Request.produceSubmitTransactionJob .resubmit) with
  | .ok _ => return ()
  | .error e => throw (.unexpectedError s!"Failed to produce resubmit job: {e}")

def sendTransactionRequestJob : Step Unit := do
  match ← ask Request.produceTransactionRequestJob with
  | .ok _ => return ()
  | .error e => throw (.unexpectedError s!"Failed to produce request job: {e}")

def defaultEvmStatusCheckRetryDelaySeconds : UInt64 := 8

/-- A network that cannot be looked up keeps the default delay. -/
def statusCheckRetryDelaySeconds (relayer : RelayerRepoModel) : Step UInt64 := do
  match ← ask (Request.getByName relayer.network) with
  | .ok (some (.ok network)) => return network.statusCheckRetryDelaySeconds
  | _ => return defaultEvmStatusCheckRetryDelaySeconds

/-- `schedule_nonce_recovery_status_check` after a nonce that was too low. -/
def scheduleNonceRecoveryStatusCheck (relayer : RelayerRepoModel) : Step Unit := do
  let delay ← statusCheckRetryDelaySeconds relayer
  match ← ask (Request.produceCheckTransactionStatusJob delay (some "NonceTooLow")) with
  | .ok _ => return ()
  | .error e => throw (.unexpectedError s!"Failed to schedule status check: {e}")

def NetworkTransactionData.nonceHint (data : NetworkTransactionData) : Option ℕ :=
  match data.getEvmTransactionData with
  | .ok evmData => evmData.nonce
  | .error _ => none

def scheduleRelayerNonceHealthJob (tx : TransactionRepoModel) : Step Unit := do
  match ← ask (Request.produceRelayerHealthCheckJob
      (NetworkTransactionData.nonceHint tx.networkData)) with
  | .ok _ => return ()
  | .error e => throw (.unexpectedError s!"Failed to schedule nonce health check: {e}")

def maxNonceTooHighRetries : UInt32 := 3

/-- Counts the retry and escalates once there were too many; nothing of it can fail the
job. -/
def handleNonceTooHigh (tx : TransactionRepoModel) : Step Unit := do
  let metadata := tx.metadata.getD {}
  let newCount := metadata.nonceTooHighRetries + 1
  let _ ← ask (Request.partialUpdate
    { metadata := some { metadata with nonceTooHighRetries := newCount }
      statusReason := some s!"Nonce too high (attempt {newCount})" })
  if maxNonceTooHighRetries ≤ newCount then
    let _ ← attempt (scheduleRelayerNonceHealthJob tx)
    return ()
  else return ()

/-- `update_transaction_status`. -/
def updateTransactionStatus (platform : Platform) (newStatus : TransactionStatus)
    (statusReason : Option String) : Step TransactionRepoModel := do
  if newStatus = .confirmed then
    let now ← ask Request.utcNow
    storeAndNotify
      { status := some newStatus
        confirmedAt := some (platform.toRfc3339 now)
        statusReason := statusReason }
  else
    storeAndNotify { status := some newStatus, statusReason := statusReason }

def markTransactionAsFailed (reason : String) : Step TransactionRepoModel :=
  storeAndNotify { status := some .failed, statusReason := some reason }

end Steps

/-! ## Replacement

`replace_transaction` and the balance check are those of the replacement's model; their
calls are among the calls of the jobs. -/

def ofReplacementCall : EvmReplacement.Call → Request
  | .getByChainId chainId => .getByChainId chainId
  | .getTransactionPriceParams data => .getTransactionPriceParams data
  | .getBalance address => .getBalance address
  | .signTransaction data => .signTransaction data
  | .updateNetworkData _ data => .updateNetworkData (.evm data)
  | .sendTransactionResubmitJob _ => .produceSubmitTransactionJob .resubmit
  | .sendTransactionUpdateNotification _ => .sendTransactionUpdateNotification

/-- The part of a record that a replacement reads. -/
def replaced (tx : TransactionRepoModel) : EvmReplacement.TransactionRepoModel :=
  ⟨tx.id, tx.status, tx.networkData⟩

def toReplacementAnswer :
    (call : EvmReplacement.Call) → Answer (ofReplacementCall call) → EvmReplacement.Answer call
  | .getByChainId _, answer =>
      answer.mapError RepositoryError.toText
  | .getTransactionPriceParams _, answer => answer
  | .getBalance _, answer => answer
  | .signTransaction _, answer => answer
  | .updateNetworkData _ _, answer => answer.map replaced
  | .sendTransactionResubmitJob _, answer =>
      answer.mapError fun e => .unexpectedError s!"Failed to produce resubmit job: {e}"
  | .sendTransactionUpdateNotification _, answer => answer.mapError .unexpectedError

def ofReplacement {A : Type} (task : EvmReplacement.EvmTask A) : Step A :=
  ExceptT.mk (task.run.embed ofReplacementCall toReplacementAnswer)

def replaceTransaction (relayer : RelayerRepoModel) (tx : TransactionRepoModel)
    (request : NetworkTransactionRequest) : Step EvmReplacement.TransactionRepoModel :=
  ofReplacement
    (EvmReplacement.replaceTransaction relayer.toRelayerRepoModel (replaced tx) request)

def ensureSufficientBalance (relayer : RelayerRepoModel) (totalCost : ℕ) : Step Unit :=
  ofReplacement (EvmReplacement.ensureSufficientBalance relayer.toRelayerRepoModel totalCost)

/-! ## Preparation -/

def erc20TransferGasLimit : ℕ := 65000
def erc721TransferGasLimit : ℕ := 80000
def complexGasLimit : ℕ := 200000
def gasLimitBufferMultiplier : ℕ := 110

def getEvmDefaultGasLimitForTx (data : EvmTransactionData) : ℕ :=
  match data.data with
  | none => defaultGasLimit
  | some text =>
      if "0xa9059cbb".toList.isPrefixOf text.toList then erc20TransferGasLimit
      else if "0x23b872dd".toList.isPrefixOf text.toList then erc721TransferGasLimit
      else complexGasLimit

section Preparation

open Task

/-- The estimate and a tenth more, in 64-bit arithmetic. -/
def estimateTxGasLimit (relayer : RelayerRepoModel) (data : EvmTransactionData) : Step ℕ := do
  if relayer.policy.gasLimitEstimation.getD true then
    match ← ask (Request.estimateGas data) with
    | .ok gas => return gas * gasLimitBufferMultiplier % 2 ^ 64 / 100
    | .error e => throw (.unexpectedError s!"Failed to estimate gas: {e}")
  else throw (.unexpectedError "Gas limit estimation is disabled")

/-- The data with a gas limit, or the reason why its limit does not fit into a block. -/
def determineGasLimit (relayer : RelayerRepoModel) (data : EvmTransactionData) :
    Step (Except String EvmTransactionData) := do
  match data.gasLimit with
  | none =>
      match ← attempt (estimateTxGasLimit relayer data) with
      | .ok estimated => return .ok { data with gasLimit := some estimated }
      | .error _ =>
          return .ok { data with gasLimit := some (getEvmDefaultGasLimitForTx data) }
  | some gasLimit =>
      match ← ask Request.getBlockByNumber with
      | .ok blockGasLimit =>
          if blockGasLimit < gasLimit then
            return .error (s!"Transaction gas limit ({gasLimit}) exceeds block gas limit " ++
              s!"({blockGasLimit})")
          else return .ok data
      | .error _ => return .ok data

/-- A transaction that has a nonce keeps it.  Any other one takes the next, which is stored
before anything is signed. -/
def assignNonce (platform : Platform) (tx : TransactionRepoModel) (data : EvmTransactionData)
    (params : PriceParams) : Step TransactionRepoModel := do
  match data.nonce with
  | some _ => return tx
  | none =>
      match ← ask Request.getAndIncrement with
      | .error e => throw (.unexpectedError e)
      | .ok newNonce =>
          let now ← ask Request.utcNow
          storeUpdate
            { networkData := some (.evm
                { data.withPriceParams params with nonce := some newNonce })
              pricedAt := some (platform.toRfc3339 now) }

/-- Signs data and takes the signature, the hash and the payload over. -/
def signData (data : EvmTransactionData) : Step EvmTransactionData := do
  let signed ← Task.ofExcept (← ask (Request.signTransaction data))
  let response ← Task.ofExcept signed.intoEvm
  return withSignedTransactionData data response

/-- Stores the signed data as sent and queues its submission. -/
def storeSigned (tx : TransactionRepoModel) (signed : EvmTransactionData) :
    Step TransactionRepoModel := do
  let updated ← storeUpdate
    { status := some .sent
      networkData := some (.evm signed)
      hashes := some (tx.hashes ++ signed.hash.toList) }
  match ← ask (Request.produceSubmitTransactionJob .submit) with
  | .error e => throw (.jobProducerError e)
  | .ok _ =>
      notify
      return updated

/-- Signs a transaction that has a nonce, with the prices just determined. -/
def signPrepared (tx : TransactionRepoModel) (params : PriceParams) :
    Step TransactionRepoModel := do
  let data ← Task.ofExcept tx.networkData.getEvmTransactionData
  let signed ← signData (data.withPriceParams params)
  storeSigned tx signed

/-- What follows once the gas limit is known. -/
def priceAndSign (platform : Platform) (relayer : RelayerRepoModel)
    (tx : TransactionRepoModel) (data : EvmTransactionData) : Step TransactionRepoModel := do
  let params ← Task.ofExcept (← ask (Request.getTransactionPriceParams data))
  match ← attempt (ensureSufficientBalance relayer params.totalCost) with
  | .error (.insufficientBalance message) =>
      markTransactionAsFailed (TransactionError.insufficientBalance message).toText
  | .error e => throw e
  | .ok _ =>
      let txWithNonce ← assignNonce platform tx data params
      signPrepared txWithNonce params

def prepareTransaction (platform : Platform) (relayer : RelayerRepoModel)
    (tx : TransactionRepoModel) : Step TransactionRepoModel := do
  if tx.status ≠ .pending then return tx
  let data ← Task.ofExcept tx.networkData.getEvmTransactionData
  match ← determineGasLimit relayer data with
  | .error reason => markTransactionAsFailed reason
  | .ok limited => priceAndSign platform relayer tx limited

end Preparation

/-! ## Submission -/

/-- Submission and resubmission are for these states. -/
def InFlight (status : TransactionStatus) : Prop := status = .sent ∨ status = .submitted

instance (status : TransactionStatus) : Decidable (InFlight status) :=
  inferInstanceAs (Decidable (_ ∨ _))

def isNoop (data : EvmTransactionData) : Bool :=
  data.value == 0 && data.data == some "0x" && data.«to» == some data.«from» &&
    data.speed.isSome

section Submission

open Task

def rawMissing : TransactionError := .invalidType "Raw transaction data is missing"

def resetRetries (tx : TransactionRepoModel) : Option TransactionMetadata :=
  tx.metadata.bind TransactionMetadata.withNonceRetriesReset

/-- The network has the payload that is stored. -/
def recordSubmission (platform : Platform) (tx : TransactionRepoModel) :
    Step TransactionRepoModel := do
  let now ← ask Request.utcNow
  let updated ← storeUpdateOr tx
    { status := some .submitted
      sentAt := some (platform.toRfc3339 now)
      metadata := resetRetries tx }
  notify
  return updated

/-- A submission that failed. -/
def rejectSubmission (platform : Platform) (relayer : RelayerRepoModel)
    (tx : TransactionRepoModel) (e : String) : Step TransactionRepoModel :=
  match classifySubmissionError platform e with
  | .alreadyKnown => recordSubmission platform tx
  | .replacementUnderpriced => recordSubmission platform tx
  | .nonceTooLow => do
      let _ ← ask (Request.partialUpdate
        { statusReason := some "Nonce error during submission: NonceTooLow" })
      let _ ← attempt (scheduleNonceRecoveryStatusCheck relayer)
      return tx
  | .nonceTooHigh => do
      handleNonceTooHigh tx
      return tx
  | .other _ => throw (.underlyingProvider e)

def submitTransaction (platform : Platform) (relayer : RelayerRepoModel)
    (tx : TransactionRepoModel) : Step TransactionRepoModel := do
  if ¬ InFlight tx.status then return tx
  let data ← Task.ofExcept tx.networkData.getEvmTransactionData
  match data.raw with
  | none => throw rawMissing
  | some raw =>
      match ← ask (Request.sendRawTransaction raw) with
      | .ok _ => recordSubmission platform tx
      | .error e => rejectSubmission platform relayer tx e

/-- The network has a payload of this nonce already: the stored hash is kept. -/
def keepOriginal (tx : TransactionRepoModel) : Step TransactionRepoModel :=
  storeUpdateOr tx { status := some .submitted, metadata := resetRetries tx }

/-- The network took the new payload. -/
def recordResubmission (platform : Platform) (tx : TransactionRepoModel)
    (signed : EvmTransactionData) : Step TransactionRepoModel := do
  let pricedAt ← ask Request.utcNow
  let sentAt ← ask Request.utcNow
  storeUpdateOr tx
    { networkData := some (.evm signed)
      hashes := some (tx.hashes ++ signed.hash.toList)
      status := some .submitted
      pricedAt := some (platform.toRfc3339 pricedAt)
      sentAt := some (platform.toRfc3339 sentAt)
      metadata := resetRetries tx }

/-- A resubmission that failed. -/
def rejectResubmission (platform : Platform) (relayer : RelayerRepoModel)
    (tx : TransactionRepoModel) (e : String) : Step TransactionRepoModel :=
  match classifySubmissionError platform e with
  | .alreadyKnown => keepOriginal tx
  | .replacementUnderpriced => keepOriginal tx
  | .nonceTooLow => do
      let _ ← attempt (scheduleNonceRecoveryStatusCheck relayer)
      keepOriginal tx
  | .nonceTooHigh => do
      handleNonceTooHigh tx
      return tx
  | .other _ => throw (.underlyingProvider e)

/-- Sends a payload that was just signed. -/
def sendResubmission (platform : Platform) (relayer : RelayerRepoModel)
    (tx : TransactionRepoModel) (signed : EvmTransactionData) : Step TransactionRepoModel := do
  match signed.raw with
  | none => throw rawMissing
  | some raw =>
      match ← ask (Request.sendRawTransaction raw) with
      | .ok _ => recordResubmission platform tx signed
      | .error e => rejectResubmission platform relayer tx e

def resubmitTransaction (platform : Platform) (relayer : RelayerRepoModel)
    (tx : TransactionRepoModel) : Step TransactionRepoModel := do
  if ¬ InFlight tx.status then return tx
  let data ← Task.ofExcept tx.networkData.getEvmTransactionData
  let bumped ← Task.ofExcept (← ask (Request.calculateBumpedGasPrice data (isNoop data)))
  if bumped.isMinBumped ≠ some true then return tx
  ensureSufficientBalance relayer bumped.totalCost
  let signed ← signData (data.withPriceParams bumped)
  sendResubmission platform relayer tx signed

end Submission

/-! ## Payloads -/

inductive Fees where
  | legacy (gasPrice : ℕ)
  | eip1559 (maxFeePerGas maxPriorityFeePerGas : ℕ)
  deriving DecidableEq, Repr

/-- What a signed payload says, with its input in hexadecimal. -/
structure Payload where
  chainId : ℕ
  nonce : ℕ
  gasLimit : ℕ
  fees : Fees
  «to» : Option String
  value : ℕ
  input : String
  deriving DecidableEq, Repr

def hexDigits (text : String) : String :=
  if "0x".toList.isPrefixOf text.toList then String.ofList (text.toList.drop 2) else text

/-- The payload that the signers build: `TxEip1559` where both of its prices are there and
`TxLegacy` where not. -/
def Payload.ofData (data : EvmTransactionData) : Payload where
  chainId := data.chainId
  nonce := data.nonce.getD 0
  gasLimit := data.gasLimit.getD defaultGasLimit
  fees :=
    if data.isEip1559 then
      .eip1559 (data.maxFeePerGas.getD 0) (data.maxPriorityFeePerGas.getD 0)
    else .legacy (data.gasPrice.getD 0)
  «to» := data.«to».filter (· ≠ "")
  value := data.value
  input := hexDigits (data.data.getD "")

/-- Signing is a function of the data, and a payload says what its data said. -/
structure Signer where
  sign : EvmTransactionData → Except TransactionError SignTransactionResponse
  decode : List UInt8 → Option Payload
  hashOf : List UInt8 → String
  decode_sign : ∀ data response, sign data = .ok (.evm response) →
    decode response.raw = some (Payload.ofData data)
  hashOf_sign : ∀ data response, sign data = .ok (.evm response) →
    response.hash = hashOf response.raw

/-- A signer that knows a few payloads, each under its number. -/
def Signer.ofPayloads (payloads : List Payload) : Signer where
  sign data :=
    if Payload.ofData data ∈ payloads then
      let number := payloads.idxOf (Payload.ofData data)
      .ok (.evm ⟨toString number, ⟨"", "", 0, ""⟩, List.replicate number 0⟩)
    else .error (.signerError "unknown payload")
  decode raw := payloads[raw.length]?
  hashOf raw := toString raw.length
  decode_sign data response hsign := by
    by_cases hmem : Payload.ofData data ∈ payloads
    · rw [if_pos hmem] at hsign
      cases hsign
      simp [hmem]
    · rw [if_neg hmem] at hsign
      cases hsign
  hashOf_sign data response hsign := by
    by_cases hmem : Payload.ofData data ∈ payloads
    · rw [if_pos hmem] at hsign
      cases hsign
      simp
    · rw [if_neg hmem] at hsign
      cases hsign

end Relayer.EvmLifecycle
