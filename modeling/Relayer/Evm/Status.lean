import Relayer.Evm.Lifecycle

/-!
# Status checks of an EVM transaction

`handle_status_impl` looks for the transaction on the chain, follows a hint that its
nonce was consumed, and drives what is stuck: pending transactions are prepared again or
failed, sent and submitted ones are resubmitted or replaced by a NOOP, a payment of
nothing to oneself that clears the nonce.  `cancel_transaction` asks for such a NOOP too.
Durations are in nanoseconds.
-/

namespace Relayer.EvmLifecycle

open Relayer.Transaction Relayer.EvmPricing Relayer.Interaction
open Relayer.EvmReplacement (NetworkTransactionData NetworkTransactionRequest)

/-! ## NOOPs -/

def arbitrumGasLimit : ℕ := 50000

/-- The self-send that takes the place of a transaction.  Signature, hash and payload stay
as they are. -/
def noopOf (data : EvmTransactionData) : EvmTransactionData :=
  { data with
    value := 0
    data := some "0x"
    «to» := some data.«from»
    speed := some defaultTransactionSpeed }

def withGasLimit (data : EvmTransactionData) (gasLimit : ℕ) : EvmTransactionData :=
  { data with gasLimit := some gasLimit }

section Noop

open Task

def makeNoop (network : EvmNetwork) (data : EvmTransactionData) :
    Step EvmTransactionData := do
  if network.isArbitrum then
    match ← ask (Request.estimateGas (noopOf data)) with
    | .ok estimated => return withGasLimit (noopOf data) (max estimated defaultGasLimit)
    | .error _ => return withGasLimit (noopOf data) arbitrumGasLimit
  else return withGasLimit (noopOf data) defaultGasLimit

/-- The network of a chain, as the status checks look it up. -/
def getNetwork (chainId : ℕ) : Step EvmNetwork := do
  match ← ask (Request.getByChainId chainId) with
  | .error e => throw e.toTransactionError
  | .ok none => throw (.unexpectedError s!"Network with chain id {chainId} not found")
  | .ok (some (.error e)) =>
      throw (.unexpectedError s!"Error converting network model to EvmNetwork: {e}")
  | .ok (some (.ok network)) => return network

def prepareNoopUpdateRequest (tx : TransactionRepoModel) (isCancellation : Bool)
    (reason : Option String) : Step TransactionUpdateRequest := do
  let data ← Task.ofExcept tx.networkData.getEvmTransactionData
  let network ← getNetwork data.chainId
  let noop ← makeNoop network data
  return {
    networkData := some (.evm noop)
    noopCount := some (tx.noopCount.getD 0 + 1)
    statusReason := reason
    isCanceled := if isCancellation then some true else tx.isCanceled }

def processNoopTransaction (tx : TransactionRepoModel) (reason : Option String) :
    Step TransactionRepoModel := do
  let update ← prepareNoopUpdateRequest tx false reason
  storeAndNotify update

def cancelTransaction (platform : Platform) (tx : TransactionRepoModel) :
    Step TransactionRepoModel := do
  Task.ofExcept (ensureStatusOneOf tx.status [.pending, .sent, .submitted]
    (some "cancel_transaction"))
  if tx.status = .pending then
    return ← updateTransactionStatus platform .canceled (some "Transaction canceled by user")
  let update ← prepareNoopUpdateRequest tx true
    (some "Transaction canceled by user, replacing with NOOP")
  let updated ← storeUpdate update
  sendTransactionResubmitJob
  notify
  return updated

end Noop

/-! ## Ages -/

def nanosPerSecond : ℤ := 1000000000
def nanosPerMilli : ℤ := 1000000
def defaultTxValidTimespanMs : ℤ := 8 * 60 * 60 * 1000
def evmMinAgeForResubmitSeconds : ℤ := 20
def evmPrepareTimeoutMinutes : ℤ := 2
def evmResendTimeoutSeconds : ℤ := 25
def evmPendingRecoveryTriggerSeconds : ℤ := 20
def evmMinAgeForHashRecoveryMinutes : ℤ := 2
def evmMinHashesForRecovery : ℕ := 3
def maximumTxAttempts : ℕ := 50
def maximumNoopRetryAttempts : UInt32 := 50
def arbitrumTimeToResubmitMs : ℤ := 20000
def maxGapScanRange : ℕ := 100

section Ages

open Task

def getAgeSinceCreated (platform : Platform) (tx : TransactionRepoModel) : Step ℤ := do
  match platform.parseFromRfc3339 tx.createdAt with
  | .error e => throw (.unexpectedError s!"Invalid created_at timestamp: {e}")
  | .ok created => do
      let now ← ask Request.utcNow
      return now - created

def getAgeOfSentAt (platform : Platform) (tx : TransactionRepoModel) : Step ℤ := do
  let now ← ask Request.utcNow
  match tx.sentAt with
  | none => throw (.unexpectedError "Transaction sent_at time is missing")
  | some sentAt =>
      match platform.parseFromRfc3339 sentAt with
      | .error _ => throw (.unexpectedError "Error parsing sent_at time")
      | .ok sent => return now - sent

def getAgeSinceStatusChange (platform : Platform) (tx : TransactionRepoModel) : Step ℤ := do
  match tx.sentAt with
  | some sentAt =>
      match platform.parseFromRfc3339 sentAt with
      | .error e => throw (.unexpectedError s!"Error parsing sent_at time: {e}")
      | .ok sent => do
          let now ← ask Request.utcNow
          return now - sent
  | none => getAgeSinceCreated platform tx

def isTransactionValid (platform : Platform) (tx : TransactionRepoModel) : Step Bool := do
  match tx.validUntil with
  | some validUntil =>
      match platform.parseFromRfc3339 validUntil with
      | .ok deadline => do
          let now ← ask Request.utcNow
          return decide (now < deadline)
      | .error _ => return false
  | none =>
      match platform.parseFromRfc3339 tx.createdAt with
      | .ok created => do
          let now ← ask Request.utcNow
          return decide (now < created + defaultTxValidTimespanMs * nanosPerMilli)
      | .error _ => return false

def isTooEarlyToResubmit (platform : Platform) (tx : TransactionRepoModel) : Step Bool := do
  let age ← getAgeSinceCreated platform tx
  return decide (age < evmMinAgeForResubmitSeconds * nanosPerSecond)

end Ages

def tooManyAttempts (tx : TransactionRepoModel) : Bool :=
  decide (maximumTxAttempts < tx.hashes.length)

def tooManyNoopAttempts (tx : TransactionRepoModel) : Bool :=
  decide (maximumNoopRetryAttempts < tx.noopCount.getD 0)

def isPendingTransaction (status : TransactionStatus) : Bool :=
  status == .pending || status == .sent || status == .submitted

def isActiveNonceStatus (status : TransactionStatus) : Bool :=
  status == .pending || status == .sent || status == .submitted || status == .mined

/-- 64-bit addition, as the release build does it. -/
def hasEnoughConfirmations (txBlockNumber currentBlockNumber requiredConfirmations : UInt64) :
    Bool :=
  decide (txBlockNumber + requiredConfirmations ≤ currentBlockNumber)

def getResubmitTimeoutForSpeed (speed : Option Speed) : ℤ :=
  match speed.getD defaultTransactionSpeed with
  | .safeLow => 10 * 60000
  | .average => 5 * 60000
  | .fast => 3 * 60000
  | .fastest => 2 * 60000

/-- Doubles with every attempt, in signed 64-bit arithmetic. -/
def getResubmitTimeoutWithBackoff (timeout : ℤ) (attempts : ℕ) : ℤ :=
  if attempts ≤ 1 then timeout else (timeout * 2 ^ (attempts - 1)).bmod (2 ^ 64)

/-! ## Recovery by earlier hashes -/

section Recovery

open Task

def updateTransactionWithCorrectedHash (data : EvmTransactionData) (correctHash : String)
    (status : TransactionStatus) : Step TransactionRepoModel :=
  storeAndNotify
    { networkData := some (.evm { data with hash := some correctHash })
      status := some status }

/-- Looks for a receipt of one of the hashes; the current hash is passed over, and so is
one whose receipt cannot be had. -/
def checkHistoricalHashes (data : EvmTransactionData) :
    List String → Step (Option TransactionRepoModel)
  | [] => return none
  | hash :: rest => do
      if data.hash = some hash then
        return ← checkHistoricalHashes data rest
      match ← ask (Request.getTransactionReceipt hash) with
      | .ok (some _) =>
          let updated ← updateTransactionWithCorrectedHash data hash .mined
          return some updated
      | .ok none => checkHistoricalHashes data rest
      | .error _ => checkHistoricalHashes data rest

/-- Most recent hash first. -/
def tryRecoverWithHistoricalHashes (tx : TransactionRepoModel) (data : EvmTransactionData) :
    Step (Option TransactionRepoModel) :=
  checkHistoricalHashes data tx.hashes.reverse

def shouldTryHashRecovery (platform : Platform) (tx : TransactionRepoModel) : Step Bool := do
  if tx.status ≠ .submitted then return false
  if tx.hashes.length ≤ 1 then return false
  let age ← getAgeOfSentAt platform tx
  return decide (evmMinAgeForHashRecoveryMinutes * 60 * nanosPerSecond ≤ age) &&
    decide (evmMinHashesForRecovery ≤ tx.hashes.length)

/-! ## Nonces that were consumed -/

/-- What the look at the current hash tells: a receipt, none, or an error. -/
inductive CurrentHash where
  | found
  | missing
  | failed
  deriving DecidableEq, Repr

def checkCurrentHash (data : EvmTransactionData) : Step CurrentHash := do
  match data.hash with
  | none => return .missing
  | some hash =>
      match ← ask (Request.getTransactionReceipt hash) with
      | .ok (some _) => return .found
      | .ok none => return .missing
      | .error _ => return .failed

/-- What the look at the earlier hashes tells: a recovered record, none, or an error. -/
def checkEarlierHashes (tx : TransactionRepoModel) (data : EvmTransactionData) :
    Step (Except TransactionError (Option TransactionRepoModel)) := do
  if 1 < tx.hashes.length then
    attempt (tryRecoverWithHistoricalHashes tx data)
  else return .ok none

def consumedExternally (txNonce onChainNonce : ℕ) : String :=
  s!"Nonce {txNonce} consumed externally (on-chain nonce: {onChainNonce}). " ++
    "No matching transaction hash found on-chain."

/-- Compares the nonce with the chain, once all hashes were looked at. -/
def compareOnChainNonce (platform : Platform) (relayer : RelayerRepoModel)
    (tx : TransactionRepoModel) (data : EvmTransactionData) :
    Step (Option TransactionRepoModel) := do
  match data.nonce with
  | none => return none
  | some txNonce =>
      match ← ask (Request.getTransactionCount relayer.address) with
      | .error e =>
          throw (.unexpectedError s!"Failed to get on-chain nonce for recovery: {e}")
      | .ok onChainNonce =>
          if txNonce < onChainNonce then
            let updated ← updateTransactionStatus platform .failed
              (some (consumedExternally txNonce onChainNonce))
            let _ ← attempt (scheduleRelayerNonceHealthJob tx)
            return some updated
          else return none

/-- A nonce counts as consumed externally only if no look at a hash failed. -/
def reconcileTxNonceState (platform : Platform) (relayer : RelayerRepoModel)
    (tx : TransactionRepoModel) : Step (Option TransactionRepoModel) := do
  let data ← Task.ofExcept tx.networkData.getEvmTransactionData
  match ← checkCurrentHash data with
  | .found => return none
  | .missing =>
      match ← checkEarlierHashes tx data with
      | .ok (some recovered) => return some recovered
      | .ok none => compareOnChainNonce platform relayer tx data
      | .error _ => return none
  | .failed =>
      match ← checkEarlierHashes tx data with
      | .ok (some recovered) => return some recovered
      | .ok none => return none
      | .error _ => return none

end Recovery

/-! ## The status on the chain -/

section OnChain

open Task

def providerFailure {A : Type} : Except String A → Except TransactionError A :=
  Except.mapError .underlyingProvider

/-- The status that a receipt stands for. -/
def statusOfReceipt (tx : TransactionRepoModel) (data : EvmTransactionData)
    (receipt : TransactionReceipt) : Step TransactionStatus := do
  if !receipt.succeeded then return .failed
  let lastBlockNumber ← Task.ofExcept (providerFailure (← ask Request.getBlockNumber))
  match receipt.blockNumber with
  | none => throw (.unexpectedError "Transaction receipt missing block number")
  | some txBlockNumber =>
      let network ← getNetwork data.chainId
      if !hasEnoughConfirmations txBlockNumber lastBlockNumber
          network.requiredConfirmations then
        return .mined
      if tx.isCanceled = some true ∧ receipt.«to» = some receipt.«from» then
        return .canceled
      return .confirmed

/-- Without a receipt an earlier hash may have been mined. -/
def statusWithoutReceipt (platform : Platform) (tx : TransactionRepoModel)
    (data : EvmTransactionData) : Step TransactionStatus := do
  if tx.hashes.length ≤ 1 then return .submitted
  if ← shouldTryHashRecovery platform tx then
    match ← tryRecoverWithHistoricalHashes tx data with
    | some recovered => return recovered.status
    | none => return .submitted
  else return .submitted

def checkTransactionStatus (platform : Platform) (tx : TransactionRepoModel) :
    Step TransactionStatus := do
  if tx.status.isFinalState ∨ tx.status = .pending ∨ tx.status = .sent then
    return tx.status
  let data ← Task.ofExcept tx.networkData.getEvmTransactionData
  match data.hash with
  | none => throw (.unexpectedError "Transaction hash is missing")
  | some hash =>
      let receipt ← Task.ofExcept
        (providerFailure (← ask (Request.getTransactionReceipt hash)))
      match receipt with
      | some receipt => statusOfReceipt tx data receipt
      | none => statusWithoutReceipt platform tx data

/-! ## Revert data -/

def defaultEvmIncludeRevertData : Bool := false

def revertReasonGeneric : String := "Transaction reverted on-chain (receipt status: failed)"

def maxRevertDataHexLen : ℕ := 4096

def truncateRevertHex (hex : String) : String :=
  if hex.toList.length ≤ maxRevertDataHexLen then hex
  else String.ofList (hex.toList.take maxRevertDataHexLen) ++ "...(truncated)"

def isAsciiHexDigit (char : Char) : Bool :=
  char.isDigit || ('a' ≤ char && char ≤ 'f') || ('A' ≤ char && char ≤ 'F')

/-- A text that is `0x` and at least one hexadecimal digit. -/
def isRevertHex (text : String) : Bool :=
  match text.toList with
  | '0' :: 'x' :: rest => !rest.isEmpty && rest.all isAsciiHexDigit
  | _ => false

def hexDigit (value : ℕ) : Char := "0123456789abcdef".toList.getD value '0'

def hexEncode (bytes : List UInt8) : String :=
  String.ofList (bytes.flatMap fun byte =>
    [hexDigit (byte.toNat / 16), hexDigit (byte.toNat % 16)])

/-- Runs the transaction again as a call at the block that executed it. -/
def recoverByCall (platform : Platform) (data : EvmTransactionData) (hash : String) :
    Step (Option String) := do
  match ← ask (Request.getTransactionReceipt hash) with
  | .ok (some receipt) =>
      match receipt.blockNumber with
      | none => return none
      | some blockNumber =>
          if platform.buildsRevertCallRequest data then
            match ← ask (Request.getCallRevertData data blockNumber) with
            | .ok (some bytes) =>
                if bytes.isEmpty then return none
                else return some ("0x" ++ hexEncode bytes)
            | _ => return none
          else return none
  | _ => return none

def recoverRevertData (platform : Platform) (tx : TransactionRepoModel) :
    Step (Option String) := do
  match tx.networkData.getEvmTransactionData with
  | .error _ => return none
  | .ok data =>
      match data.hash with
      | none => return none
      | some hash =>
          match ← ask (Request.debugTraceTransaction hash) with
          | .ok (some output) =>
              if isRevertHex output then return some output
              else recoverByCall platform data hash
          | _ => recoverByCall platform data hash

def buildFailedStatusReason (platform : Platform) (relayer : RelayerRepoModel)
    (tx : TransactionRepoModel) : Step String := do
  if relayer.policy.includeRevertData.getD defaultEvmIncludeRevertData then
    match ← recoverRevertData platform tx with
    | some hex =>
        let data := truncateRevertHex hex
        return s!"Transaction reverted on-chain (revert_data: {data})"
    | none => return revertReasonGeneric
  else return revertReasonGeneric

end OnChain

/-! ## What is stuck -/

section Stuck

open Task

def updateTransactionStatusIfNeeded (platform : Platform) (tx : TransactionRepoModel)
    (newStatus : TransactionStatus) (statusReason : Option String) :
    Step TransactionRepoModel :=
  if tx.status ≠ newStatus then updateTransactionStatus platform newStatus statusReason
  else return tx

/-- A gas limit that no longer fits into a block. -/
def exceedsBlockGasLimit (data : EvmTransactionData) : Step (Option String) := do
  match ← ask Request.getBlockByNumber with
  | .error _ => return none
  | .ok blockGasLimit =>
      match data.gasLimit with
      | none => return none
      | some gasLimit =>
          if blockGasLimit < gasLimit then
            return some ("Transaction gas limit (" ++ toString gasLimit ++
              ") exceeds block gas limit (" ++ toString blockGasLimit ++
              "). Replacing with NOOP.")
          else return none

/-- A pending transaction that was not prepared in time. -/
def exceedsPrepareTimeout (platform : Platform) (tx : TransactionRepoModel) : Step Bool := do
  if tx.status = .pending then
    let age ← getAgeSinceCreated platform tx
    return decide (evmPrepareTimeoutMinutes * 60 * nanosPerSecond < age)
  else return false

/-- The reason why a transaction is to be replaced by a NOOP, if there is one. -/
def shouldNoop (platform : Platform) (tx : TransactionRepoModel) : Step (Option String) := do
  if tooManyNoopAttempts tx then return none
  let data ← Task.ofExcept tx.networkData.getEvmTransactionData
  if isNoop data then return none
  let network ← getNetwork data.chainId
  if network.isRollup && tooManyAttempts tx then
    return some "Rollup transaction has too many attempts. Replacing with NOOP."
  if ← isTransactionValid platform tx then
    if ← exceedsPrepareTimeout platform tx then
      return some "Transaction in Pending state for over 2 minutes. Replacing with NOOP."
    else exceedsBlockGasLimit data
  else return some "Transaction is expired. Replacing with NOOP."

def shouldResubmit (platform : Platform) (tx : TransactionRepoModel) : Step Bool := do
  if tx.status ≠ .submitted then
    let current := tx.status.toText
    throw (.validationError
      s!"Invalid transaction state for should_resubmit. Current: {current}, Expected: Submitted")
  let data ← Task.ofExcept tx.networkData.getEvmTransactionData
  let age ← getAgeOfSentAt platform tx
  let network ← getNetwork data.chainId
  let timeout :=
    if network.isArbitrum then arbitrumTimeToResubmitMs
    else getResubmitTimeoutWithBackoff (getResubmitTimeoutForSpeed data.speed)
      tx.hashes.length
  return decide (timeout * nanosPerMilli < age)

/-- At most one health job for each relayer and window; a job that could not be queued
frees the window. -/
def debouncedHealthJob (tx : TransactionRepoModel) : Step Unit := do
  if ← ask Request.shouldFire then
    match ← attempt (scheduleRelayerNonceHealthJob tx) with
    | .ok _ => return ()
    | .error _ =>
        ask Request.clear
  else return ()

/-- Whether an empty slot below blocks the transaction, where that can be told. -/
def detectNonceGapAhead (relayer : RelayerRepoModel) (tx : TransactionRepoModel) :
    Step (Option Bool) := do
  match NetworkTransactionData.nonceHint tx.networkData with
  | none => return none
  | some txNonce =>
      match ← ask (Request.getTransactionCount relayer.address) with
      | .error _ => return none
      | .ok onChainNonce =>
          if txNonce ≤ onChainNonce then return some false
          let scanTo := min txNonce ((onChainNonce + maxGapScanRange) % 2 ^ 64)
          match ← ask (Request.getNonceOccupancy onChainNonce scanTo) with
          | .error _ => return none
          | .ok occupancy =>
              if occupancy.all fun slot => slot.2.any isActiveNonceStatus then
                return some false
              debouncedHealthJob tx
              return some true

def handleResubmission (platform : Platform) (tx : TransactionRepoModel) :
    Step TransactionRepoModel := do
  match ← shouldNoop platform tx with
  | some reason =>
      let noop ← processNoopTransaction tx (some reason)
      sendTransactionResubmitJob
      return noop
  | none =>
      sendTransactionResubmitJob
      return tx

def handleSubmittedState (platform : Platform) (relayer : RelayerRepoModel)
    (tx : TransactionRepoModel) : Step TransactionRepoModel := do
  if ← shouldResubmit platform tx then
    if (← detectNonceGapAhead relayer tx) = some true then
      updateTransactionStatusIfNeeded platform tx .submitted none
    else handleResubmission platform tx
  else updateTransactionStatusIfNeeded platform tx .submitted none

def handlePendingState (platform : Platform) (tx : TransactionRepoModel) :
    Step TransactionRepoModel := do
  match ← shouldNoop platform tx with
  | some reason => storeAndNotify { status := some .failed, statusReason := some reason }
  | none =>
      let age ← getAgeSinceCreated platform tx
      if evmPendingRecoveryTriggerSeconds * nanosPerSecond < age then
        sendTransactionRequestJob
        return tx
      else return tx

/-- A NOOP of a sent transaction is queued for submission. -/
def handleSentState (platform : Platform) (relayer : RelayerRepoModel)
    (tx : TransactionRepoModel) : Step TransactionRepoModel := do
  match ← shouldNoop platform tx with
  | some reason =>
      let update ← prepareNoopUpdateRequest tx false (some reason)
      let updated ← storeUpdate update
      sendTransactionSubmitJob
      notify
      return updated
  | none =>
      let age ← getAgeSinceStatusChange platform tx
      if evmResendTimeoutSeconds * nanosPerSecond < age then
        if (← detectNonceGapAhead relayer tx) = some true then
          updateTransactionStatusIfNeeded platform tx .sent none
        else
          sendTransactionResubmitJob
          updateTransactionStatusIfNeeded platform tx .sent none
      else updateTransactionStatusIfNeeded platform tx .sent none

/-- Pending transactions fail; those that hold a nonce are replaced by a NOOP. -/
def handleCircuitBreakerSafely (tx : TransactionRepoModel) (context : StatusCheckContext) :
    Step TransactionRepoModel := do
  let current := tx.status.toText
  let reason := "Transaction status monitoring failed after " ++
    s!"{context.consecutiveFailures} consecutive errors (total: {context.totalFailures}). " ++
    s!"Last status: {current}."
  match tx.status with
  | .pending => markTransactionAsFailed reason
  | .sent =>
      if (NetworkTransactionData.nonceHint tx.networkData).isSome then
        let noop ← processNoopTransaction tx (some (reason ++
          ". Replacing with NOOP to clear nonce slot (Sent state with assigned nonce)."))
        sendTransactionResubmitJob
        return noop
      else markTransactionAsFailed reason
  | .submitted =>
      let noop ← processNoopTransaction tx
        (some (reason ++ ". Replacing with NOOP to clear nonce slot."))
      sendTransactionResubmitJob
      return noop
  | _ => return tx

end Stuck

/-! ## Status checks -/

section StatusCheck

open Task

def isNoopTx (tx : TransactionRepoModel) : Bool :=
  match tx.networkData.getEvmTransactionData with
  | .ok data => isNoop data
  | .error _ => false

/-- What is done about a status; a record that was changed meanwhile was loaded again. -/
def handleStatus (platform : Platform) (relayer : RelayerRepoModel)
    (tx : TransactionRepoModel) (status : TransactionStatus) : Step TransactionRepoModel := do
  if (← isTooEarlyToResubmit platform tx) && isPendingTransaction status then
    return ← updateTransactionStatusIfNeeded platform tx status none
  match status with
  | .pending => handlePendingState platform tx
  | .sent => handleSentState platform relayer tx
  | .submitted => handleSubmittedState platform relayer tx
  | .mined => updateTransactionStatusIfNeeded platform tx .mined none
  | .failed =>
      if tx.status ≠ .failed then
        let reason ← buildFailedStatusReason platform relayer tx
        updateTransactionStatusIfNeeded platform tx .failed (some reason)
      else updateTransactionStatusIfNeeded platform tx .failed none
  | .confirmed => updateTransactionStatusIfNeeded platform tx .confirmed none
  | .expired => updateTransactionStatusIfNeeded platform tx .expired none
  | .canceled => updateTransactionStatusIfNeeded platform tx .canceled none

def getById : Step TransactionRepoModel := do
  let loaded ← ask Request.getTransaction
  Task.ofExcept (loaded.mapError RepositoryError.toTransactionError)

/-- The flow of a check without a hint, or after one that settled nothing. -/
def checkAndHandle (platform : Platform) (relayer : RelayerRepoModel)
    (tx : TransactionRepoModel) : Step TransactionRepoModel := do
  let status ← checkTransactionStatus platform tx
  if status ≠ tx.status then
    let reloaded ← getById
    handleStatus platform relayer reloaded status
  else handleStatus platform relayer tx status

/-- What a job carries for the check: the failure counters, and whether a nonce is to be
reconciled. -/
structure CheckContext where
  counters : StatusCheckContext
  nonceReconcileTrigger : Bool
  deriving DecidableEq, Repr

def handleStatusImpl (platform : Platform) (relayer : RelayerRepoModel)
    (tx : TransactionRepoModel) (context : Option CheckContext) :
    Step TransactionRepoModel := do
  if tx.status.isFinalState then return tx
  match context with
  | none => checkAndHandle platform relayer tx
  | some context =>
      if context.counters.shouldForceFinalize && !isNoopTx tx then
        handleCircuitBreakerSafely tx context.counters
      else if context.nonceReconcileTrigger then
        match ← attempt (reconcileTxNonceState platform relayer tx) with
        | .ok (some recovered) => return recovered
        | .ok none => checkAndHandle platform relayer tx
        | .error _ => checkAndHandle platform relayer tx
      else checkAndHandle platform relayer tx

end StatusCheck

/-! ## Jobs -/

inductive Job where
  | prepare
  | submit
  | resubmit
  | status (context : Option CheckContext)
  | cancel
  | replace (request : NetworkTransactionRequest)
  deriving DecidableEq, Repr

/-- What a job does with the record it has loaded. -/
def Job.perform (platform : Platform) (relayer : RelayerRepoModel) (tx : TransactionRepoModel) :
    Job → Step Unit
  | prepare => do
      let _ ← prepareTransaction platform relayer tx
      return ()
  | submit => do
      let _ ← submitTransaction platform relayer tx
      return ()
  | resubmit => do
      let _ ← resubmitTransaction platform relayer tx
      return ()
  | status context => do
      let _ ← handleStatusImpl platform relayer tx context
      return ()
  | cancel => do
      let _ ← cancelTransaction platform tx
      return ()
  | replace request => do
      let _ ← replaceTransaction relayer tx request
      return ()

/-- A job loads the transaction, does its work and is acknowledged. -/
def Job.run (platform : Platform) (relayer : RelayerRepoModel) (job : Job) : Step Unit := do
  let outcome ← Task.attempt do
    let tx ← getById
    job.perform platform relayer tx
  Task.ask Request.acknowledge
  Task.ofExcept outcome

/-- A delivered job. -/
structure Delivery where
  number : ℕ
  job : Job
  deriving DecidableEq, Repr

/-- Whose jobs run, and whether the repository keeps the status of finished transactions. -/
structure Settings where
  platform : Platform
  relayer : RelayerRepoModel
  signer : Signer
  keepsFinal : Bool

/-! ## A transfer

A plain transfer and services that succeed, for examples of runs. -/

def samplePlatform : Platform := ⟨id, fun _ => .ok 0, fun _ => "", fun _ => false⟩

def sampleRelayer : RelayerRepoModel := ⟨EvmReplacement.sampleRelayer, "mainnet"⟩

def sampleTransfer (nonce : Option ℕ) (gasPrice : Option ℕ) : EvmTransactionData :=
  { EvmReplacement.sampleData with nonce := nonce, gasPrice := gasPrice, value := 5 }

/-- The transfer as it was stored, with timestamps that every update sets again. -/
def sampleRecord (status : TransactionStatus) (data : EvmTransactionData)
    (hashes : List String) : TransactionRepoModel where
  id := "tx"
  relayerId := "relayer"
  status := status
  statusReason := none
  createdAt := ""
  sentAt := some ""
  confirmedAt := none
  validUntil := none
  networkData := .evm data
  pricedAt := some ""
  hashes := hashes
  noopCount := none
  isCanceled := none
  metadata := none

def samplePrice (gasPrice : ℕ) : PriceParams :=
  ⟨some gasPrice, none, none, some true, none, gasPrice * 21000 + 5⟩

/-- Answers while the record is `current`, the counter is at `nonce` and the market price
is `gasPrice`; the clock shows the given hour. -/
def sampleAnswers (signer : Signer) (current : TransactionRepoModel) (nonce gasPrice : ℕ)
    (hour : ℤ) : (request : Request) → Answer request
  | .getTransaction => .ok current
  | .partialUpdate update => .ok (current.applyPartialUpdate update)
  | .updateNetworkData data => .ok { current with networkData := data }
  | .getNonceOccupancy _ _ => .ok []
  | .getAndIncrement => .ok nonce
  | .getByChainId _ => .ok (some (.ok (sampleNetwork [])))
  | .getByName _ => .ok (some (.ok (sampleNetwork [])))
  | .estimateGas _ => .ok 21000
  | .getBlockByNumber => .ok 30000000
  | .getTransactionPriceParams _ => .ok (samplePrice gasPrice)
  | .calculateBumpedGasPrice _ _ => .ok (samplePrice gasPrice)
  | .getBalance _ => .ok 1000000000
  | .signTransaction data => signer.sign data
  | .sendRawTransaction raw => .ok (signer.hashOf raw)
  | .getTransactionReceipt _ => .ok none
  | .getBlockNumber => .ok 100
  | .getTransactionCount _ => .ok nonce
  | .debugTraceTransaction _ => .ok none
  | .getCallRevertData _ _ => .ok none
  | .produceTransactionRequestJob => .ok ()
  | .produceSubmitTransactionJob _ => .ok ()
  | .produceCheckTransactionStatusJob _ _ => .ok ()
  | .produceRelayerHealthCheckJob _ => .ok ()
  | .sendTransactionUpdateNotification => .ok ()
  | .shouldFire => true
  | .clear => ()
  | .utcNow => hour * 3600 * nanosPerSecond
  | .acknowledge => ()

end Relayer.EvmLifecycle
