import Relayer.Models.Transaction

/-!
# Stored transactions

The record that the repositories keep of a transaction and the partial updates that
jobs apply to it.  The data of the network is a parameter.  The time at which a final
record is deleted and the type of its network are left out.
-/

namespace Relayer.TransactionRecord

open Relayer.Transaction

/-- Counters of failed status checks and of retries. -/
structure TransactionMetadata where
  consecutiveFailures : UInt32 := 0
  totalFailures : UInt32 := 0
  insufficientFeeRetries : UInt32 := 0
  tryAgainLaterRetries : UInt32 := 0
  nonceTooHighRetries : UInt32 := 0
  deriving DecidableEq, Repr

def TransactionMetadata.withNonceRetriesReset (metadata : TransactionMetadata) :
    Option TransactionMetadata :=
  if metadata.nonceTooHighRetries = 0 then none
  else some { metadata with nonceTooHighRetries := 0 }

structure TransactionRepoModel (Data : Type) where
  id : String
  relayerId : String
  status : TransactionStatus
  statusReason : Option String
  createdAt : String
  sentAt : Option String
  confirmedAt : Option String
  validUntil : Option String
  networkData : Data
  pricedAt : Option String
  hashes : List String
  noopCount : Option UInt32
  isCanceled : Option Bool
  metadata : Option TransactionMetadata
  deriving DecidableEq, Repr

structure TransactionUpdateRequest (Data : Type) where
  status : Option TransactionStatus := none
  statusReason : Option String := none
  sentAt : Option String := none
  confirmedAt : Option String := none
  networkData : Option Data := none
  pricedAt : Option String := none
  hashes : Option (List String) := none
  noopCount : Option UInt32 := none
  isCanceled : Option Bool := none
  metadata : Option TransactionMetadata := none
  deriving DecidableEq, Repr

/-- Every field that the update names is overwritten. -/
def TransactionRepoModel.applyPartialUpdate {Data : Type} (record : TransactionRepoModel Data)
    (update : TransactionUpdateRequest Data) : TransactionRepoModel Data :=
  { record with
    status := update.status.getD record.status
    statusReason := update.statusReason.or record.statusReason
    sentAt := update.sentAt.or record.sentAt
    confirmedAt := update.confirmedAt.or record.confirmedAt
    networkData := update.networkData.getD record.networkData
    pricedAt := update.pricedAt.or record.pricedAt
    hashes := update.hashes.getD record.hashes
    noopCount := update.noopCount.or record.noopCount
    isCanceled := update.isCanceled.or record.isCanceled
    metadata := update.metadata.or record.metadata }

/-- The record after `partial_update`.  A repository that keeps the status of finished
transactions refuses an update that names one, as Redis does. -/
def TransactionRepoModel.partialUpdate {Data : Type} (keepsFinal : Bool)
    (record : TransactionRepoModel Data) (update : TransactionUpdateRequest Data) :
    TransactionRepoModel Data :=
  if keepsFinal && record.status.isFinalState && update.status.isSome then record
  else record.applyPartialUpdate update

namespace TransactionRepoModel

variable {Data : Type} {update : TransactionUpdateRequest Data}

theorem applyPartialUpdate_data (record : TransactionRepoModel Data)
    (hdata : update.networkData = none) :
    (record.applyPartialUpdate update).networkData = record.networkData := by
  rw [applyPartialUpdate, hdata]
  rfl

/-- A write takes effect or is refused. -/
theorem partialUpdate_cases (keepsFinal : Bool) (record : TransactionRepoModel Data)
    (update : TransactionUpdateRequest Data) :
    record.partialUpdate keepsFinal update = record ∨
      record.partialUpdate keepsFinal update = record.applyPartialUpdate update := by
  rw [partialUpdate]
  split
  · exact .inl rfl
  · exact .inr rfl

end TransactionRepoModel

end Relayer.TransactionRecord
