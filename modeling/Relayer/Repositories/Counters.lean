import Relayer.Models.Record

/-!
# Failure counters of a stored transaction

The operations with which the repositories count failed status checks.  Each is one atomic
step on the stored record and leaves a finished transaction alone.
-/

namespace Relayer.TransactionRecord

open Relayer.Transaction

/-- `saturating_add(1)`. -/
def saturatingSucc (count : UInt32) : UInt32 := if count = 4294967295 then count else count + 1

namespace TransactionRepoModel

variable {Data : Type}

/-- A record without counters counts from zero. -/
def counters (record : TransactionRepoModel Data) : TransactionMetadata :=
  record.metadata.getD {}

def incrementStatusCheckFailures (record : TransactionRepoModel Data) :
    TransactionRepoModel Data :=
  if record.status.isFinalState then record
  else
    { record with
      metadata := some
        { record.counters with
          consecutiveFailures := saturatingSucc record.counters.consecutiveFailures
          totalFailures := saturatingSucc record.counters.totalFailures } }

def resetStatusCheckConsecutiveFailures (record : TransactionRepoModel Data) :
    TransactionRepoModel Data :=
  if record.status.isFinalState then record
  else { record with metadata := some { record.counters with consecutiveFailures := 0 } }

end TransactionRepoModel

end Relayer.TransactionRecord
