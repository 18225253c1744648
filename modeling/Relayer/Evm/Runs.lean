import Relayer.Core.Interleaving
import Relayer.Evm.Status

/-!
# Runs of EVM jobs on one record

Any number of jobs of one transaction run against its stored record, one call at a time and
in any order; jobs may be lost.  A read is told the stored record, or through a replica any
record that was stored before; a write that fails may have taken effect, and everything else
is left open.  An observer notes what it wants of each call.
-/

namespace Relayer.EvmRuns

open Relayer.Transaction Relayer.Interaction Relayer.Interleaving Relayer.EvmLifecycle

/-- The stored record, the records that were stored before, and the notes of an observer. -/
structure Shared (Note : Type) where
  record : TransactionRepoModel
  versions : List TransactionRepoModel
  note : Note

/-- The records that may follow a call with this answer. -/
def follow (settings : Settings) (readable : List TransactionRepoModel)
    (record : TransactionRepoModel) : (request : Request) → Answer request →
      List TransactionRepoModel
  | .getTransaction, .ok told => if told ∈ readable then [record] else []
  | .partialUpdate update, answer =>
      written record (record.partialUpdate settings.keepsFinal update)
        (record.partialUpdate settings.keepsFinal update) answer
  | .updateNetworkData data, answer =>
      written record { record with networkData := data } { record with networkData := data }
        answer
  | .signTransaction data, .ok response =>
      if settings.signer.sign data = .ok response then [record] else []
  | _, _ => [record]

/-- What the observer notes of a call, given the record before and after it, and of a lost
job; and what happens beside the jobs. -/
structure Watch (Note Event : Type) where
  observe : Delivery → (request : Request) → Answer request →
    (before after : TransactionRepoModel) → Note → Note
  lose : Delivery → Note → Note
  happen : Shared Note → Event → List (Shared Note)

abbrev Jobs (Note Event : Type) :=
  System Request Answer (Shared Note) Event Delivery (Except TransactionError Unit)

abbrev Jobs.Config (Note : Type) :=
  Interleaving.Config Request Answer (Shared Note) Delivery (Except TransactionError Unit)

variable {Note Event : Type}

def Shared.readable (replicated : Bool) (shared : Shared Note) : List TransactionRepoModel :=
  shared.record :: if replicated then shared.versions else []

def jobs (settings : Settings) (replicated : Bool) (runs : Job → Bool)
    (watch : Watch Note Event) : Jobs Note Event where
  launch delivery :=
    if runs delivery.job then some (delivery.job.run settings.platform settings.relayer)
    else none
  serve shared delivery request answer :=
    (follow settings (shared.readable replicated) shared.record request answer).map fun after =>
      ⟨after, shared.record :: shared.versions,
        watch.observe delivery request answer shared.record after shared.note⟩
  occur := watch.happen
  crash shared delivery := some { shared with note := watch.lose delivery shared.note }

/-! ## What a call does to the record -/

section Follow

variable {settings : Settings} {readable : List TransactionRepoModel}
  {record after : TransactionRepoModel}

end Follow

end Relayer.EvmRuns
