import Relayer.Core.ReadModifyWrite
import Relayer.Repositories.Counters

/-!
# Updates of the in-memory repository

Most updates of a stored transaction hold the lock while they change the record.
`update_network_data` and `set_confirmed_at` read the record, give the lock back, change
their copy and write the whole record; what others have written in between is lost.

Updates run interleaved, one turn of the lock at a time.  Those that have returned should
have the same effect as if they had run one after the other; this is the general notion of
linearizable updates, for operations that never refuse.
-/

namespace Relayer.InMemoryUpdates

open Relayer.Transaction Relayer.TransactionRecord Relayer.Interaction Relayer.Interleaving
open Relayer.ReadModifyWrite (InOrder Memory Recalled)

inductive Operation (Data : Type) where
  | partialUpdate (update : TransactionUpdateRequest Data)
  | updateStatus (status : TransactionStatus)
  | updateNetworkData (data : Data)
  | setSentAt (sentAt : String)
  | setConfirmedAt (confirmedAt : String)
  | incrementStatusCheckFailures
  | resetStatusCheckConsecutiveFailures
  | recordStellarInsufficientFeeRetry (sentAt : String)
  | recordStellarTryAgainLaterRetry (sentAt : String)
  deriving DecidableEq

structure Delivery (Data : Type) where
  number : ℕ
  operation : Operation Data
  deriving DecidableEq

/-- Each call is one turn of the lock. -/
inductive Request (Data : Type) where
  | locked (operation : Operation Data)
  | getById
  | update (record : TransactionRepoModel Data)

abbrev Answer {Data : Type} (_ : Request Data) : Type := TransactionRepoModel Data

variable {Data : Type}

/-- A retry is counted and the time of the last attempt kept, except for finished records. -/
def recordRetry (record : TransactionRepoModel Data) (sentAt : String)
    (count : TransactionMetadata → TransactionMetadata) : TransactionRepoModel Data :=
  if record.status.isFinalState then record
  else { record with metadata := some (count record.counters), sentAt := some sentAt }

/-- What an operation does to the record when nothing comes in between. -/
def Operation.apply (record : TransactionRepoModel Data) :
    Operation Data → TransactionRepoModel Data
  | .partialUpdate update => record.applyPartialUpdate update
  | .updateStatus status => record.applyPartialUpdate { status := some status }
  | .updateNetworkData data => { record with networkData := data }
  | .setSentAt sentAt => record.applyPartialUpdate { sentAt := some sentAt }
  | .setConfirmedAt confirmedAt => { record with confirmedAt := some confirmedAt }
  | .incrementStatusCheckFailures => record.incrementStatusCheckFailures
  | .resetStatusCheckConsecutiveFailures => record.resetStatusCheckConsecutiveFailures
  | .recordStellarInsufficientFeeRetry sentAt =>
      recordRetry record sentAt fun metadata =>
        { metadata with
          insufficientFeeRetries := saturatingSucc metadata.insufficientFeeRetries }
  | .recordStellarTryAgainLaterRetry sentAt =>
      recordRetry record sentAt fun metadata =>
        { metadata with tryAgainLaterRetries := saturatingSucc metadata.tryAgainLaterRetries }

abbrev Step (Data : Type) := Program (Request Data) Answer

def getById : Step Data (TransactionRepoModel Data) := Program.ask Request.getById

def update (record : TransactionRepoModel Data) : Step Data (TransactionRepoModel Data) :=
  Program.ask (Request.update record)

def Operation.run : Operation Data → Step Data (TransactionRepoModel Data)
  | .updateNetworkData data => do
      let tx ← getById
      update { tx with networkData := data }
  | .setConfirmedAt confirmedAt => do
      let tx ← getById
      update { tx with confirmedAt := some confirmedAt }
  | operation => Program.ask (.locked operation)

def Delivery.apply (delivery : Delivery Data) (record : TransactionRepoModel Data) :
    Option (TransactionRepoModel Data) :=
  some (delivery.operation.apply record)

abbrev Shared (Data : Type) :=
  ReadModifyWrite.Shared (TransactionRepoModel Data) (Delivery Data)

section System

variable [DecidableEq Data]

def serve (shared : Shared Data) (delivery : Delivery Data) :
    (request : Request Data) → Answer request → List (Shared Data)
  | .locked operation, answer =>
      if answer = operation.apply shared.record then [shared.write delivery answer] else []
  | .getById, answer =>
      if answer = shared.record then [shared.read delivery answer] else []
  | .update record, answer =>
      if answer = record then [shared.write delivery answer] else []

def updates (Data : Type) [DecidableEq Data] :
    System (Request Data) Answer (Shared Data) Empty (Delivery Data) (TransactionRepoModel Data)
    where
  launch delivery := some delivery.operation.run
  serve := serve
  occur _ event := nomatch event
  crash _ _ := none

/-- A record is written back only while it is as it was read. -/
def writesCurrent (shared : Shared Data) (delivery : Delivery Data) : Request Data → Bool
  | .update _ => delivery ∈ shared.current
  | _ => true

end System

abbrev Updates (Data : Type) :=
  Config (Request Data) Answer (Shared Data) (Delivery Data) (TransactionRepoModel Data)

def initial (record : TransactionRepoModel Data) : Updates Data := ⟨.first record, []⟩

/-- The record is that of the operations that have returned, one after the other. -/
abbrev Linearizable (record : TransactionRepoModel Data) (config : Updates Data) : Prop :=
  ReadModifyWrite.Linearizable Delivery.apply (fun _ => true) record config

/-! ## Undisturbed updates -/

def conduct (delivery : Delivery Data) :
    Protocol (Request Data) Answer (Memory (TransactionRepoModel Data)) where
  allowed
    | .fresh, .getById => True
    | .fresh, .locked operation => operation = delivery.operation
    | .read told, .update record => record = delivery.operation.apply told
    | _, _ => False
  possible _ _ _ := True
  remember
    | _, .getById, answer => .read answer
    | _, _, _ => .finished

theorem follows_run (delivery : Delivery Data) :
    delivery.operation.run.Follows (conduct delivery) (fun later _ => later = .finished)
      .fresh := by
  obtain ⟨number, operation⟩ := delivery
  cases operation with
  | updateNetworkData data => exact ⟨trivial, fun _ _ => ⟨rfl, fun _ _ => rfl⟩⟩
  | setConfirmedAt confirmedAt => exact ⟨trivial, fun _ _ => ⟨rfl, fun _ _ => rfl⟩⟩
  | _ => exact ⟨rfl, fun _ _ => rfl⟩

/-- An operation that returns took effect on the record as it is. -/
theorem completes_conduct {record written : TransactionRepoModel Data} {shared : Shared Data}
    {delivery : Delivery Data} (horder : InOrder Delivery.apply record shared)
    (hnew : delivery ∉ shared.completed)
    (hwritten : written = delivery.operation.apply shared.record) :
    InOrder Delivery.apply record (shared.write delivery written) ∧ True ∧
      Recalled delivery .finished (shared.write delivery written) ∧
      ∀ other, other ≠ delivery → ∀ kept, Recalled other kept shared →
        Recalled other kept (shared.write delivery written) :=
  ⟨horder.write hnew (congrArg some hwritten.symm), trivial, .write,
    fun _ hother _ hkept => hkept.write_other hother⟩

theorem upholds_conduct [DecidableEq Data] (record : TransactionRepoModel Data) :
    Upholds ((updates Data).restrict writesCurrent) conduct
      (fun _ later _ => later = .finished) .fresh (InOrder Delivery.apply record) Recalled where
  launch delivery program hlaunch := by
    cases hlaunch
    exact follows_run delivery
  serve delivery memory shared request answer _ horder hmemory hallowed after hafter := by
    obtain ⟨hadmitted, hserved⟩ := System.mem_serve_restrict.mp hafter
    cases request with
    | getById =>
        cases memory with
        | fresh =>
            obtain ⟨-, hserved⟩ := List.mem_ite_nil_right.mp hserved
            obtain rfl := List.mem_singleton.mp hserved
            exact ⟨horder.read, trivial, hmemory.read, fun _ hother _ hkept =>
              hkept.read_other hother⟩
        | read told => cases hallowed
        | finished => cases hallowed
    | locked operation =>
        cases memory with
        | fresh =>
            obtain ⟨hanswer, hserved⟩ := List.mem_ite_nil_right.mp hserved
            obtain rfl := List.mem_singleton.mp hserved
            exact completes_conduct horder hmemory.1 (hallowed ▸ hanswer)
        | read told => cases hallowed
        | finished => cases hallowed
    | update written =>
        cases memory with
        | read told =>
            have hcurrent : shared.record = told := hmemory.2 (of_decide_eq_true hadmitted)
            obtain ⟨hanswer, hserved⟩ := List.mem_ite_nil_right.mp hserved
            obtain rfl := List.mem_singleton.mp hserved
            exact completes_conduct horder hmemory.1 (hanswer.trans (hcurrent ▸ hallowed))
        | fresh => cases hallowed
        | finished => cases hallowed
  occur _ event := nomatch event
  crash _ _ _ _ hcrash := nomatch hcrash

/-- Where records are written back only as they were read, all operations that have returned
took effect one after the other. -/
theorem undisturbed_updates_linearizable [DecidableEq Data] (record : TransactionRepoModel Data)
    (config : Updates Data)
    (hrun : ((updates Data).restrict writesCurrent).Reachable (initial record) config) :
    Linearizable record config := by
  have hfirst : ∀ delivery, Recalled delivery .fresh (initial record).state :=
    fun _ => ⟨List.not_mem_nil, List.not_mem_nil⟩
  obtain ⟨memories, ⟨horder, hrecalled⟩, hrecalls⟩ :=
    (upholds_conduct record).maintains.reachable (upholds_conduct record).launch
      ⟨InOrder.start, hfirst⟩ hrun
  refine horder.linearizable hrecalled hrecalls ?_ ?_
  · intro delivery memory result hend
    exact iff_of_true rfl hend
  · intro delivery request hallowed
    cases request <;> exact hallowed

def submittedRecord : TransactionRepoModel Unit where
  id := "tx-1"
  relayerId := "relayer"
  status := .submitted
  statusReason := none
  createdAt := "2025-01-01T00:00:00Z"
  sentAt := none
  confirmedAt := none
  validUntil := none
  networkData := ()
  pricedAt := none
  hashes := []
  noopCount := none
  isCanceled := none
  metadata := none

def settingTime : Delivery Unit := ⟨0, .setConfirmedAt "2025-01-01T00:01:00Z"⟩

def confirming : Delivery Unit := ⟨1, .updateStatus .confirmed⟩

/-- One turn of the operation at an index; the lock answers with `record`. -/
def turn (index : ℕ) (record : TransactionRepoModel Unit) :
    Action (Request Unit) Answer Empty (Delivery Unit) :=
  .advance index (fun _ => record) 0

theorem undisturbed_updates_linearizable_sample :
    ∃ config, ((updates Unit).restrict writesCurrent).Reachable (initial submittedRecord) config ∧
      config.state.record.status = .confirmed ∧ Linearizable submittedRecord config := by
  let confirmed := confirming.operation.apply submittedRecord
  have hexecute : (((updates Unit).restrict writesCurrent).execute (initial submittedRecord)
      [.start settingTime, .start confirming, turn 1 confirmed, turn 0 confirmed,
        turn 0 (settingTime.operation.apply confirmed)]).map (·.state.record.status) =
      some .confirmed := by
    decide +kernel
  obtain ⟨config, hrun, hstatus⟩ := System.reachable_of_execute hexecute
  exact ⟨config, hrun, hstatus, undisturbed_updates_linearizable submittedRecord config hrun⟩

/-- A transaction is confirmed between the two turns of `set_confirmed_at`, which writes the
old status back. -/
theorem confirmed_status_reverted :
    ∃ config, (updates Unit).Reachable (initial submittedRecord) config ∧
      ¬ Linearizable submittedRecord config := by
  let timed := settingTime.operation.apply submittedRecord
  have hexecute : ((updates Unit).execute (initial submittedRecord)
      [.start settingTime, .start confirming, turn 0 submittedRecord,
        turn 1 (confirming.operation.apply submittedRecord), turn 0 timed]).map
        (fun config =>
          (ReadModifyWrite.succeeded (fun _ => true) config, config.state.record)) =
      some ([settingTime, confirming], timed) := by
    decide +kernel
  obtain ⟨config, hreachable, hend⟩ := System.reachable_of_execute hexecute
  obtain ⟨hreturned, hrecord⟩ := Prod.mk.inj hend
  refine ⟨config, hreachable, ?_⟩
  rintro ⟨order, hperm, happlied⟩
  rw [hreturned] at hperm
  have hreverted : ∀ order ∈ [settingTime, confirming].permutations',
      ReadModifyWrite.applyAll Delivery.apply submittedRecord order ≠ some timed := by
    decide +kernel
  exact hreverted order (List.mem_permutations'.mpr hperm)
    (happlied.trans (congrArg some hrecord))

end Relayer.InMemoryUpdates
