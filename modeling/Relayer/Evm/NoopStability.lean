import Relayer.Evm.NoopWrites
import Relayer.Evm.Runs

/-!
# NOOPs stay NOOPs

Status checks and resubmissions of one transaction run against its stored record in any
order, beside other jobs that may write anything but the number of NOOPs.  A NOOP should
remain a NOOP under its nonce, and should not be replaced again.

A status check that works on a NOOP never stores another one, so that every NOOP that is
counted stands for a call that was stored.  A check that a replica tells the call, though a
NOOP is stored by then, converts the call again.
-/

namespace Relayer.EvmNoopStability

open Relayer.Transaction Relayer.Interaction Relayer.Interleaving
open Relayer.EvmPricing Relayer.EvmLifecycle Relayer.EvmRuns

variable {data : EvmTransactionData}

/-- The jobs that have loaded a call that is no NOOP, the number of calls that were stored in
the place of a NOOP (and of one that was there at first), the number of conversions, and
whether a job converted that had loaded a NOOP. -/
structure Note where
  unsettled : List Delivery
  payloads : ℕ
  conversions : ℕ
  repeated : Bool

def Note.load (note : Note) (delivery : Delivery) (tx : TransactionRepoModel) : Note :=
  { note with
    unsettled :=
      if isNoopTx tx then note.unsettled.filter (· ≠ delivery) else delivery :: note.unsettled }

/-- A call takes the place of a NOOP. -/
def Note.store (note : Note) (before after : TransactionRepoModel) : Note :=
  if isNoopTx before && !isNoopTx after then { note with payloads := note.payloads + 1 }
  else note

def Note.convert (note : Note) (delivery : Delivery) (update : TransactionUpdateRequest) :
    Note :=
  if update.noopCount.isSome then
    { note with
      conversions := note.conversions + 1
      repeated := note.repeated || decide (delivery ∉ note.unsettled) }
  else note

def observe (delivery : Delivery) : (request : Request) → Answer request →
    (before after : TransactionRepoModel) → Note → Note
  | .getTransaction, .ok tx, _, _, note => note.load delivery tx
  | .partialUpdate update, _, before, after, note =>
      (note.convert delivery update).store before after
  | _, _, _, _, note => note

/-- Other jobs write what they like, but do not count NOOPs. -/
def watch : Watch Note TransactionUpdateRequest where
  observe := observe
  lose delivery note := { note with unsettled := note.unsettled.filter (· ≠ delivery) }
  happen shared update :=
    if update.noopCount.isSome then []
    else
      let after := shared.record.applyPartialUpdate update
      [⟨after, shared.record :: shared.versions, shared.note.store shared.record after⟩]

def payloadsOf (record : TransactionRepoModel) : ℕ := if isNoopTx record then 0 else 1

def initial (record : TransactionRepoModel) : EvmRuns.Jobs.Config Note :=
  ⟨⟨record, [], ⟨[], payloadsOf record, 0, false⟩⟩, []⟩

def noopCountOf (record : TransactionRepoModel) : ℕ := (record.noopCount.getD 0).toNat

/-! ## What a call does -/

/-- What a call of these jobs does to the record. -/
inductive Effect (memory : Option TransactionRepoModel) (readable : List TransactionRepoModel)
    (record : TransactionRepoModel) :
    (request : Request) → Answer request → TransactionRepoModel → Prop
  | load {told : TransactionRepoModel} (htold : told ∈ readable) :
      Effect memory readable record .getTransaction (.ok told) record
  | write {tx after : TransactionRepoModel} {update : TransactionUpdateRequest}
      {answer : Answer (.partialUpdate update)} (htx : memory = some tx)
      (hharmless : Harmless tx update)
      (hafter : after = record ∨ after = record.applyPartialUpdate update) :
      Effect memory readable record (.partialUpdate update) answer after
  | idle {request : Request} {answer : Answer request}
      (hmemory : reading.remember memory request answer = memory)
      (hnote : ∀ delivery note, observe delivery request answer record record note = note) :
      Effect memory readable record request answer record

section Effects

variable {settings : Settings} {memory : Option TransactionRepoModel}
  {readable : List TransactionRepoModel}
  {record after : TransactionRepoModel} {request : Request} {answer : Answer request}

end Effects

/-! ## The number of NOOPs -/

/-- No job converted what it had loaded as a NOOP, and every NOOP that was counted took the
place of a call. -/
structure Counted (base : ℕ) (shared : Shared Note) : Prop where
  once : shared.note.repeated = false
  bound : ∀ version ∈ shared.record :: shared.versions,
    noopCountOf version + payloadsOf version ≤ base + shared.note.payloads

/-- A job that works on a call may count one NOOP for it. -/
def Due (base : ℕ) (delivery : Delivery) (memory : Option TransactionRepoModel)
    (shared : Shared Note) : Prop :=
  ∀ tx, memory = some tx → isNoopTx tx = false →
    noopCountOf tx + 1 ≤ base + shared.note.payloads ∧ delivery ∈ shared.note.unsettled

section Counting

variable {base : ℕ} {delivery other : Delivery} {memory : Option TransactionRepoModel}
  {record after tx : TransactionRepoModel} {versions : List TransactionRepoModel} {note : Note}

@[simp]
theorem unsettled_store (note : Note) (before after : TransactionRepoModel) :
    (note.store before after).unsettled = note.unsettled := by
  unfold Note.store
  split <;> rfl

@[simp]
theorem unsettled_convert (note : Note) (delivery : Delivery)
    (update : TransactionUpdateRequest) :
    (note.convert delivery update).unsettled = note.unsettled := by
  unfold Note.convert
  split <;> rfl

@[simp]
theorem payloads_convert (note : Note) (delivery : Delivery)
    (update : TransactionUpdateRequest) :
    (note.convert delivery update).payloads = note.payloads := by
  unfold Note.convert
  split <;> rfl

@[simp]
theorem repeated_store (note : Note) (before after : TransactionRepoModel) :
    (note.store before after).repeated = note.repeated := by
  unfold Note.store
  split <;> rfl

/-- A call that is stored is counted, unless it was stored before. -/
theorem payloads_store (note : Note) (before after : TransactionRepoModel) :
    note.payloads ≤ (note.store before after).payloads ∧
      payloadsOf after + note.payloads ≤
        payloadsOf before + (note.store before after).payloads := by
  unfold Note.store payloadsOf
  cases isNoopTx before <;> cases isNoopTx after <;> simp [Nat.add_comm]

theorem observe_keeps (delivery : Delivery) (request : Request) (answer : Answer request)
    (before after : TransactionRepoModel) (note : Note) :
    note.payloads ≤ (observe delivery request answer before after note).payloads ∧
      ∀ other ∈ note.unsettled, other ≠ delivery →
        other ∈ (observe delivery request answer before after note).unsettled := by
  unfold observe
  split
  · refine ⟨Nat.le_refl _, fun other hmem hne => ?_⟩
    unfold Note.load
    dsimp only
    split
    · exact List.mem_filter.mpr ⟨hmem, by simpa using hne⟩
    · exact List.mem_cons_of_mem _ hmem
  · next update _ =>
      refine ⟨?_, fun other hmem _ => by simpa using hmem⟩
      have hstore := (payloads_store (note.convert delivery update) before after).1
      rwa [payloads_convert] at hstore
  · exact ⟨Nat.le_refl _, fun _ hmem _ => hmem⟩

theorem Due.observe {request : Request} {answer : Answer request}
    (hdue : Due base other memory ⟨record, versions, note⟩) (hne : other ≠ delivery) :
    Due base other memory
      ⟨after, record :: versions,
        EvmNoopStability.observe delivery request answer record after note⟩ := by
  intro tx htx hopen
  obtain ⟨hbound, hmem⟩ := hdue tx htx hopen
  obtain ⟨hpayloads, hunsettled⟩ := observe_keeps delivery request answer record after note
  exact ⟨hbound.trans (Nat.add_le_add_left hpayloads base), hunsettled other hmem hne⟩

/-- Writes that leave the number of NOOPs alone. -/
theorem Counted.store (hcounted : Counted base ⟨record, versions, note⟩)
    (hcount : after.noopCount = record.noopCount) :
    Counted base ⟨after, record :: versions, note.store record after⟩ := by
  have hbound : noopCountOf record + payloadsOf record ≤ base + note.payloads :=
    hcounted.bound record List.mem_cons_self
  obtain ⟨hgrows, hstore⟩ := payloads_store note record after
  have hsame : noopCountOf after = noopCountOf record := by rw [noopCountOf, hcount, noopCountOf]
  refine ⟨?_, List.forall_mem_cons.mpr ⟨?_, fun version hmem => ?_⟩⟩
  · rw [repeated_store]
    exact hcounted.once
  · change noopCountOf after + payloadsOf after ≤ base + (note.store record after).payloads
    omega
  · exact (hcounted.bound version hmem).trans (Nat.add_le_add_left hgrows base)

theorem convert_of_none {update : TransactionUpdateRequest} (hcount : update.noopCount = none) :
    note.convert delivery update = note := by
  rw [Note.convert, hcount]
  rfl

/-- A job that converts has loaded a call. -/
theorem Counted.convert {update : TransactionUpdateRequest}
    (hcounted : Counted base ⟨record, versions, note⟩) (hmem : delivery ∈ note.unsettled) :
    Counted base ⟨record, versions, note.convert delivery update⟩ := by
  refine ⟨?_, ?_⟩
  · have honce : note.repeated = false := hcounted.once
    unfold Note.convert
    split
    · simp [honce, hmem]
    · exact honce
  · rw [payloads_convert]
    exact hcounted.bound

/-- One more than what was loaded, in 32-bit arithmetic. -/
theorem noopCountOf_succ {update : TransactionUpdateRequest}
    (hcount : update.noopCount = some (tx.noopCount.getD 0 + 1)) :
    noopCountOf (record.applyPartialUpdate update) ≤ noopCountOf tx + 1 := by
  have hsucc : noopCountOf (record.applyPartialUpdate update) =
      (tx.noopCount.getD 0 + 1).toNat := by
    simp [noopCountOf, TransactionRecord.TransactionRepoModel.applyPartialUpdate, hcount]
  rw [hsucc, UInt32.toNat_add]
  exact Nat.mod_le _ _

theorem isNoopTx_apply {update : TransactionUpdateRequest} {later : EvmTransactionData}
    (hlater : update.networkData = some (.evm later)) :
    isNoopTx (record.applyPartialUpdate update) = isNoop later := by
  apply isNoopTx_of_data
  rw [TransactionRecord.TransactionRepoModel.applyPartialUpdate, hlater]
  rfl

theorem noopCount_apply {update : TransactionUpdateRequest} (hcount : update.noopCount = none) :
    (record.applyPartialUpdate update).noopCount = record.noopCount := by
  rw [TransactionRecord.TransactionRepoModel.applyPartialUpdate, hcount]
  rfl

/-- A write that does not count a NOOP. -/
theorem Counted.write_uncounted {update : TransactionUpdateRequest}
    (hcounted : Counted base ⟨record, versions, note⟩) (hcount : update.noopCount = none)
    (hafter : after = record ∨ after = record.applyPartialUpdate update) :
    Counted base
      ⟨after, record :: versions, (note.convert delivery update).store record after⟩ := by
  rw [convert_of_none hcount]
  apply hcounted.store
  rcases hafter with rfl | rfl
  · rfl
  · exact noopCount_apply hcount

/-- A NOOP is stored, and with it a number that is due. -/
theorem Counted.write_noop {update : TransactionUpdateRequest}
    (hcounted : Counted base ⟨record, versions, note⟩)
    (hnoop : isNoopTx (record.applyPartialUpdate update) = true)
    (hbound : noopCountOf (record.applyPartialUpdate update) ≤ base + note.payloads) :
    Counted base ⟨record.applyPartialUpdate update, record :: versions,
      note.store record (record.applyPartialUpdate update)⟩ := by
  have hstored : note.store record (record.applyPartialUpdate update) = note := by
    simp [Note.store, hnoop]
  have hpayloads : payloadsOf (record.applyPartialUpdate update) = 0 := by
    simp [payloadsOf, hnoop]
  rw [hstored]
  refine ⟨hcounted.once, List.forall_mem_cons.mpr ⟨?_, hcounted.bound⟩⟩
  rw [hpayloads]
  exact hbound

theorem Counted.write {update : TransactionUpdateRequest}
    (hcounted : Counted base ⟨record, versions, note⟩)
    (hdue : Due base delivery (some tx) ⟨record, versions, note⟩)
    (hharmless : Harmless tx update)
    (hafter : after = record ∨ after = record.applyPartialUpdate update) :
    Counted base
      ⟨after, record :: versions, (note.convert delivery update).store record after⟩ := by
  cases hharmless with
  | elsewhere _ hcount => exact hcounted.write_uncounted hcount hafter
  | restated _ _ _ _ hcount => exact hcounted.write_uncounted hcount hafter
  | converted hopen hlater hnoop hcount =>
      obtain ⟨hbound, hmem⟩ := hdue tx rfl hopen
      have hconverted : Counted base ⟨record, versions, note.convert delivery update⟩ :=
        hcounted.convert hmem
      rcases hafter with rfl | rfl
      · exact hconverted.store rfl
      · apply hconverted.write_noop ((isNoopTx_apply hlater).trans hnoop)
        rw [payloads_convert]
        exact (noopCountOf_succ hcount).trans hbound

theorem Due.write {update : TransactionUpdateRequest}
    (hdue : Due base delivery memory ⟨record, versions, note⟩) :
    Due base delivery memory
      ⟨after, record :: versions, (note.convert delivery update).store record after⟩ := by
  intro tx htx hopen
  obtain ⟨hbound, hmem⟩ := hdue tx htx hopen
  have hstore := (payloads_store (note.convert delivery update) record after).1
  rw [payloads_convert] at hstore
  exact ⟨hbound.trans (Nat.add_le_add_left hstore base), by simpa using hmem⟩

end Counting

/-- The record holds the content of `data`. -/
def Holds (data : EvmTransactionData) (record : TransactionRepoModel) : Prop :=
  ∃ later, record.networkData = .evm later ∧ contentOf later = contentOf data

theorem Holds.isNoopTx {record : TransactionRepoModel} (hholds : Holds data record) :
    isNoopTx record = isNoop data := by
  obtain ⟨later, hlater, hcontent⟩ := hholds
  rw [isNoopTx_of_data hlater, isNoop_of_content hcontent]

structure Settled (data : EvmTransactionData) (count : Option UInt32) (shared : Shared Note) :
    Prop where
  holds : Holds data shared.record
  counted : shared.record.noopCount = count
  unconverted : shared.note.conversions = 0

section Settling

variable {count : Option UInt32} {delivery : Delivery} {record after tx : TransactionRepoModel}
  {versions later : List TransactionRepoModel} {note : Note}

theorem conversions_store (note : Note) (before after : TransactionRepoModel) :
    (note.store before after).conversions = note.conversions := by
  unfold Note.store
  split <;> rfl

/-- A job that works on the NOOP writes the NOOP, if anything. -/
theorem Settled.write {update : TransactionUpdateRequest} (hnoop : isNoop data = true)
    (hsettled : Settled data count ⟨record, versions, note⟩) (htx : Holds data tx)
    (hharmless : Harmless tx update)
    (hafter : after = record ∨ after = record.applyPartialUpdate update) :
    Settled data count ⟨after, later, (note.convert delivery update).store record after⟩ := by
  have hcount : update.noopCount = none := by
    cases hharmless with
    | elsewhere _ hcount => exact hcount
    | restated _ _ _ _ hcount => exact hcount
    | converted hopen =>
        rw [htx.isNoopTx, hnoop] at hopen
        cases hopen
  have hunconverted :
      ((note.convert delivery update).store record after).conversions = 0 := by
    rw [conversions_store, convert_of_none hcount]
    exact hsettled.unconverted
  rcases hafter with rfl | rfl
  · exact ⟨hsettled.holds, hsettled.counted, hunconverted⟩
  · refine ⟨?_, (noopCount_apply hcount).trans hsettled.counted, hunconverted⟩
    cases hharmless with
    | elsewhere hnone _ =>
        obtain ⟨later, hlater, hcontent⟩ := hsettled.holds
        exact ⟨later, (record.applyPartialUpdate_data hnone).trans hlater, hcontent⟩
    | restated hdata later hlater hcontent _ =>
        obtain ⟨loaded, hloaded, hsame⟩ := htx
        cases hdata.symm.trans hloaded
        refine ⟨later, ?_, hcontent.trans hsame⟩
        rw [TransactionRecord.TransactionRepoModel.applyPartialUpdate, hlater]
        rfl
    | converted _ _ _ hsome => cases hcount.symm.trans hsome

end Settling

def sampleData : EvmTransactionData :=
  { sampleTransfer (some 7) (some 20) with hash := some "0" }

def sampleSubmitted : TransactionRepoModel := sampleRecord .submitted sampleData ["0"]

def sampleSettings : Settings := ⟨samplePlatform, sampleRelayer, Signer.ofPayloads [], true⟩

/-- The answers of a day on which the transfer has expired. -/
def expiredAnswers (current : TransactionRepoModel) : (request : Request) → Answer request :=
  sampleAnswers sampleSettings.signer current 7 20 24

def sampleNoop : TransactionRepoModel :=
  sampleSubmitted.applyPartialUpdate
    { networkData := some (.evm (withGasLimit (noopOf sampleData) 21000))
      noopCount := some 1
      statusReason := some "Transaction is expired. Replacing with NOOP." }

/-- The answers while the NOOP is stored, if a read is told `told`. -/
def noopAnswers (told : TransactionRepoModel) : (request : Request) → Answer request
  | .getTransaction => .ok told
  | request => expiredAnswers sampleNoop request

/-- A second check. -/
def checkAgain (calls : ℕ) (told : TransactionRepoModel) :
    List (Action Request Answer TransactionUpdateRequest Delivery) :=
  .start ⟨1, .status none⟩ :: List.replicate calls (.advance 1 (noopAnswers told) 0)

end Relayer.EvmNoopStability
