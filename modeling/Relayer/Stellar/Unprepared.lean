import Relayer.Stellar.LifecycleRuns

/-!
# Submissions of unprepared transactions

A submission may be delivered for a transaction that waits to be prepared: its record was
reset after a bad sequence number while delayed submissions were still queued.  Nothing was
signed for such a record, so the submission should neither send anything nor end the
transaction, unless it has expired.

The submission looks only for final states.  Whatever envelope can be built from the record is
sent, and where none can be built the transaction fails.
-/

namespace Relayer.StellarUnprepared

open Relayer.Transaction Relayer.Interaction
open Relayer.StellarLifecycle hiding Fresh Settled
open Relayer.StellarLifecycleRuns

/-- The call sends no envelope and ends the transaction only as expired. -/
def Harmless : Request → Prop
  | .sendTransactionWithStatus _ => False
  | .partialUpdate update =>
      ∀ status, update.status = some status → status.isFinalState = true → status = .expired
  | _ => True

/-- A conversion error whose text is taken for a bad sequence number. -/
def readsAsBadSequence (error : String) : Bool :=
  let text := (TransactionError.signerError error).toText
  isBadSequenceError s!"Submission failed: {text}"

/-- The transaction is not found to be valid still, or its envelope cannot be built, the error
is taken for a bad sequence number and the record is reset. -/
def Spared (oracle : Program.Oracle Request Answer) (built : Except String Envelope)
    (transaction : TransactionRepoModel) : Prop :=
  oracle 0 (.isTransactionExpired transaction) ≠ .ok false ∨
    ∃ error reset, built = .error error ∧ readsAsBadSequence error = true ∧
      oracle 1 (.partialUpdate transaction.createResetUpdateRequest) = .ok reset

section Submission

variable {oracle : Program.Oracle Request Answer} {transaction : TransactionRepoModel}

theorem callsOnly_markAsExpired (reason : String) :
    (markAsExpired reason).CallsOnly Harmless := by
  have hexpires : Harmless (.partialUpdate
      { status := some .expired, statusReason := some reason }) := by
    rintro status ⟨⟩ -
    rfl
  refine ⟨hexpires, fun answer => ?_⟩
  cases answer with
  | error error => trivial
  | ok updated => exact ⟨trivial, fun _ => ⟨trivial, fun _ => trivial⟩⟩

/-- A submission that is given up writes a failed record. -/
theorem failSubmission_harms (oracle : Program.Oracle Request Answer) (error : TransactionError)
    (reason : String) (n : ℕ) :
    ∃ request ∈ ((failSubmission error reason).run oracle n).2, ¬ Harmless request := by
  refine ⟨.partialUpdate { status := some .failed, statusReason := some reason },
    List.mem_cons_self, fun hharmless => ?_⟩
  cases hharmless .failed rfl rfl

/-- Where the envelope cannot be built, the transaction fails or is reset. -/
theorem handleSubmitFailure_harmless_iff (error : String) (n : ℕ) :
    (∀ request ∈ ((handleSubmitFailure transaction (.signerError error)).run oracle n).2,
      Harmless request) ↔
    readsAsBadSequence error = true ∧
      ∃ reset, oracle n (.partialUpdate transaction.createResetUpdateRequest) = .ok reset := by
  dsimp only [handleSubmitFailure]
  change (∀ request ∈ (Program.run oracle (if readsAsBadSequence error = true then _ else _) n).2,
    Harmless request) ↔ _
  by_cases hreads : readsAsBadSequence error = true
  · rw [if_pos hreads]
    have hresets : Harmless (.partialUpdate transaction.createResetUpdateRequest) := by
      rintro status ⟨⟩ hfinal
      cases hfinal
    simp only [resetTransactionForRetry, partialUpdate, syncSequenceFromChain, Program.run_bind,
      Program.run_ask]
    cases hreset : oracle n (.partialUpdate transaction.createResetUpdateRequest) with
    | ok reset =>
        refine ⟨fun _ => ⟨hreads, reset, rfl⟩, fun _ request hmem => ?_⟩
        simp at hmem
        rcases hmem with rfl | rfl
        · exact hresets
        · trivial
    | error failure =>
        refine ⟨fun hharmless => ?_, fun hcondition => ?_⟩
        · obtain ⟨request, hmem, hharms⟩ := failSubmission_harms oracle (.signerError error) _ _
          exact absurd (hharmless request (List.mem_append_right _ (List.mem_append_right _ hmem)))
            hharms
        · obtain ⟨-, reset, hreset⟩ := hcondition
          cases hreset
  · rw [if_neg hreads]
    refine ⟨fun hharmless => ?_, fun hcondition => absurd hcondition.1 hreads⟩
    obtain ⟨request, hmem, hharms⟩ := failSubmission_harms oracle (.signerError error) _ n
    exact absurd (hharmless request hmem) hharms

/-- A submission of a pending transaction is harmless only where it is not found to be valid
still, whatever envelope is built from its input. -/
theorem submission_harmless_iff (oracle : Program.Oracle Request Answer)
    (built : Except String Envelope) (transaction : TransactionRepoModel)
    (hpending : transaction.status = .pending) :
    (∀ request ∈ ((submitTransactionWith built transaction).run oracle 0).2, Harmless request) ↔
      Spared oracle built transaction := by
  have hlive : ¬ transaction.status.isFinalState = true := by
    rw [hpending]
    decide
  have hcalls : ∀ rest : List Request,
      (∀ request ∈ .isTransactionExpired transaction :: rest, Harmless request) ↔
        ∀ request ∈ rest, Harmless request :=
    fun rest => List.forall_mem_cons.trans (and_iff_right trivial)
  rw [submitTransactionWith, if_neg hlive]
  refine (hcalls _).trans ?_
  cases hexpired : oracle 0 (.isTransactionExpired transaction) with
  | error error =>
      refine ⟨fun _ => .inl ?_, fun _ _ hmem => absurd hmem List.not_mem_nil⟩
      simp [hexpired]
  | ok expired =>
      cases expired with
      | true =>
          refine ⟨fun _ => .inl ?_, fun _ => (callsOnly_markAsExpired _).run oracle 1⟩
          simp [hexpired]
      | false =>
          cases built with
          | ok envelope =>
              refine ⟨fun hharmless => ?_, fun hspared => ?_⟩
              · exact (hharmless (.sendTransactionWithStatus envelope) List.mem_cons_self).elim
              · rcases hspared with hvalid | ⟨error, reset, hbuilt, -⟩
                · exact absurd hexpired hvalid
                · cases hbuilt
          | error error =>
              refine (handleSubmitFailure_harmless_iff error 1).trans ⟨?_, ?_⟩
              · rintro ⟨hreads, reset, hreset⟩
                exact .inr ⟨error, reset, rfl, hreads, hreset⟩
              · rintro (hvalid | ⟨_, reset, ⟨⟩, hreads, hreset⟩)
                · exact absurd hexpired hvalid
                · exact ⟨hreads, reset, hreset⟩

end Submission

section Payment

/-- The payment is prepared, submitted and reset after `txBadSeq`. -/
def waitingPayment : TransactionRepoModel :=
  resetPayment (submittedPayment (preparedPayment samplePayment 5))

/-- The node rejects an envelope without signatures. -/
def badAuthResponse : SendTransactionResponse :=
  ⟨"ERROR", "hash", some ("AAAAAAAAAGT////6AAAAAA==", some "TxBadAuth")⟩

def unsignedAnswers (expired : Bool) : Program.Oracle Request Answer
  | _, .isTransactionExpired _ => .ok expired
  | _, request => paymentAnswers waitingPayment 5 badAuthResponse request

theorem submission_harmless_iff_expired :
    waitingPayment.status = .pending ∧
      ∀ request ∈ ((submitTransactionWith waitingPayment.networkData.getEnvelopeForSubmission
        waitingPayment).run (unsignedAnswers true) 0).2, Harmless request := by
  refine ⟨rfl, (submission_harmless_iff (unsignedAnswers true) _ waitingPayment rfl).mpr (.inl ?_)⟩
  decide

/-- The unsigned envelope is sent and the payment fails. -/
def failingCalls : List Request :=
  [.isTransactionExpired waitingPayment,
    .sendTransactionWithStatus ⟨"payment", 0, 0, []⟩,
    .partialUpdate
      { status := some .failed
        statusReason := some
          "Submission failed: Unexpected error: Transaction submission error: TxBadAuth" }]

/-- A delayed submission of the reset payment. -/
theorem waiting_payment_fails :
    waitingPayment.status = .pending ∧
      ((submitTransaction waitingPayment).run (unsignedAnswers false) 0).2.take 3 =
        failingCalls ∧
      ¬ ∀ request ∈ ((submitTransaction waitingPayment).run (unsignedAnswers false) 0).2,
        Harmless request := by
  have hcalls : ((submitTransaction waitingPayment).run (unsignedAnswers false) 0).2.take 3 =
      failingCalls := by
    decide +kernel
  have hsent : .sendTransactionWithStatus ⟨"payment", 0, 0, []⟩ ∈ failingCalls :=
    List.mem_cons_of_mem _ List.mem_cons_self
  rw [← hcalls] at hsent
  have hsent := List.mem_of_mem_take hsent
  exact ⟨rfl, hcalls, fun hharmless => hharmless _ hsent⟩

end Payment

end Relayer.StellarUnprepared
