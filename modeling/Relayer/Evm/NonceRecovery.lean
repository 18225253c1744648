import Relayer.Evm.Calls

/-!
# Nonces that were consumed externally

A transaction whose nonce is used up while none of its hashes is on the chain is given up:
it is marked as failed, and this cannot be undone.  Before that every recorded hash should
have been asked for and found missing.

The earlier hashes are looked at only if there are more than one, and a query among them
that fails is passed over.  A verdict is complete exactly if neither of the two happened.
-/

namespace Relayer.EvmNonceRecovery

open Relayer.Transaction Relayer.EvmPricing Relayer.Interaction Relayer.EvmLifecycle
open Relayer.Interaction.Task (exec)

/-- The hashes other than the current one, in the order in which they are asked for. -/
def earlierHashes (tx : TransactionRepoModel) (data : EvmTransactionData) : List String :=
  tx.hashes.reverse.filter fun hash => decide (data.hash ≠ some hash)

/-- The run has marked the transaction as failed because its nonce was consumed. -/
def MarksConsumed (calls : List Request) : Prop :=
  ∃ update, Request.partialUpdate update ∈ calls ∧ update.status = some .failed

/-- The `n`-th call of the run. -/
def CallAt (calls : List Request) (n : ℕ) (request : Request) : Prop :=
  calls[n]? = some request

/-- Every hash was asked for and found missing, no query failed, and after them the nonce on
the chain was read to be higher than that of the transaction. -/
structure Complete (relayer : RelayerRepoModel) (tx : TransactionRepoModel)
    (data : EvmTransactionData) (oracle : Program.Oracle Request Answer)
    (calls : List Request) : Prop where
  asked : ∀ hash, data.hash = some hash ∨ hash ∈ tx.hashes →
    ∃ n, CallAt calls n (.getTransactionReceipt hash) ∧
      oracle n (.getTransactionReceipt hash) = .ok none
  succeeded : ∀ n hash, CallAt calls n (.getTransactionReceipt hash) →
    oracle n (.getTransactionReceipt hash) = .ok none
  consumed : ∃ n nonce onChainNonce, CallAt calls n (.getTransactionCount relayer.address) ∧
    oracle n (.getTransactionCount relayer.address) = .ok onChainNonce ∧
    data.nonce = some nonce ∧ nonce < onChainNonce ∧
    ∀ earlier hash, CallAt calls earlier (.getTransactionReceipt hash) → earlier < n

/-! ## What a run asks for -/

section Runs

variable {data : EvmTransactionData} {oracle : Program.Oracle Request Answer}

def isReceipt : Request → Bool
  | .getTransactionReceipt _ => true
  | _ => false

/-- A hash without a receipt is passed over, and so is one whose query fails. -/
theorem exec_checkHistoricalHashes_missing {hash : String} (hcurrent : data.hash ≠ some hash)
    (rest : List String) (n : ℕ)
    (hmissing : ∀ receipt, oracle n (.getTransactionReceipt hash) ≠ .ok (some receipt)) :
    exec oracle (checkHistoricalHashes data (hash :: rest)) n =
      ((exec oracle (checkHistoricalHashes data rest) (n + 1)).1,
        .getTransactionReceipt hash ::
          (exec oracle (checkHistoricalHashes data rest) (n + 1)).2) := by
  rw [checkHistoricalHashes]
  simp only [hcurrent, if_false, Task.exec_bind, Task.exec_ask, List.length_singleton]
  cases hanswer : oracle n (.getTransactionReceipt hash) with
  | error e => rfl
  | ok found =>
      cases found with
      | none => rfl
      | some receipt => exact absurd hanswer (hmissing receipt)

theorem exec_checkHistoricalHashes_found {hash : String} (hcurrent : data.hash ≠ some hash)
    (rest : List String) (n : ℕ) {receipt : TransactionReceipt}
    (hfound : oracle n (.getTransactionReceipt hash) = .ok (some receipt)) :
    (exec oracle (checkHistoricalHashes data (hash :: rest)) n).1 ≠ .ok none := by
  rw [checkHistoricalHashes]
  simp only [hcurrent, if_false, Task.exec_bind, Task.exec_ask, hfound, List.length_singleton]
  rcases exec oracle (updateTransactionWithCorrectedHash data hash .mined) (n + 1) with
    ⟨result, calls⟩
  cases result with
  | ok updated => exact fun hnone => nomatch hnone
  | error e => exact fun hnone => nomatch hnone

/-- A search that ends without a record has asked for every hash but the current one, and
no answer was a receipt. -/
theorem exec_checkHistoricalHashes (hashes : List String) (n : ℕ)
    (hnone : (exec oracle (checkHistoricalHashes data hashes) n).1 = .ok none) :
    (exec oracle (checkHistoricalHashes data hashes) n).2 =
        (hashes.filter fun hash => decide (data.hash ≠ some hash)).map
          .getTransactionReceipt ∧
      ∀ k hash, (hashes.filter fun hash => decide (data.hash ≠ some hash))[k]? = some hash →
        ∀ receipt, oracle (n + k) (.getTransactionReceipt hash) ≠ .ok (some receipt) := by
  induction hashes generalizing n with
  | nil => exact ⟨rfl, fun k hash hget => (nomatch hget)⟩
  | cons hash rest ih =>
      by_cases hcurrent : data.hash = some hash
      · have hskip : exec oracle (checkHistoricalHashes data (hash :: rest)) n =
            exec oracle (checkHistoricalHashes data rest) n := by
          simp [checkHistoricalHashes, hcurrent]
        rw [hskip] at hnone ⊢
        rw [List.filter_cons_of_neg (by simpa using hcurrent)]
        exact ih n hnone
      have hmissing : ∀ receipt, oracle n (.getTransactionReceipt hash) ≠ .ok (some receipt) :=
        fun _ hfound => exec_checkHistoricalHashes_found hcurrent rest n hfound hnone
      rw [exec_checkHistoricalHashes_missing hcurrent rest n hmissing] at hnone ⊢
      rw [List.filter_cons_of_pos (by simpa using hcurrent)]
      obtain ⟨hcalls, hrest⟩ := ih (n + 1) hnone
      refine ⟨congrArg (_ :: ·) hcalls, fun k other hget => ?_⟩
      cases k with
      | zero =>
          cases hget
          exact hmissing
      | succ k =>
          rw [← Nat.add_assoc, Nat.add_right_comm]
          exact hrest k other hget

/-- The call marks nothing as failed. -/
def Spares (request : Request) : Prop :=
  ∀ update, request = .partialUpdate update → update.status ≠ some .failed

theorem spares_storeAndNotify {update : TransactionUpdateRequest}
    (hstatus : update.status ≠ some .failed) :
    (storeAndNotify update).run.CallsOnly Spares := by
  apply Task.callsOnly_bind
  · apply callsOnly_storeUpdate
    intro other hrequest
    cases hrequest
    exact hstatus
  · intro _
    apply Task.callsOnly_bind
    · exact Task.callsOnly_ask_bind (fun _ hrequest => nomatch hrequest)
        fun _ => trivial
    · exact fun _ => trivial

/-- Recovery by an earlier hash marks nothing as failed. -/
theorem spares_checkHistoricalHashes (data : EvmTransactionData) (hashes : List String) :
    (checkHistoricalHashes data hashes).run.CallsOnly Spares := by
  induction hashes with
  | nil => trivial
  | cons hash rest ih =>
      rw [checkHistoricalHashes]
      split
      · exact ih
      · apply Task.callsOnly_ask_bind (fun _ hrequest => nomatch hrequest)
        intro answer
        cases answer with
        | error e => exact ih
        | ok found =>
            cases found with
            | none => exact ih
            | some receipt =>
                apply Task.callsOnly_bind
                · apply spares_storeAndNotify
                  exact fun hfailed => nomatch hfailed
                · exact fun _ => trivial

theorem not_marks_of_spares {A : Type} {task : Step A} (hspares : task.run.CallsOnly Spares)
    (n : ℕ) : ¬ MarksConsumed (exec oracle task n).2 := by
  rintro ⟨update, hmem, hfailed⟩
  exact hspares.run oracle n _ hmem update rfl hfailed

/-- Writes and jobs ask for no receipt. -/
theorem noReceipt_markFailed (platform : Platform) (tx : TransactionRepoModel)
    (reason : String) :
    (do
      let updated ← updateTransactionStatus platform .failed (some reason)
      let _ ← Task.attempt (scheduleRelayerNonceHealthJob tx)
      return some updated : Step (Option TransactionRepoModel)).run.CallsOnly
        fun request => isReceipt request = false := by
  apply Task.callsOnly_bind
  · apply Task.callsOnly_bind
    · exact callsOnly_storeUpdate rfl
    · intro _
      apply Task.callsOnly_bind
      · exact Task.callsOnly_ask_bind rfl fun _ => trivial
      · exact fun _ => trivial
  · intro updated
    apply Task.callsOnly_bind
    · apply Task.callsOnly_attempt
      apply Task.callsOnly_bind
      · exact Task.callsOnly_ask rfl
      · intro answer
        cases answer <;> trivial
    · exact fun _ => trivial

/-- A verdict follows a nonce on the chain that is past that of the transaction, and nothing
after that asks for a receipt. -/
theorem exec_compareOnChainNonce {platform : Platform} {relayer : RelayerRepoModel}
    {tx : TransactionRepoModel} {n : ℕ}
    (hmarks : MarksConsumed (exec oracle (compareOnChainNonce platform relayer tx data) n).2) :
    ∃ nonce onChainNonce rest, data.nonce = some nonce ∧
      oracle n (.getTransactionCount relayer.address) = .ok onChainNonce ∧
      nonce < onChainNonce ∧
      (exec oracle (compareOnChainNonce platform relayer tx data) n).2 =
        .getTransactionCount relayer.address :: rest ∧
      ∀ request ∈ rest, isReceipt request = false := by
  rw [compareOnChainNonce] at hmarks ⊢
  cases hnonce : data.nonce with
  | none =>
      rw [hnonce] at hmarks
      obtain ⟨update, hmem, _⟩ := hmarks
      cases hmem
  | some nonce =>
      simp only [hnonce, Task.exec_bind, Task.exec_ask, List.length_singleton] at hmarks ⊢
      cases hanswer : oracle n (.getTransactionCount relayer.address) with
      | error e =>
          rw [hanswer] at hmarks
          obtain ⟨update, hmem, _⟩ := hmarks
          simp at hmem
      | ok onChainNonce =>
          simp only [hanswer] at hmarks ⊢
          by_cases hpast : nonce < onChainNonce
          · refine ⟨nonce, onChainNonce, _, rfl, rfl, hpast, rfl, ?_⟩
            rw [if_pos hpast]
            exact (noReceipt_markFailed platform tx _).run oracle (n + 1)
          · rw [if_neg hpast] at hmarks
            obtain ⟨update, hmem, _⟩ := hmarks
            simp at hmem

theorem exec_checkCurrentHash (oracle : Program.Oracle Request Answer)
    (data : EvmTransactionData) (n : ℕ) :
    ∃ outcome, exec oracle (checkCurrentHash data) n =
        (.ok outcome, data.hash.toList.map .getTransactionReceipt) ∧
      (outcome = .missing → ∀ hash, data.hash = some hash →
        oracle n (.getTransactionReceipt hash) = .ok none) := by
  rw [checkCurrentHash]
  cases hcurrent : data.hash with
  | none => exact ⟨.missing, rfl, fun _ _ hhash => (nomatch hhash)⟩
  | some hash =>
      simp only [Task.exec_bind, Task.exec_ask]
      cases hanswer : oracle n (.getTransactionReceipt hash) with
      | error e => exact ⟨.failed, rfl, fun hmissing => (nomatch hmissing)⟩
      | ok found =>
          cases found with
          | some receipt => exact ⟨.found, rfl, fun hmissing => (nomatch hmissing)⟩
          | none =>
              refine ⟨.missing, rfl, fun _ other hother => ?_⟩
              cases hother
              exact hanswer

/-- The hashes that are asked for besides the current one. -/
def askedEarlier (tx : TransactionRepoModel) (data : EvmTransactionData) : List String :=
  if 1 < tx.hashes.length then earlierHashes tx data else []

theorem exec_checkEarlierHashes (oracle : Program.Oracle Request Answer)
    (tx : TransactionRepoModel) (data : EvmTransactionData) (n : ℕ) :
    ∃ result calls, exec oracle (checkEarlierHashes tx data) n = (.ok result, calls) ∧
      ¬ MarksConsumed calls ∧
      (result = .ok none → calls = (askedEarlier tx data).map .getTransactionReceipt ∧
        ∀ k hash, (askedEarlier tx data)[k]? = some hash →
          ∀ receipt, oracle (n + k) (.getTransactionReceipt hash) ≠ .ok (some receipt)) := by
  rw [checkEarlierHashes, askedEarlier]
  by_cases hseveral : 1 < tx.hashes.length
  · rw [if_pos hseveral, if_pos hseveral, Task.exec_attempt]
    exact ⟨_, _, rfl, not_marks_of_spares (spares_checkHistoricalHashes data _) n,
      exec_checkHistoricalHashes tx.hashes.reverse n⟩
  · rw [if_neg hseveral, if_neg hseveral]
    refine ⟨.ok none, [], rfl, ?_, fun _ => ⟨rfl, fun _ _ hget => (nomatch hget)⟩⟩
    rintro ⟨_, hmem, _⟩
    cases hmem

theorem not_marks_append {first second : List Request} (hfirst : ¬ MarksConsumed first)
    (hmarks : MarksConsumed (first ++ second)) : MarksConsumed second := by
  obtain ⟨update, hmem, hfailed⟩ := hmarks
  rcases List.mem_append.mp hmem with hmem | hmem
  · exact absurd ⟨update, hmem, hfailed⟩ hfirst
  · exact ⟨update, hmem, hfailed⟩

theorem not_marks_nil : ¬ MarksConsumed [] := by
  rintro ⟨_, hmem, _⟩
  cases hmem

theorem not_marks_receipts (hashes : List String) :
    ¬ MarksConsumed (hashes.map .getTransactionReceipt) := by
  rintro ⟨update, hmem, _⟩
  obtain ⟨_, _, hrequest⟩ := List.mem_map.mp hmem
  cases hrequest

end Runs

/-- The calls of a run that gives the transaction up, and what their answers were. -/
structure Verdict (relayer : RelayerRepoModel) (tx : TransactionRepoModel)
    (data : EvmTransactionData) (oracle : Program.Oracle Request Answer)
    (calls : List Request) : Prop where
  current : ∀ hash, data.hash = some hash →
    oracle 0 (.getTransactionReceipt hash) = .ok none
  earlier : ∀ k hash, (askedEarlier tx data)[k]? = some hash →
    ∀ receipt, oracle (data.hash.toList.length + k) (.getTransactionReceipt hash) ≠
      .ok (some receipt)
  consumed : ∃ nonce onChainNonce rest, data.nonce = some nonce ∧ nonce < onChainNonce ∧
    oracle (data.hash.toList ++ askedEarlier tx data).length
      (.getTransactionCount relayer.address) = .ok onChainNonce ∧
    calls = (data.hash.toList ++ askedEarlier tx data).map .getTransactionReceipt ++
      .getTransactionCount relayer.address :: rest ∧
    ∀ request ∈ rest, isReceipt request = false

section Verdicts

variable {platform : Platform} {relayer : RelayerRepoModel} {tx : TransactionRepoModel}
  {data : EvmTransactionData} {oracle : Program.Oracle Request Answer} {calls : List Request}

theorem verdict_of_marks (hdata : tx.networkData = .evm data)
    (hmarks : MarksConsumed (exec oracle (reconcileTxNonceState platform relayer tx) 0).2) :
    Verdict relayer tx data oracle
      (exec oracle (reconcileTxNonceState platform relayer tx) 0).2 := by
  obtain ⟨outcome, hcurrent, hmissing⟩ := exec_checkCurrentHash oracle data 0
  obtain ⟨result, calls, hearlier, hspared, hnone⟩ :=
    exec_checkEarlierHashes oracle tx data data.hash.toList.length
  have hlength : (data.hash.toList.map Request.getTransactionReceipt).length =
      data.hash.toList.length := List.length_map _
  rw [reconcileTxNonceState, hdata] at hmarks ⊢
  simp only [EvmReplacement.NetworkTransactionData.getEvmTransactionData, Task.exec_bind,
    Task.exec_ofExcept, List.length_nil, List.nil_append, hcurrent, Nat.zero_add, hlength]
    at hmarks ⊢
  cases outcome with
  | found =>
      rw [Task.exec_pure, List.append_nil] at hmarks
      exact absurd hmarks (not_marks_receipts _)
  | failed =>
      simp only [Task.exec_bind, hearlier] at hmarks
      have hrest := not_marks_append (not_marks_receipts _) hmarks
      have hcalls : MarksConsumed calls := by
        cases result with
        | error e => simpa using hrest
        | ok recovered => cases recovered <;> simpa using hrest
      exact absurd hcalls hspared
  | missing =>
      simp only [Task.exec_bind, hearlier] at hmarks ⊢
      have hrest := not_marks_append hspared (not_marks_append (not_marks_receipts _) hmarks)
      cases result with
      | error e => exact absurd hrest not_marks_nil
      | ok recovered =>
          cases recovered with
          | some record => exact absurd hrest not_marks_nil
          | none =>
              obtain ⟨rfl, hreceipts⟩ := hnone rfl
              obtain ⟨nonce, onChainNonce, rest, hnonce, hanswer, hpast, hcalls, hquiet⟩ :=
                exec_compareOnChainNonce hrest
              refine ⟨hmissing rfl, hreceipts, nonce, onChainNonce, rest, hnonce, hpast, ?_, ?_,
                hquiet⟩
              · rw [List.length_map] at hanswer
                rw [List.length_append]
                exact hanswer
              · simp only [hcalls, List.map_append, List.append_assoc]

theorem callAt_receipts {hashes : List String} {rest : List Request} {n : ℕ} {hash : String}
    (hquiet : ∀ request ∈ rest, isReceipt request = false) :
    CallAt (hashes.map .getTransactionReceipt ++ rest) n (.getTransactionReceipt hash) ↔
      hashes[n]? = some hash := by
  rw [CallAt]
  by_cases hlt : n < hashes.length
  · rw [List.getElem?_append_left (by simpa using hlt), List.getElem?_map]
    simp
  · rw [List.getElem?_append_right (by simpa using hlt),
      List.getElem?_eq_none (not_lt.mp hlt)]
    refine ⟨fun hget => ?_, fun hget => (nomatch hget)⟩
    have hreceipt := hquiet _ (List.mem_of_getElem? hget)
    cases hreceipt

/-- A hash that was asked for is the current one or one of several recorded ones. -/
theorem mem_asked {hash : String} :
    hash ∈ data.hash.toList ++ askedEarlier tx data ↔
      data.hash = some hash ∨ 1 < tx.hashes.length ∧ hash ∈ tx.hashes ∧
        data.hash ≠ some hash := by
  rw [List.mem_append, askedEarlier, Option.mem_toList]
  by_cases hseveral : 1 < tx.hashes.length
  · rw [if_pos hseveral, earlierHashes]
    simp [hseveral]
  · rw [if_neg hseveral]
    simp [hseveral]

/-- The earlier hashes are asked for where there are several, or there is none. -/
theorem askedEarlier_eq
    (hlooked : 1 < tx.hashes.length ∨ ∀ hash ∈ tx.hashes, data.hash = some hash) :
    askedEarlier tx data = earlierHashes tx data := by
  rw [askedEarlier]
  by_cases hseveral : 1 < tx.hashes.length
  · rw [if_pos hseveral]
  · rw [if_neg hseveral, earlierHashes, eq_comm, List.filter_eq_nil_iff]
    intro hash hmem
    simpa using hlooked.resolve_left hseveral hash (List.mem_reverse.mp hmem)

/-- Where no query of an earlier hash failed, every query found nothing. -/
theorem Verdict.found_nothing (hverdict : Verdict relayer tx data oracle calls)
    (hsucceeded : ∀ k hash, (askedEarlier tx data)[k]? = some hash →
      ∀ e, oracle (data.hash.toList.length + k) (.getTransactionReceipt hash) ≠ .error e)
    {n : ℕ} {hash : String}
    (hasked : (data.hash.toList ++ askedEarlier tx data)[n]? = some hash) :
    oracle n (.getTransactionReceipt hash) = .ok none := by
  by_cases hlt : n < data.hash.toList.length
  · rw [List.getElem?_append_left hlt] at hasked
    cases hcurrent : data.hash with
    | none =>
        rw [hcurrent] at hasked
        cases hasked
    | some current =>
        rw [hcurrent] at hasked hlt
        have hzero : n = 0 := by simpa using hlt
        subst hzero
        cases hasked
        exact hverdict.current _ hcurrent
  · rw [List.getElem?_append_right (not_lt.mp hlt)] at hasked
    have hposition : data.hash.toList.length + (n - data.hash.toList.length) = n := by omega
    have hnoReceipt := hverdict.earlier _ hash hasked
    have hnoError := hsucceeded _ hash hasked
    rw [hposition] at hnoReceipt hnoError
    cases hanswer : oracle n (.getTransactionReceipt hash) with
    | error e => exact absurd hanswer (hnoError e)
    | ok found =>
        cases found with
        | none => rfl
        | some receipt => exact absurd hanswer (hnoReceipt receipt)

end Verdicts

/-- A verdict of external consumption is complete exactly if the earlier hashes were looked
at, because there are several or none differs from the current one, and no query among them
failed. -/
theorem consumed_verdict_complete_iff (platform : Platform) (relayer : RelayerRepoModel)
    (tx : TransactionRepoModel) (data : EvmTransactionData)
    (oracle : Program.Oracle Request Answer) (hdata : tx.networkData = .evm data)
    (hmarks : MarksConsumed (exec oracle (reconcileTxNonceState platform relayer tx) 0).2) :
    Complete relayer tx data oracle
        (exec oracle (reconcileTxNonceState platform relayer tx) 0).2 ↔
      (1 < tx.hashes.length ∨ ∀ hash ∈ tx.hashes, data.hash = some hash) ∧
        ∀ k hash, (earlierHashes tx data)[k]? = some hash →
          ∀ e, oracle (data.hash.toList.length + k) (.getTransactionReceipt hash) ≠
            .error e := by
  have hverdict := verdict_of_marks hdata hmarks
  obtain ⟨nonce, onChainNonce, rest, hnonce, hpast, hanswer, hcalls, hquiet⟩ :=
    hverdict.consumed
  have hreceipt : ∀ n hash, CallAt (exec oracle (reconcileTxNonceState platform relayer tx) 0).2
      n (.getTransactionReceipt hash) ↔
        (data.hash.toList ++ askedEarlier tx data)[n]? = some hash := by
    intro n hash
    rw [hcalls]
    exact callAt_receipts (List.forall_mem_cons.mpr ⟨rfl, hquiet⟩)
  constructor
  · intro hcomplete
    have hlooked : 1 < tx.hashes.length ∨ ∀ hash ∈ tx.hashes, data.hash = some hash := by
      rw [or_iff_not_imp_left]
      intro hsingle hash hmem
      obtain ⟨n, hcall, _⟩ := hcomplete.asked hash (.inr hmem)
      rw [hreceipt] at hcall
      rcases mem_asked.mp (List.mem_of_getElem? hcall) with hcurrent | ⟨hseveral, _⟩
      · exact hcurrent
      · exact absurd hseveral hsingle
    refine ⟨hlooked, fun k hash hget e herror => ?_⟩
    have hasked : (data.hash.toList ++ askedEarlier tx data)[data.hash.toList.length + k]? =
        some hash := by
      rw [List.getElem?_append_right (Nat.le_add_right _ _), Nat.add_sub_cancel_left,
        askedEarlier_eq hlooked]
      exact hget
    rw [hcomplete.succeeded _ hash ((hreceipt _ hash).mpr hasked)] at herror
    cases herror
  · rintro ⟨hlooked, hsucceeded⟩
    rw [← askedEarlier_eq hlooked] at hsucceeded
    have hnothing : ∀ n hash, CallAt
        (exec oracle (reconcileTxNonceState platform relayer tx) 0).2 n
          (.getTransactionReceipt hash) →
        oracle n (.getTransactionReceipt hash) = .ok none :=
      fun n hash hcall => hverdict.found_nothing hsucceeded ((hreceipt n hash).mp hcall)
    refine ⟨fun hash hhash => ?_, hnothing, ?_⟩
    · have hmem : hash ∈ data.hash.toList ++ askedEarlier tx data := by
        by_cases hcurrent : data.hash = some hash
        · exact mem_asked.mpr (.inl hcurrent)
        · have hmem := hhash.resolve_left hcurrent
          exact mem_asked.mpr (.inr ⟨hlooked.resolve_right fun hall =>
            hcurrent (hall hash hmem), hmem, hcurrent⟩)
      obtain ⟨n, hget⟩ := List.mem_iff_getElem?.mp hmem
      have hcall := (hreceipt n hash).mpr hget
      exact ⟨n, hcall, hnothing n hash hcall⟩
    · refine ⟨_, nonce, onChainNonce, ?_, hanswer, hnonce, hpast, fun earlier hash hcall => ?_⟩
      · rw [CallAt, hcalls, List.getElem?_append_right (by simp)]
        simp
      · have hget := (hreceipt earlier hash).mp hcall
        exact (List.getElem?_eq_some_iff.mp hget).1

section Transfer

/-- A transfer that was sent twice. -/
def resubmittedData : EvmTransactionData :=
  { sampleTransfer (some 7) none with hash := some "second" }

def resubmittedTransfer : TransactionRepoModel :=
  sampleRecord .submitted resubmittedData ["first", "second"]

/-- Answers of a chain whose nonce is at nine and that has no receipt. -/
def missingAnswers : Program.Oracle Request Answer := fun _ =>
  sampleAnswers (.ofPayloads []) resubmittedTransfer 9 10 0

/-- The same, but the query of the first hash fails. -/
def failingAnswers : Program.Oracle Request Answer
  | _, .getTransactionReceipt hash => if hash = "first" then .error "timeout" else .ok none
  | n, request => missingAnswers n request

/-- How the record is given up. -/
def giveUp : TransactionUpdateRequest :=
  { status := some .failed, statusReason := some (consumedExternally 7 9) }

def verdictCalls : List Request :=
  [.getTransactionReceipt "second", .getTransactionReceipt "first",
    .getTransactionCount "0x01", .partialUpdate giveUp, .sendTransactionUpdateNotification,
    .produceRelayerHealthCheckJob (some 7)]

theorem marks_verdictCalls : MarksConsumed verdictCalls :=
  ⟨giveUp, by simp [verdictCalls], rfl⟩

theorem consumed_verdict_all_missing :
    MarksConsumed (exec missingAnswers
        (reconcileTxNonceState samplePlatform sampleRelayer resubmittedTransfer) 0).2 ∧
      Complete sampleRelayer resubmittedTransfer resubmittedData missingAnswers
        (exec missingAnswers
          (reconcileTxNonceState samplePlatform sampleRelayer resubmittedTransfer) 0).2 := by
  have hcalls : (exec missingAnswers
      (reconcileTxNonceState samplePlatform sampleRelayer resubmittedTransfer) 0).2 =
      verdictCalls := by
    decide +kernel
  have hmarks : MarksConsumed (exec missingAnswers
      (reconcileTxNonceState samplePlatform sampleRelayer resubmittedTransfer) 0).2 := by
    rw [hcalls]
    exact marks_verdictCalls
  refine ⟨hmarks, (consumed_verdict_complete_iff samplePlatform sampleRelayer
    resubmittedTransfer resubmittedData missingAnswers rfl hmarks).mpr ⟨.inl (by decide), ?_⟩⟩
  exact fun _ _ _ _ herror => nomatch herror

/-- A query that fails is taken for a missing receipt. -/
theorem consumed_verdict_after_failed_query :
    (exec failingAnswers
        (reconcileTxNonceState samplePlatform sampleRelayer resubmittedTransfer) 0).2 =
      verdictCalls ∧ MarksConsumed verdictCalls ∧
      failingAnswers 1 (.getTransactionReceipt "first") = .error "timeout" ∧
      ¬ Complete sampleRelayer resubmittedTransfer resubmittedData failingAnswers
        (exec failingAnswers
          (reconcileTxNonceState samplePlatform sampleRelayer resubmittedTransfer) 0).2 := by
  have hcalls : (exec failingAnswers
      (reconcileTxNonceState samplePlatform sampleRelayer resubmittedTransfer) 0).2 =
      verdictCalls := by
    decide +kernel
  refine ⟨hcalls, marks_verdictCalls, rfl, fun hcomplete => ?_⟩
  rw [hcalls] at hcomplete
  have hanswer := hcomplete.succeeded 1 "first" rfl
  cases hanswer

end Transfer

end Relayer.EvmNonceRecovery
