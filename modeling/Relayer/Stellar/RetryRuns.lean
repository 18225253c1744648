import Relayer.Stellar.LifecycleRuns

/-!
# Fast resubmissions

A submission that the node rejects for the moment counts the rejection in the record and asks
for another submission, later the more rejections there were, up to a limit for each kind of
rejection.

The counters are increased atomically, so no two submissions are told the same count.  Every
count is a ticket for at most one resubmission; whoever finds the record finished gets none.
-/

namespace Relayer.StellarRetries

open Relayer.Transaction Relayer.Interaction Relayer.Interleaving
open Relayer.StellarLifecycle hiding Fresh Settled
open Relayer.StellarLifecycleRuns hiding serve occur jobs

/-- A delayed submission that was asked for: the retry that its submission counted last and
whether the record was not finished then, the delay, and whether the record is finished by
now. -/
structure Resubmission where
  cause : Option (Retry × Bool)
  delaySeconds : ℕ
  final : Bool

/-- The record and the network, the retry that each submission counted last, and the delayed
submissions that were asked for. -/
structure Watched where
  shared : Shared
  recorded : Delivery → Option (Retry × Bool)
  enqueued : List Resubmission

namespace Watched

def note (watched : Watched) (delivery : Delivery) (retry : Retry) (after : Shared) : Watched :=
  { watched with
    shared := after
    recorded := Function.update watched.recorded delivery
      (some (retry, !watched.shared.record.status.isFinalState)) }

def follow (watched : Watched) (delivery : Delivery) (request : Request) (after : Shared) :
    Watched :=
  match request with
  | .recordTryAgainLaterRetry => watched.note delivery .tryAgainLater after
  | .recordInsufficientFeeRetry => watched.note delivery .insufficientFee after
  | .submitJob (some delaySeconds) =>
      { watched with
        shared := after
        enqueued := watched.enqueued ++
          [⟨watched.recorded delivery, delaySeconds, watched.shared.record.status.isFinalState⟩] }
  | _ => { watched with shared := after }

/-- The delayed submissions of one kind. -/
def resubmissions (watched : Watched) (retry : Retry) : List Resubmission :=
  watched.enqueued.filter (·.cause.map Prod.fst = some retry)

end Watched

abbrev WatchedJobs := System Request Answer Watched Event Delivery Outcome

abbrev Config := Interleaving.Config Request Answer Watched Delivery Outcome

def jobs (settings : Settings) : WatchedJobs where
  launch := (StellarLifecycleRuns.jobs settings).launch
  serve watched delivery request answer :=
    (StellarLifecycleRuns.serve settings watched.shared delivery request answer).map
      (watched.follow delivery request)
  occur watched event :=
    (StellarLifecycleRuns.occur watched.shared event).map fun after =>
      { watched with shared := after }
  crash watched delivery := some { watched with shared := watched.shared.finish delivery }

/-- Only submissions run, and the node rejects every one of them for the moment. -/
def congested (_ : Watched) (delivery : Delivery) : (request : Request) → Answer request → Bool
  | .sendTransactionWithStatus _, .ok response =>
      response.status = "TRY_AGAIN_LATER" ||
        (response.status = "ERROR" && response.errorResult.any (·.2.any isInsufficientFeeError))
  | .sendTransactionWithStatus _, .error _ => false
  | _, _ => decide (delivery.job = .submit)

def congestedJobs (settings : Settings) : WatchedJobs := (jobs settings).restrictAnswers congested

def initial (shared : Shared) : Config := ⟨⟨shared, fun _ => none, []⟩, []⟩

/-! ## Tickets -/

/-- Every ticket is a count that was reached, belongs to one submission, and has not been
used. -/
structure Joint (watched : Watched) (memories : Delivery → Sight) : Prop where
  causes : ∀ resubmission ∈ watched.enqueued, ∃ retry count,
    resubmission.cause = some (retry, true) ∧
      resubmission.delaySeconds = fastResubmitBaseDelaySeconds * count ∧
      1 ≤ count ∧ count ≤ retry.limit ∧ count ≤ retry.count watched.shared.record.metadata
  distinct : watched.enqueued.Pairwise fun earlier later =>
    earlier.cause = later.cause → earlier.delaySeconds ≠ later.delaySeconds
  tickets : ∀ delivery retry count, (memories delivery).ticket = some (retry, count) →
    watched.recorded delivery = some (retry, true) ∧
      1 ≤ count ∧ count ≤ retry.count watched.shared.record.metadata ∧
      ∀ resubmission ∈ watched.enqueued, resubmission.cause = some (retry, true) →
        resubmission.delaySeconds ≠ fastResubmitBaseDelaySeconds * count
  apart : ∀ first second ticket, (memories first).ticket = some ticket →
    (memories second).ticket = some ticket → first = second

section Steps

variable {watched : Watched} {memories : Delivery → Sight} {delivery : Delivery} {later : Sight}
  {after : Shared}

theorem ticket_update {other : Delivery} {ticket : Retry × ℕ}
    (hticket : later.ticket = none ∨ later.ticket = (memories delivery).ticket)
    (hother : (Function.update memories delivery later other).ticket = some ticket) :
    (memories other).ticket = some ticket := by
  by_cases hsame : other = delivery
  · subst hsame
    rw [Function.update_self] at hother
    rcases hticket with hnone | hkept
    · rw [hnone] at hother
      cases hother
    · exact hkept.symm.trans hother
  · rwa [Function.update_of_ne hsame] at hother

/-- No counter falls, and no ticket is given out. -/
theorem Joint.keep (hjoint : Joint watched memories)
    (hcount : ∀ retry : Retry, retry.count watched.shared.record.metadata ≤
      retry.count after.record.metadata)
    (hticket : later.ticket = none ∨ later.ticket = (memories delivery).ticket) :
    Joint { watched with shared := after } (Function.update memories delivery later) := by
  refine ⟨fun resubmission hmem => ?_, hjoint.distinct, fun other retry count hother => ?_,
    fun first second ticket hfirst hsecond => ?_⟩
  · obtain ⟨retry, count, hcause, hdelay, hpos, hlimit, hle⟩ := hjoint.causes resubmission hmem
    exact ⟨retry, count, hcause, hdelay, hpos, hlimit, hle.trans (hcount retry)⟩
  · obtain ⟨hrecorded, hpos, hle, hunused⟩ :=
      hjoint.tickets other retry count (ticket_update hticket hother)
    exact ⟨hrecorded, hpos, hle.trans (hcount retry), hunused⟩
  · exact hjoint.apart first second ticket (ticket_update hticket hfirst)
      (ticket_update hticket hsecond)

/-- A retry is counted: where that gives a ticket, its count is larger than all before. -/
theorem Joint.note {retry : Retry} (hjoint : Joint watched memories)
    (hcount : ∀ kind : Retry, kind.count watched.shared.record.metadata ≤
      kind.count after.record.metadata)
    (hticket : later.ticket = none ∨
      later.ticket = some (retry, retry.count after.record.metadata) ∧
        watched.shared.record.status.isFinalState = false ∧
        retry.count watched.shared.record.metadata < retry.count after.record.metadata) :
    Joint (watched.note delivery retry after) (Function.update memories delivery later) := by
  -- a ticket of another submission is an earlier count
  have hearlier : ∀ other, other ≠ delivery → ∀ ticket,
      (Function.update memories delivery later other).ticket = some ticket →
      later.ticket ≠ some ticket := by
    rintro other hne ⟨kind, count⟩ hother hsame
    rw [Function.update_of_ne hne] at hother
    obtain ⟨-, -, hle, -⟩ := hjoint.tickets other kind count hother
    rcases hticket with hnone | ⟨hdrawn, -, hlt⟩
    · rw [hnone] at hsame
      cases hsame
    · cases hdrawn.symm.trans hsame
      exact absurd hle (Nat.not_le.mpr hlt)
  refine ⟨fun resubmission hmem => ?_, hjoint.distinct, fun other kind count hother => ?_,
    fun first second ticket hfirst hsecond => ?_⟩
  · obtain ⟨kind, count, hcause, hdelay, hpos, hlimit, hle⟩ := hjoint.causes resubmission hmem
    exact ⟨kind, count, hcause, hdelay, hpos, hlimit, hle.trans (hcount kind)⟩
  · by_cases hsame : other = delivery
    · subst hsame
      rw [Function.update_self] at hother
      rcases hticket with hnone | ⟨hdrawn, hlive, hlt⟩
      · rw [hnone] at hother
        cases hother
      · cases hdrawn.symm.trans hother
        refine ⟨?_, Nat.one_le_of_lt hlt, le_rfl, fun resubmission hmem hcause => ?_⟩
        · refine (Function.update_self ..).trans ?_
          rw [hlive]
          rfl
        · obtain ⟨kind, count, hkind, hdelay, -, -, hle⟩ := hjoint.causes resubmission hmem
          cases hkind.symm.trans hcause
          have hbase : 0 < fastResubmitBaseDelaySeconds := by decide
          rw [hdelay]
          exact (Nat.mul_lt_mul_of_pos_left (hle.trans_lt hlt) hbase).ne
    · rw [Function.update_of_ne hsame] at hother
      obtain ⟨hrecorded, hpos, hle, hunused⟩ := hjoint.tickets other kind count hother
      exact ⟨(Function.update_of_ne hsame ..).trans hrecorded, hpos, hle.trans (hcount kind),
        hunused⟩
  · by_cases hone : first = delivery <;> by_cases htwo : second = delivery
    · exact hone.trans htwo.symm
    · subst hone
      rw [Function.update_self] at hfirst
      exact absurd hfirst (hearlier second htwo ticket hsecond)
    · subst htwo
      rw [Function.update_self] at hsecond
      exact absurd hsecond (hearlier first hone ticket hfirst)
    · rw [Function.update_of_ne hone] at hfirst
      rw [Function.update_of_ne htwo] at hsecond
      exact hjoint.apart first second ticket hfirst hsecond

/-- A ticket is used up. -/
theorem Joint.enqueue {retry : Retry} {count : ℕ} {final : Bool} (hjoint : Joint watched memories)
    (hticket : (memories delivery).ticket = some (retry, count)) (hlimit : count ≤ retry.limit)
    (hlater : later.ticket = none) :
    Joint
      { watched with
        enqueued := watched.enqueued ++
          [⟨watched.recorded delivery, fastResubmitBaseDelaySeconds * count, final⟩] }
      (Function.update memories delivery later) := by
  obtain ⟨hrecorded, hpos, hle, hunused⟩ := hjoint.tickets delivery retry count hticket
  refine ⟨fun resubmission hmem => ?_, ?_, fun other kind number hother => ?_,
    fun first second ticket hfirst hsecond => ?_⟩
  · rcases List.mem_append.mp hmem with hmem | hmem
    · exact hjoint.causes resubmission hmem
    · cases List.mem_singleton.mp hmem
      exact ⟨retry, count, hrecorded, rfl, hpos, hlimit, hle⟩
  · refine List.pairwise_append.mpr ⟨hjoint.distinct, List.pairwise_singleton _ _, ?_⟩
    intro earlier hearlier last hlast hcause
    cases List.mem_singleton.mp hlast
    exact hunused earlier hearlier (hcause.trans hrecorded)
  · have hne : other ≠ delivery := by
      rintro rfl
      rw [Function.update_self, hlater] at hother
      cases hother
    rw [Function.update_of_ne hne] at hother
    obtain ⟨hcause, hstart, hreached, hfree⟩ := hjoint.tickets other kind number hother
    refine ⟨hcause, hstart, hreached, fun resubmission hmem hkind => ?_⟩
    rcases List.mem_append.mp hmem with hmem | hmem
    · exact hfree resubmission hmem hkind
    · cases List.mem_singleton.mp hmem
      cases hrecorded.symm.trans hkind
      intro hdelay
      have hsame : count = number := Nat.eq_of_mul_eq_mul_left (by decide) hdelay
      rw [← hsame] at hother
      exact hne (hjoint.apart other delivery _ hother hticket)
  · exact hjoint.apart first second ticket (ticket_update (.inl hlater) hfirst)
      (ticket_update (.inl hlater) hsecond)

end Steps

/-! ## The calls of the jobs -/

section Calls

variable {settings : Settings} {mode : Mode} {watched : Watched} {memories : Delivery → Sight}
  {delivery : Delivery} {after : Shared}

theorem metadata_update (settings : Settings) (shared : Shared)
    (update : TransactionUpdateRequest) :
    (shared.update settings update).record.metadata = shared.record.metadata := by
  rw [Shared.update]
  split <;> rfl

/-- A recorder increases its counter, unless the transaction is finished. -/
theorem Joint.record {retry : Retry} {change : TransactionMetadata → TransactionMetadata}
    {answer : Except RepositoryError TransactionRepoModel} {later : Sight}
    (hjoint : Joint watched memories)
    (hafter : after ∈ watched.shared.become (watched.shared.updateMetadata change) answer)
    (hchange : ∀ metadata, retry.count (change metadata) = retry.count metadata + 1 ∧
      ∀ kind : Retry, kind.count metadata ≤ kind.count (change metadata))
    (hticket : later.ticket = answer.toOption.bind retry.ticket) :
    Joint (watched.note delivery retry after) (Function.update memories delivery later) := by
  have hmetadata : ∀ kind : Retry, kind.count watched.shared.record.metadata ≤
      kind.count (watched.shared.updateMetadata change).record.metadata := by
    intro kind
    rw [Shared.updateMetadata]
    split
    · exact le_rfl
    · exact (hchange _).2 kind
  have hcount : ∀ kind : Retry, kind.count watched.shared.record.metadata ≤
      kind.count after.record.metadata := by
    rcases mem_become hafter with rfl | rfl
    · exact fun _ => le_rfl
    · exact hmetadata
  refine hjoint.note hcount ?_
  cases answer with
  | error error => exact .inl hticket
  | ok told =>
      obtain ⟨rfl, rfl⟩ := mem_become_ok hafter
      cases hfinal : watched.shared.record.status.isFinalState with
      | true =>
          refine .inl (hticket.trans ?_)
          simp [Shared.updateMetadata, Retry.ticket, Except.toOption, hfinal]
      | false =>
          refine .inr ⟨hticket.trans ?_, rfl, ?_⟩
          · simp [Shared.updateMetadata, Retry.ticket, Except.toOption, hfinal]
          · simp [Shared.updateMetadata, hfinal, (hchange _).1]

theorem Joint.serve {request : Request} {answer : Answer request}
    (hjoint : Joint watched memories)
    (hacts : Acts mode delivery.job (memories delivery) request)
    (hafter : after ∈ StellarLifecycleRuns.serve settings watched.shared delivery request answer) :
    Joint (watched.follow delivery request after) (Function.update memories delivery
      ((memories delivery).remember delivery.job request answer)) := by
  have hsame : after = watched.shared → ∀ retry : Retry,
      retry.count watched.shared.record.metadata ≤ retry.count after.record.metadata := by
    rintro rfl
    exact fun _ => le_rfl
  cases hacts with
  | load =>
      cases answer with
      | error error => exact hjoint.keep (hsame (List.mem_singleton.mp hafter)) (.inr rfl)
      | ok told =>
          obtain ⟨-, rfl⟩ := mem_serve_load hafter
          refine hjoint.keep (fun retry => ?_) (.inr ?_)
          · rw [Shared.load]
            split <;> exact le_rfl
          · simp only [Sight.remember, Sight.note]
            split <;> rfl
  | plain hplain =>
      have hfollow : watched.follow delivery request after = { watched with shared := after } := by
        cases request with
        | recordTryAgainLaterRetry | recordInsufficientFeeRetry | submitJob => exact hplain.elim
        | _ => rfl
      rw [hfollow, remember_plain hplain]
      exact hjoint.keep (hsame (serve_plain hplain hafter)) (.inr rfl)
  | claim | free => exact hjoint.keep (hsame (List.mem_singleton.mp hafter)) (.inr rfl)
  | recordTryAgainLater =>
      refine hjoint.record hafter (fun metadata => ⟨rfl, fun kind => ?_⟩) (by cases answer <;> rfl)
      cases kind
      · exact le_rfl
      · exact Nat.le_succ _
  | recordInsufficientFee =>
      refine hjoint.record hafter (fun metadata => ⟨rfl, fun kind => ?_⟩) (by cases answer <;> rfl)
      cases kind
      · exact Nat.le_succ _
      · exact le_rfl
  | send =>
      refine hjoint.keep (fun retry => ?_) (.inr rfl)
      rcases mem_answerSend hafter with rfl | ⟨-, rfl⟩ <;> exact le_rfl
  | write =>
      refine hjoint.keep (fun retry => ?_) (.inr (by cases answer <;> rfl))
      rcases mem_become hafter with rfl | rfl
      · exact le_rfl
      · rw [metadata_update]
  | queue => exact hjoint.keep (hsame (List.mem_singleton.mp hafter)) (.inl rfl)
  | retry hjob hlatest hlive hticket hlimit =>
      cases List.mem_singleton.mp hafter
      exact hjoint.enqueue hticket hlimit rfl
  | handOver =>
      refine hjoint.keep (hsame (List.mem_singleton.mp hafter)) (.inr ?_)
      cases answer <;> rfl
  | acknowledge =>
      cases List.mem_singleton.mp hafter
      exact hjoint.keep (fun _ => le_rfl) (.inl rfl)

end Calls

theorem jobs_maintain (settings : Settings) :
    Maintains (jobs settings) (fun delivery => conduct ⟨settings.concurrent, false⟩ delivery.job)
      {} Joint where
  serve watched memories delivery request answer _ hjoint hacts after hserve := by
    obtain ⟨shared, hshared, rfl⟩ := List.mem_map.mp hserve
    exact ⟨believable_serve hshared, hjoint.serve hacts hshared⟩
  occur watched memories event hjoint after hoccur := by
    obtain ⟨shared, hshared, rfl⟩ := List.mem_map.mp hoccur
    have hrecord : shared.record = watched.shared.record := by
      rcases event with ⟨index, success⟩ | count | seconds
      · simp only [StellarLifecycleRuns.occur] at hshared
        split at hshared
        · split at hshared
          · cases hshared
          · cases List.mem_singleton.mp hshared
            rfl
        · cases hshared
      · cases List.mem_singleton.mp hshared
        rfl
      · cases List.mem_singleton.mp hshared
        rfl
    refine ⟨?_, hjoint.distinct, ?_, hjoint.apart⟩
    · rw [hrecord]
      exact hjoint.causes
    · rw [hrecord]
      exact hjoint.tickets
  crash watched memories delivery after hjoint hcrash := by
    cases hcrash
    exact hjoint.keep (fun _ => le_rfl) (.inl rfl)

theorem Joint.length_le {watched : Watched} {memories : Delivery → Sight}
    (hjoint : Joint watched memories) (retry : Retry) :
    ((watched.resubmissions retry).map (·.delaySeconds)).Nodup ∧
      (watched.resubmissions retry).length ≤ retry.limit := by
  have hcause : ∀ resubmission ∈ watched.resubmissions retry,
      resubmission ∈ watched.enqueued ∧ resubmission.cause = some (retry, true) := by
    intro resubmission hmem
    obtain ⟨henqueued, hkind⟩ := List.mem_filter.mp hmem
    obtain ⟨kind, count, hcause, -⟩ := hjoint.causes resubmission henqueued
    rw [hcause] at hkind
    cases of_decide_eq_true hkind
    exact ⟨henqueued, hcause⟩
  have hdistinct : ((watched.resubmissions retry).map (·.delaySeconds)).Nodup := by
    refine List.pairwise_map.mpr ((hjoint.distinct.filter _).imp_of_mem ?_)
    intro earlier later hearlier hlater hdifferent
    exact hdifferent ((hcause earlier hearlier).2.trans (hcause later hlater).2.symm)
  refine ⟨hdistinct, ?_⟩
  -- the delays are multiples of the base by the counts up to the limit
  have hsubset : (watched.resubmissions retry).map (·.delaySeconds) ⊆
      (List.range retry.limit).map fun count => fastResubmitBaseDelaySeconds * (count + 1) := by
    intro delay hdelay
    obtain ⟨resubmission, hmem, rfl⟩ := List.mem_map.mp hdelay
    obtain ⟨hmem, hkind⟩ := hcause resubmission hmem
    obtain ⟨kind, count, hother, hdelay, hpos, hlimit, -⟩ := hjoint.causes resubmission hmem
    cases hother.symm.trans hkind
    refine List.mem_map.mpr ⟨count - 1, List.mem_range.mpr (by omega), ?_⟩
    rw [hdelay, Nat.sub_add_cancel hpos]
  have hlength := (hdistinct.subperm hsubset).length_le
  rwa [List.length_map, List.length_map, List.length_range] at hlength

/-- However the jobs of a transaction interleave and whatever they are answered, each kind of
retry leads to at most as many delayed submissions as its limit, all with different delays,
and none for a retry that was counted when the transaction was finished. -/
theorem fast_resubmissions_bounded (settings : Settings) (shared : Shared) (config : Config)
    (hrun : (jobs settings).Reachable (initial shared) config) :
    (∀ retry : Retry, (config.state.resubmissions retry).length ≤ retry.limit ∧
      ((config.state.resubmissions retry).map (·.delaySeconds)).Nodup) ∧
    ∀ resubmission ∈ config.state.enqueued, ∃ retry, resubmission.cause = some (retry, true) := by
  have hlaunch : ∀ delivery program, (jobs settings).launch delivery = some program →
      program.Follows (conduct ⟨settings.concurrent, false⟩ delivery.job)
        (fun later _ => later = {}) {} := by
    rintro delivery _ ⟨⟩
    exact keeps_runJob _ delivery.job
  have hfirst : Joint (initial shared).state fun _ => {} :=
    ⟨fun _ hmem => (nomatch hmem), .nil, fun _ _ _ hnone => (nomatch hnone),
      fun _ _ _ hnone => (nomatch hnone)⟩
  obtain ⟨memories, hjoint, -⟩ := (jobs_maintain settings).reachable hlaunch hfirst hrun
  refine ⟨fun retry => ?_, fun resubmission hmem => ?_⟩
  · exact ⟨(hjoint.length_le retry).2, (hjoint.length_le retry).1⟩
  · obtain ⟨retry, count, hcause, -⟩ := hjoint.causes resubmission hmem
    exact ⟨retry, hcause⟩

/-! ## A payment that expires meanwhile -/

section Payment

def sentPayment : TransactionRepoModel := preparedPayment samplePayment 5

def sampleShared : Shared := ⟨sentPayment, [], ⟨4, 0, [], []⟩, [signedPayment 5], []⟩

/-- The node is congested. -/
def retryAnswers (current : TransactionRepoModel) (expired : Bool) :
    (request : Request) → Answer request
  | .recordTryAgainLaterRetry => .ok { current with metadata := ⟨0, 1⟩ }
  | .isTransactionExpired _ => .ok expired
  | request => paymentAnswers current 5 ⟨"TRY_AGAIN_LATER", "hash", none⟩ request

/-- A submission is rejected and counted. -/
def rejectedActions : List (Action Request Answer Event Delivery) :=
  deliver 0 .submit 4 (retryAnswers sentPayment false)

/-- It then asks for a delayed submission. -/
def resubmitAction : Action Request Answer Event Delivery :=
  .advance 0 (retryAnswers sentPayment false) 0

theorem fast_resubmissions_bounded_payment :
    ∃ config : Config, (jobs ⟨true, true⟩).Reachable (initial sampleShared) config ∧
      config.state.enqueued.map (·.delaySeconds) = [5] ∧
      (config.state.resubmissions .tryAgainLater).length ≤ 3 := by
  have hexecute : ((jobs ⟨true, true⟩).execute (initial sampleShared)
      (rejectedActions ++ [resubmitAction])).map
      (fun config => config.state.enqueued.map (·.delaySeconds)) = some [5] := by
    decide +kernel
  obtain ⟨config, hrun, hdelays⟩ := System.reachable_of_execute hexecute
  exact ⟨config, hrun, hdelays,
    ((fast_resubmissions_bounded ⟨true, true⟩ sampleShared config hrun).1 .tryAgainLater).1⟩

/-- Another submission finds the payment expired before the delayed one is asked for. -/
def expiredActions : List (Action Request Answer Event Delivery) :=
  deliver 1 .submit 4 (retryAnswers { sentPayment with metadata := ⟨0, 1⟩ } true)

theorem resubmission_after_final :
    ∃ config : Config, (congestedJobs ⟨true, true⟩).Reachable (initial sampleShared) config ∧
      ∃ resubmission ∈ config.state.enqueued, resubmission.final = true := by
  have hexecute : ((congestedJobs ⟨true, true⟩).execute (initial sampleShared)
      (rejectedActions ++ expiredActions ++ [resubmitAction])).map
      (fun config => config.state.enqueued.any (·.final)) = some true := by
    decide +kernel
  obtain ⟨config, hreachable, hany⟩ := System.reachable_of_execute hexecute
  obtain ⟨resubmission, hmem, hfinal⟩ := List.any_eq_true.mp hany
  exact ⟨config, hreachable, resubmission, hmem, hfinal⟩

end Payment

end Relayer.StellarRetries
