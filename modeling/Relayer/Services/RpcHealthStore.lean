import Mathlib.Algebra.Order.Group.Int
import Mathlib.Algebra.Order.Group.Unbundled.Basic
import Mathlib.Logic.Function.Basic

/-!
# The health of RPC endpoints

The store keeps the times of the last failures of an endpoint and the time until which it is
paused.  It forgets failures that have expired, and of the others all but twice the
threshold.  As time does not run backwards, what it has forgotten never decides an answer:
it pauses an endpoint exactly when a record of all failures would.
-/

namespace Relayer.RpcHealthStore

/-- `DateTime<Utc>` and `chrono::Duration`, in nanoseconds.  Times outside the range of chrono,
where its arithmetic panics, are left out. -/
abbrev Time := ℤ

structure RpcConfigMetadata where
  failureTimestamps : List Time := []
  pausedUntil : Option Time := none
  deriving DecidableEq, Repr

/-- The settings of a selector that a call is made with. -/
structure HealthSettings where
  threshold : ℕ
  pauseDuration : Time
  failureExpiration : Time

abbrev Store := String → Option RpcConfigMetadata

def u32Size : ℕ := 4294967296

section Calls

variable (settings : HealthSettings) (now : Time)

/-- The failure is not older than the expiration window. -/
def isRecent (failure : Time) : Bool := now - failure ≤ settings.failureExpiration

def recent (failures : List Time) : List Time := failures.filter (isRecent settings now)

def RpcConfigMetadata.markFailed (metadata : RpcConfigMetadata) : RpcConfigMetadata :=
  let failures := recent settings now metadata.failureTimestamps ++ [now]
  let maxSize := settings.threshold * 2 % u32Size
  let kept := if failures.length > maxSize then failures.drop (failures.length - maxSize)
    else failures
  { failureTimestamps := kept
    pausedUntil :=
      if kept.length % u32Size ≥ settings.threshold then some (now + settings.pauseDuration)
      else metadata.pausedUntil }

def markFailed (store : Store) (url : String) : Store :=
  Function.update store url (some (((store url).getD {}).markFailed settings now))

def resetFailures (store : Store) (url : String) : Store := Function.update store url none

/-- The pause itself, once the threshold is reached. -/
def RpcConfigMetadata.withinPause (metadata : RpcConfigMetadata) : Bool :=
  if metadata.failureTimestamps.length % u32Size ≥ settings.threshold then
    metadata.pausedUntil.any fun pausedUntil => now < pausedUntil
  else false

/-- The check under the write lock, with the entry it leaves. -/
def RpcConfigMetadata.isPausedWithCleanup (metadata : RpcConfigMetadata) :
    Bool × Option RpcConfigMetadata :=
  let cleaned := { metadata with
    failureTimestamps := recent settings now metadata.failureTimestamps }
  if metadata.pausedUntil.any fun pausedUntil => now ≥ pausedUntil then
    (false, if cleaned.failureTimestamps = [] then none
      else some { cleaned with pausedUntil := none })
  else if cleaned.failureTimestamps.length % u32Size ≥ settings.threshold then
    (cleaned.withinPause settings now, some cleaned)
  else if cleaned.failureTimestamps = [] ∧ cleaned.pausedUntil = none then (false, none)
  else (false, some cleaned)

def isPaused (store : Store) (url : String) : Bool × Store :=
  match store url with
  | none => (false, store)
  | some metadata =>
      let hasStaleFailures := metadata.failureTimestamps.any fun failure =>
        !isRecent settings now failure
      let pauseExpired := metadata.pausedUntil.any fun pausedUntil => now ≥ pausedUntil
      let needsCleanup := metadata.failureTimestamps.isEmpty && metadata.pausedUntil.isNone
      if hasStaleFailures || pauseExpired || needsCleanup then
        let checked := metadata.isPausedWithCleanup settings now
        (checked.1, Function.update store url checked.2)
      else (metadata.withinPause settings now, store)

end Calls

/-! ## The record of all failures -/

/-- All failures since the last reset, and the end of the last pause. -/
structure FailureHistory where
  failures : List Time := []
  pausedUntil : Option Time := none

section History

variable (settings : HealthSettings) (now : Time)

/-- A failure starts a pause once it and the recent failures before it reach the
threshold. -/
def FailureHistory.markFailed (history : FailureHistory) : FailureHistory where
  failures := history.failures ++ [now]
  pausedUntil :=
    if settings.threshold ≤ (recent settings now history.failures).length + 1 then
      some (now + settings.pauseDuration)
    else history.pausedUntil

def FailureHistory.isPaused (history : FailureHistory) : Bool :=
  decide (settings.threshold ≤ (recent settings now history.failures).length) &&
    history.pausedUntil.any fun pausedUntil => now < pausedUntil

end History

inductive HealthCall where
  | markFailed (url : String)
  | resetFailures (url : String)
  | isPaused (url : String)
  deriving DecidableEq, Repr

section Runs

variable (settings : HealthSettings)

/-- The answers of the store to calls at the given times. -/
def answers : Store → List (Time × HealthCall) → List Bool
  | _, [] => []
  | store, (now, .markFailed url) :: calls =>
      answers (markFailed settings now store url) calls
  | store, (_, .resetFailures url) :: calls => answers (resetFailures store url) calls
  | store, (now, .isPaused url) :: calls =>
      (isPaused settings now store url).1 :: answers (isPaused settings now store url).2 calls

/-- The answers by the record of all failures. -/
def recordedAnswers : (String → FailureHistory) → List (Time × HealthCall) → List Bool
  | _, [] => []
  | histories, (now, .markFailed url) :: calls =>
      recordedAnswers
        (Function.update histories url ((histories url).markFailed settings now)) calls
  | histories, (_, .resetFailures url) :: calls =>
      recordedAnswers (Function.update histories url {}) calls
  | histories, (now, .isPaused url) :: calls =>
      (histories url).isPaused settings now :: recordedAnswers histories calls

end Runs

/-! ## What is kept of a history -/

section Recent

variable {settings : HealthSettings} {clock now : Time} {failures kept : List Time}

theorem isRecent_mono {older newer : Time} (hle : older ≤ newer)
    (hrecent : isRecent settings now older = true) : isRecent settings now newer = true := by
  rw [isRecent, decide_eq_true_eq] at hrecent ⊢
  exact (sub_le_sub_left hle now).trans hrecent

theorem isRecent_earlier {failure : Time} (hle : clock ≤ now)
    (hrecent : isRecent settings now failure = true) :
    isRecent settings clock failure = true := by
  rw [isRecent, decide_eq_true_eq] at hrecent ⊢
  exact (sub_le_sub_right hle failure).trans hrecent

/-- Of a sorted list an initial part has expired. -/
theorem exists_expired_append_recent (settings : HealthSettings) (now : Time)
    (hsorted : failures.Pairwise (· ≤ ·)) :
    ∃ expired, failures = expired ++ recent settings now failures ∧
      ∀ failure ∈ expired, isRecent settings now failure = false := by
  induction failures with
  | nil => exact ⟨[], rfl, nofun⟩
  | cons failure failures ih =>
      obtain ⟨hfirst, hrest⟩ := List.pairwise_cons.mp hsorted
      by_cases hrecent : isRecent settings now failure = true
      · refine ⟨[], (List.filter_eq_self.mpr ?_).symm, nofun⟩
        rintro later (_ | ⟨_, hlater⟩)
        · exact hrecent
        · exact isRecent_mono (hfirst later hlater) hrecent
      · obtain ⟨expired, hsplit, hexpired⟩ := ih hrest
        have hstale := eq_false_of_ne_true hrecent
        refine ⟨failure :: expired, ?_, List.forall_mem_cons.mpr ⟨hstale, hexpired⟩⟩
        rw [recent, List.filter_cons_of_neg hrecent, List.cons_append]
        exact congrArg (failure :: ·) hsplit

/-- The kept failures are the last ones, and the others have expired unless as many as the
threshold are kept. -/
structure Keeps (settings : HealthSettings) (clock : Time) (failures kept : List Time) :
    Prop where
  sorted : failures.Pairwise (· ≤ ·)
  past : ∀ failure ∈ failures, failure ≤ clock
  split : ∃ dropped, failures = dropped ++ kept ∧
    ((∀ failure ∈ dropped, isRecent settings clock failure = false) ∨
      settings.threshold ≤ kept.length)
  bounded : kept.length ≤ settings.threshold * 2

theorem Keeps.start (clock : Time) : Keeps settings clock [] [] :=
  ⟨.nil, nofun, ⟨[], rfl, .inl nofun⟩, Nat.zero_le _⟩

theorem Keeps.later (hkeeps : Keeps settings clock failures kept) (hle : clock ≤ now) :
    Keeps settings now failures kept := by
  obtain ⟨dropped, hsplit, hdropped⟩ := hkeeps.split
  refine ⟨hkeeps.sorted, fun failure hmem => (hkeeps.past failure hmem).trans hle,
    ⟨dropped, hsplit, hdropped.imp_left fun hexpired failure hmem => ?_⟩, hkeeps.bounded⟩
  have hstale := hexpired failure hmem
  by_contra hrecent
  rw [isRecent_earlier hle (eq_true_of_ne_false hrecent)] at hstale
  cases hstale

/-- Up to the threshold it does not matter whether all recent failures are counted or those
that are kept. -/
theorem Keeps.count (hkeeps : Keeps settings now failures kept) {bound : ℕ}
    (hbound : bound ≤ settings.threshold) :
    bound ≤ (recent settings now failures).length ↔
      bound ≤ (recent settings now kept).length := by
  obtain ⟨dropped, hsplit, hdropped⟩ := hkeeps.split
  have hsorted := hkeeps.sorted
  subst hsplit
  have happend : recent settings now (dropped ++ kept) =
      recent settings now dropped ++ recent settings now kept := List.filter_append ..
  rw [happend, List.length_append]
  refine ⟨fun hall => ?_, fun hsome => by omega⟩
  by_cases hempty : recent settings now dropped = []
  · rwa [hempty, List.length_nil, Nat.zero_add] at hall
  · -- A dropped failure is still recent: then so are all that are kept.
    obtain ⟨failure, hfailure⟩ := List.exists_mem_of_ne_nil _ hempty
    obtain ⟨hmem, hrecent⟩ := List.mem_filter.mp hfailure
    have hkept : recent settings now kept = kept := List.filter_eq_self.mpr fun later hlater =>
      isRecent_mono ((List.pairwise_append.mp hsorted).2.2 failure hmem later hlater) hrecent
    obtain hexpired | henough := hdropped
    · rw [hexpired failure hmem] at hrecent
      cases hrecent
    · rw [hkept]
      exact hbound.trans henough

theorem Keeps.prune (hkeeps : Keeps settings now failures kept) :
    Keeps settings now failures (recent settings now kept) := by
  obtain ⟨dropped, hsplit, hdropped⟩ := hkeeps.split
  have hsorted := hkeeps.sorted
  rw [hsplit] at hsorted
  obtain ⟨-, hkept, horder⟩ := List.pairwise_append.mp hsorted
  obtain ⟨expired, hparts, hexpired⟩ := exists_expired_append_recent settings now hkept
  refine ⟨hkeeps.sorted, hkeeps.past, ⟨dropped ++ expired, ?_, ?_⟩,
    (List.length_filter_le _ _).trans hkeeps.bounded⟩
  · rw [List.append_assoc, ← hparts, hsplit]
  · cases expired with
    | nil =>
        rw [List.nil_append] at hparts
        rwa [List.append_nil, ← hparts]
    | cons oldest expired =>
        -- What was dropped before is older than a failure that has expired.
        left
        intro failure hmem
        rcases List.mem_append.mp hmem with hbefore | hnow
        · have hstale := hexpired oldest List.mem_cons_self
          have hle := horder failure hbefore oldest
            (hparts ▸ List.mem_append_left _ List.mem_cons_self)
          by_contra hrecent
          rw [isRecent_mono hle (eq_true_of_ne_false hrecent)] at hstale
          cases hstale
        · exact hexpired failure hnow

/-- A new failure is added, and the oldest one goes if there are too many. -/
theorem Keeps.push (hkeeps : Keeps settings now failures kept) {size : ℕ}
    (hsize : size = settings.threshold * 2) :
    Keeps settings now (failures ++ [now])
      (if (kept ++ [now]).length > size then
        (kept ++ [now]).drop ((kept ++ [now]).length - size)
      else kept ++ [now]) := by
  obtain ⟨dropped, hsplit, hdropped⟩ := hkeeps.split
  have hsorted : (failures ++ [now]).Pairwise (· ≤ ·) := by
    refine List.pairwise_append.mpr ⟨hkeeps.sorted, List.pairwise_singleton _ _, ?_⟩
    rintro failure hmem last hlast
    obtain rfl := List.mem_singleton.mp hlast
    exact hkeeps.past failure hmem
  have hpast : ∀ failure ∈ failures ++ [now], failure ≤ now := by
    intro failure hmem
    rcases List.mem_append.mp hmem with hbefore | hlast
    · exact hkeeps.past failure hbefore
    · exact (List.mem_singleton.mp hlast).le
  have hlength : (kept ++ [now]).length = kept.length + 1 := List.length_append
  split
  · next hmany =>
      have hdrop : ((kept ++ [now]).drop ((kept ++ [now]).length - size)).length = size := by
        rw [List.length_drop]
        omega
      refine ⟨hsorted, hpast,
        ⟨dropped ++ (kept ++ [now]).take ((kept ++ [now]).length - size), ?_, .inr ?_⟩, ?_⟩
      · rw [List.append_assoc, List.take_append_drop, ← List.append_assoc, hsplit]
      · omega
      · omega
  · next hfew =>
      refine ⟨hsorted, hpast, ⟨dropped, ?_, hdropped.imp_right fun henough => ?_⟩, ?_⟩
      · rw [← List.append_assoc, hsplit]
      · omega
      · omega

end Recent

/-! ## The answers agree -/

/-- The entry of an endpoint against its history.  A pause is forgotten only once it is
over. -/
structure Tracks (settings : HealthSettings) (clock : Time) (history : FailureHistory)
    (metadata : RpcConfigMetadata) : Prop where
  keeps : Keeps settings clock history.failures metadata.failureTimestamps
  pause : metadata.pausedUntil = history.pausedUntil ∨
    metadata.pausedUntil = none ∧ ∀ pausedUntil ∈ history.pausedUntil, pausedUntil ≤ clock

section Tracks

variable {settings : HealthSettings} {clock now : Time} {history : FailureHistory}
variable {metadata : RpcConfigMetadata}

theorem Tracks.later (htracks : Tracks settings clock history metadata) (hle : clock ≤ now) :
    Tracks settings now history metadata where
  keeps := htracks.keeps.later hle
  pause := htracks.pause.imp_right fun ⟨hnone, hover⟩ =>
    ⟨hnone, fun pausedUntil hmem => (hover pausedUntil hmem).trans hle⟩

theorem Tracks.markFailed (htracks : Tracks settings now history metadata)
    (hsmall : settings.threshold * 2 < u32Size) :
    Tracks settings now (history.markFailed settings now)
      (metadata.markFailed settings now) := by
  have hkeeps := htracks.keeps.prune.push (Nat.mod_eq_of_lt hsmall)
  refine ⟨hkeeps, ?_⟩
  simp only [RpcConfigMetadata.markFailed, FailureHistory.markFailed]
  rw [Nat.mod_eq_of_lt (hkeeps.bounded.trans_lt hsmall)]
  have hcount := htracks.keeps.count (Nat.sub_le settings.threshold 1)
  have hlength : (recent settings now metadata.failureTimestamps ++ [now]).length =
      (recent settings now metadata.failureTimestamps).length + 1 := List.length_append
  have hreached : settings.threshold ≤ (recent settings now history.failures).length + 1 ↔
      (if (recent settings now metadata.failureTimestamps ++ [now]).length >
          settings.threshold * 2 % u32Size then
        (recent settings now metadata.failureTimestamps ++ [now]).drop
          ((recent settings now metadata.failureTimestamps ++ [now]).length -
            settings.threshold * 2 % u32Size)
      else recent settings now metadata.failureTimestamps ++ [now]).length ≥
        settings.threshold := by
    rw [Nat.mod_eq_of_lt hsmall]
    split
    · rw [List.length_drop]
      omega
    · omega
  by_cases henough : settings.threshold ≤ (recent settings now history.failures).length + 1
  · rw [if_pos henough, if_pos (hreached.mp henough)]
    exact .inl rfl
  · rw [if_neg henough, if_neg (mt hreached.mpr henough)]
    exact htracks.pause

/-- Whether the endpoint is paused, from the failures that are kept and recent. -/
theorem Tracks.isPaused (htracks : Tracks settings now history metadata) :
    history.isPaused settings now =
      (decide (settings.threshold ≤
          (recent settings now metadata.failureTimestamps).length) &&
        metadata.pausedUntil.any fun pausedUntil => now < pausedUntil) := by
  have hcount := htracks.keeps.count le_rfl
  have hpause : (history.pausedUntil.any fun pausedUntil => now < pausedUntil) =
      metadata.pausedUntil.any fun pausedUntil => now < pausedUntil := by
    obtain hsame | ⟨hnone, hover⟩ := htracks.pause
    · rw [hsame]
    · cases hpaused : history.pausedUntil with
      | none => rw [hnone]
      | some pausedUntil =>
          have hle := hover pausedUntil hpaused
          rw [hnone, Option.any_some, Option.any_none]
          exact decide_eq_false (not_lt.mpr hle)
  rw [FailureHistory.isPaused, hpause, decide_eq_decide.mpr hcount]

theorem Tracks.prune (htracks : Tracks settings now history metadata) :
    Tracks settings now history { metadata with
      failureTimestamps := recent settings now metadata.failureTimestamps } :=
  ⟨htracks.keeps.prune, htracks.pause⟩

/-- Once a pause is over, the entry may forget it. -/
theorem Tracks.unpause (htracks : Tracks settings now history metadata)
    (hover : (metadata.pausedUntil.any fun pausedUntil => now ≥ pausedUntil) = true) :
    Tracks settings now history { metadata with pausedUntil := none } := by
  refine ⟨htracks.keeps, .inr ⟨rfl, ?_⟩⟩
  obtain hsame | ⟨hnone, -⟩ := htracks.pause
  · intro pausedUntil hmem
    rw [hsame, hmem] at hover
    exact of_decide_eq_true hover
  · rw [hnone] at hover
    cases hover

theorem withinPause_eq (hsmall : metadata.failureTimestamps.length < u32Size) :
    metadata.withinPause settings now =
      (decide (settings.threshold ≤ metadata.failureTimestamps.length) &&
        metadata.pausedUntil.any fun pausedUntil => now < pausedUntil) := by
  rw [RpcConfigMetadata.withinPause, Nat.mod_eq_of_lt hsmall]
  by_cases henough : settings.threshold ≤ metadata.failureTimestamps.length
  · rw [if_pos henough, decide_eq_true henough, Bool.true_and]
  · rw [if_neg henough, decide_eq_false henough, Bool.false_and]

/-- The check under the write lock answers by the history and leaves an entry that tracks
it. -/
theorem Tracks.isPausedWithCleanup (htracks : Tracks settings now history metadata)
    (hsmall : settings.threshold * 2 < u32Size) :
    (metadata.isPausedWithCleanup settings now).1 = history.isPaused settings now ∧
      Tracks settings now history
        ((metadata.isPausedWithCleanup settings now).2.getD {}) := by
  have hpruned := htracks.prune
  have hlength := hpruned.keeps.bounded.trans_lt hsmall
  have hanswer := htracks.isPaused
  simp only [RpcConfigMetadata.isPausedWithCleanup, Nat.mod_eq_of_lt hlength]
  split
  · next hover =>
      have hpause : (metadata.pausedUntil.any fun pausedUntil => now < pausedUntil) = false := by
        cases hpaused : metadata.pausedUntil with
        | none => rfl
        | some pausedUntil =>
            rw [hpaused] at hover
            exact decide_eq_false (not_lt.mpr (of_decide_eq_true hover))
      rw [hanswer, hpause, Bool.and_false]
      refine ⟨rfl, ?_⟩
      have hunpaused := hpruned.unpause hover
      split
      · next hempty =>
          rw [hempty] at hunpaused
          exact hunpaused
      · exact hunpaused
  · split
    · exact ⟨(withinPause_eq hlength).trans hanswer.symm, hpruned⟩
    · next hfew =>
        rw [hanswer, decide_eq_false hfew, Bool.false_and]
        split
        · next hempty =>
            refine ⟨rfl, ?_⟩
            obtain ⟨hnone, hpaused⟩ := hempty
            rw [hnone, hpaused] at hpruned
            exact hpruned
        · exact ⟨rfl, hpruned⟩

/-- Asking answers by the history, and leaves an entry that tracks it. -/
theorem isPaused_spec {store : Store} {url : String}
    (htracks : Tracks settings now history ((store url).getD {}))
    (hpositive : 1 ≤ settings.threshold) (hsmall : settings.threshold * 2 < u32Size) :
    (isPaused settings now store url).1 = history.isPaused settings now ∧
      ∃ entry, (isPaused settings now store url).2 = Function.update store url entry ∧
        Tracks settings now history (entry.getD {}) := by
  rw [isPaused]
  cases hentry : store url with
  | none =>
      rw [hentry] at htracks
      refine ⟨?_, none, (Function.update_eq_self_iff.mpr hentry.symm).symm, htracks⟩
      have hfew : ¬ settings.threshold ≤ (recent settings now []).length :=
        not_le.mpr hpositive
      rw [htracks.isPaused, Option.getD_none, decide_eq_false hfew, Bool.false_and]
  | some metadata =>
      rw [hentry] at htracks
      dsimp only
      split
      · have hcleanup := htracks.isPausedWithCleanup hsmall
        exact ⟨hcleanup.1, _, rfl, hcleanup.2⟩
      · next hclean =>
          refine ⟨?_, some metadata, (Function.update_eq_self_iff.mpr hentry.symm).symm,
            htracks⟩
          simp only [Bool.or_eq_true, not_or, List.any_eq_true, not_exists, not_and,
            Bool.not_eq_true] at hclean
          have hrecent : recent settings now metadata.failureTimestamps =
              metadata.failureTimestamps := List.filter_eq_self.mpr fun failure hmem => by
            simpa using hclean.1.1 failure hmem
          rw [htracks.isPaused, Option.getD_some, hrecent]
          exact withinPause_eq (htracks.keeps.bounded.trans_lt hsmall)

end Tracks

section Histories

variable {settings : HealthSettings} {store : Store} {histories : String → FailureHistory}

theorem tracks_update {now : Time} (url : String) {entry : Option RpcConfigMetadata}
    {history : FailureHistory}
    (htracks : ∀ other, Tracks settings now (histories other) ((store other).getD {}))
    (hentry : Tracks settings now history (entry.getD {})) (other : String) :
    Tracks settings now (Function.update histories url history other)
      ((Function.update store url entry other).getD {}) := by
  by_cases hsame : other = url
  · subst hsame
    rwa [Function.update_self, Function.update_self]
  · rw [Function.update_of_ne hsame, Function.update_of_ne hsame]
    exact htracks other

theorem answers_eq_of_tracks (hpositive : 1 ≤ settings.threshold)
    (hsmall : settings.threshold * 2 < u32Size) {clock : Time}
    (htracks : ∀ url, Tracks settings clock (histories url) ((store url).getD {}))
    {calls : List (Time × HealthCall)}
    (htimes : ((clock, HealthCall.isPaused "") :: calls).Pairwise fun a b => a.1 ≤ b.1) :
    answers settings store calls = recordedAnswers settings histories calls := by
  induction calls generalizing clock store histories with
  | nil => rfl
  | cons call calls ih =>
      obtain ⟨now, call⟩ := call
      obtain ⟨hlater, hrest⟩ := List.pairwise_cons.mp htimes
      have hnow := fun url => (htracks url).later (hlater _ List.mem_cons_self)
      have htail : ((now, HealthCall.isPaused "") :: calls).Pairwise fun a b => a.1 ≤ b.1 :=
        List.pairwise_cons.mpr (List.pairwise_cons.mp hrest)
      cases call with
      | markFailed url => exact ih (tracks_update url hnow ((hnow url).markFailed hsmall)) htail
      | resetFailures url =>
          exact ih (tracks_update url hnow ⟨.start now, .inl rfl⟩) htail
      | isPaused url =>
          obtain ⟨hanswer, entry, hafter, hentry⟩ := isPaused_spec (hnow url) hpositive hsmall
          rw [answers, recordedAnswers, hanswer, hafter]
          refine congrArg (_ :: ·) (ih ?_ htail)
          have hupdate := tracks_update url hnow hentry
          rwa [Function.update_eq_self] at hupdate

end Histories

/-- Over every sequence of calls at times that do not run backwards, the store answers as
the record of all failures does. -/
theorem answers_eq_recordedAnswers (settings : HealthSettings)
    (hpositive : 1 ≤ settings.threshold) (hsmall : settings.threshold * 2 < u32Size)
    (calls : List (Time × HealthCall)) (htimes : calls.Pairwise fun a b => a.1 ≤ b.1) :
    answers settings (fun _ => none) calls = recordedAnswers settings (fun _ => {}) calls := by
  cases calls with
  | nil => rfl
  | cons call calls =>
      refine answers_eq_of_tracks hpositive hsmall
        (fun _ => ⟨.start call.1, .inl rfl⟩) (List.pairwise_cons.mpr ⟨?_, htimes⟩)
      exact List.forall_mem_cons.mpr ⟨le_rfl, (List.pairwise_cons.mp htimes).1⟩

/-- The threshold is one, so the oldest of three failures is dropped. -/
theorem answers_after_three_failures :
    answers ⟨1, 100, 10⟩ (fun _ => none)
        [(0, .markFailed "a"), (1, .markFailed "a"), (2, .markFailed "a"),
          (3, .isPaused "a"), (50, .isPaused "a"), (51, .resetFailures "a")] = [true, false] ∧
      answers ⟨1, 100, 10⟩ (fun _ => none)
          [(0, .markFailed "a"), (1, .markFailed "a"), (2, .markFailed "a"),
            (3, .isPaused "a"), (50, .isPaused "a"), (51, .resetFailures "a")] =
        recordedAnswers ⟨1, 100, 10⟩ (fun _ => {})
          [(0, .markFailed "a"), (1, .markFailed "a"), (2, .markFailed "a"),
            (3, .isPaused "a"), (50, .isPaused "a"), (51, .resetFailures "a")] :=
  ⟨by decide, answers_eq_recordedAnswers _ (by decide) (by decide) _ (by decide)⟩

end Relayer.RpcHealthStore
