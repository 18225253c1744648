import Relayer.Services.Retry

/-!
# Calls that share a selector

Any number of calls select endpoints, use them and mark them as failed, one step at a time
and in any order.  The selector remembers only the endpoint that was selected last, by
whichever call.  A mark therefore falls on the endpoint on which the call has failed if no
other call has selected one in between, and on another call's endpoint otherwise.
-/

namespace Relayer.RpcRetryRuns

open Relayer.Interaction Relayer.Interleaving
open Relayer.RelayerModel Relayer.RpcSelector Relayer.RpcRetry

/-- A failure that was recorded, with the endpoint on which the call had failed. -/
structure Charge where
  call : ℕ
  url : String
  failedOn : Option String
  deriving DecidableEq, Repr

/-- The selector, the call whose selection is the current one, the endpoint on which each
call has failed since its last selection, and the failures that were recorded. -/
structure Shared where
  clock : ℕ
  selector : SelectorState
  selectedBy : Option ℕ
  failedOn : ℕ → Option String
  charges : List Charge

/-- The random generator and the pauses at each selection. -/
structure Weather where
  draws : ℕ → ℕ → ℕ
  laterDraws : ℕ → ℕ → ℕ
  paused : ℕ → String → Bool

section Model

variable {Error Value : Type} (configs : List RpcConfig) (weather : Weather)

/-- The selection that the next call for one makes. -/
def selection (shared : Shared) (excludedUrls : List String) :
    Except RpcSelectorError String × SelectorState :=
  selectUrlInternal configs excludedUrls (weather.paused shared.clock)
    (weather.draws shared.clock) (weather.laterDraws shared.clock) shared.selector

def Shared.fail (shared : Shared) (call : ℕ) (url : String) :
    Except Error Value → Shared
  | .ok _ => shared
  | .error _ => { shared with failedOn := Function.update shared.failedOn call (some url) }

def Shared.mark (shared : Shared) (call : ℕ) : Shared :=
  { shared with
    selector := (markCurrentAsFailed configs shared.selector).2
    selectedBy := none
    charges := (markCurrentAsFailed configs shared.selector).1.toList.map
      (⟨call, ·, shared.failedOn call⟩) ++ shared.charges }

def Shared.select (shared : Shared) (call : ℕ) (selector : SelectorState) :
    Except RpcSelectorError String → Shared
  | .ok _ =>
      { shared with
        clock := shared.clock + 1
        selector := selector
        selectedBy := some call
        failedOn := Function.update shared.failedOn call none }
  | .error _ => { shared with clock := shared.clock + 1, selector := selector }

def serve (shared : Shared) (call : ℕ) :
    (request : Request) → Answer Error Value request → List Shared
  | .select excludedUrls, answer =>
      if answer = (selection configs weather shared excludedUrls).1 then
        [shared.select call (selection configs weather shared excludedUrls).2 answer]
      else []
  | .providerInitializer url, answer => [shared.fail call url answer]
  | .operate url, answer => [shared.fail call url answer]
  | .markCurrentAsFailed, _ => [shared.mark configs call]

/-- A call that is lost leaves its selection behind. -/
def calls (call : ℕ → RetryCall Error) :
    System Request (Answer Error Value) Shared Empty ℕ (Except Error Value) where
  launch name := some (retryRpcCall Value (call name) configs.length)
  serve := serve configs weather
  occur _ event := nomatch event
  crash shared name := some
    { shared with
      selectedBy := if shared.selectedBy = some name then none else shared.selectedBy }

/-- A call marks an endpoint only while its own selection is the current one, or none is. -/
def marksOwn (shared : Shared) (name : ℕ) : Request → Bool
  | .markCurrentAsFailed => !shared.selector.hasCurrent || shared.selectedBy = some name
  | _ => true

def initial (nextIndex : ℕ) : Shared := ⟨0, ⟨nextIndex, 0, false⟩, none, fun _ => none, []⟩

end Model

/-! ## What a call remembers -/

/-- The endpoint that a call uses, and whether it has failed there. -/
abbrev Memory := Option (String × Bool)

def afterUse {Error Value : Type} (memory : Memory) (url : String) :
    Except Error Value → Memory
  | .ok _ => memory
  | .error _ => some (url, true)

/-- A call selects when it uses no endpoint, and marks when it uses none or has failed. -/
def attributing (Error Value : Type) : Protocol Request (Answer Error Value) Memory where
  allowed
    | memory, .select _ => memory = none
    | memory, .providerInitializer url => memory = some (url, false)
    | memory, .operate url => ∃ failed, memory = some (url, failed)
    | memory, .markCurrentAsFailed => ∀ url failed, memory = some (url, failed) → failed = true
  possible _ _ _ := True
  remember
    | _, .select _, .ok url => some (url, false)
    | memory, .select _, .error _ => memory
    | memory, .providerInitializer url, answer => afterUse memory url answer
    | memory, .operate url, answer => afterUse memory url answer
    | _, .markCurrentAsFailed, _ => none

section Follows

variable {Error Value : Type} {call : RetryCall Error} {url : String}

/-- After the attempts on an endpoint an error means that the call has failed there. -/
def Used (url : String) (memory : Memory)
    (outcome : Except (InternalRetryError Error) Value) : Prop :=
  ∀ e, outcome = .error e → memory = some (url, true)

theorem attempt_follows {failed : Bool}
    {again : Error → Step Error Value (Except (InternalRetryError Error) Value)}
    (hagain : ∀ e, (again e).Follows (attributing Error Value) (Used url) (some (url, true))) :
    (attempt Value call url again).Follows (attributing Error Value) (Used url)
      (some (url, failed)) := by
  refine ⟨⟨failed, rfl⟩, fun answer _ => ?_⟩
  cases answer with
  | ok value => exact fun e h => (nomatch h)
  | error e =>
      change Program.Follows _ _ _ (if call.isRetriableError e then again e else _)
      split
      · exact hagain e
      · exact fun _ _ => rfl

theorem attemptWithRetries_follows {failed : Bool} (retries : ℕ) :
    (attemptWithRetries Value call url retries).Follows (attributing Error Value) (Used url)
      (some (url, failed)) := by
  induction retries generalizing failed with
  | zero => exact attempt_follows fun e _ _ => rfl
  | succ retries ih => exact attempt_follows fun _ => ih

theorem tryWithRetries_follows :
    (tryWithRetries Value call url).Follows (attributing Error Value) (Used url)
      (some (url, false)) := by
  rw [tryWithRetries]
  split
  · refine ⟨⟨false, rfl⟩, fun answer _ => ?_⟩
    cases answer with
    | ok value =>
        intro e herror
        cases herror
    | error e => exact fun _ _ => rfl
  · exact attemptWithRetries_follows _

/-- A call may mark what it has used. -/
def Marks (memory : Memory) : Prop := ∀ url failed, memory = some (url, failed) → failed = true

theorem tryProvider_follows {triedUrls : List String}
    {unavailable : Error → Step Error Value (Except Error Value)}
    {exhausted : String → Error → Step Error Value (Except Error Value)}
    (hunavailable : ∀ e memory, Marks memory →
      (unavailable e).Follows (attributing Error Value) (fun _ _ => True) memory)
    (hexhausted : ∀ url e,
      (exhausted url e).Follows (attributing Error Value) (fun _ _ => True) none) :
    (tryProvider Value call triedUrls unavailable exhausted).Follows (attributing Error Value)
      (fun _ _ => True) none := by
  refine ⟨rfl, fun answer _ => ?_⟩
  cases answer with
  | error e => exact hunavailable _ none fun _ _ h => (nomatch h)
  | ok url =>
      refine ⟨rfl, fun answer _ => ?_⟩
      cases answer with
      | error e =>
          refine hunavailable e (some (url, true)) ?_
          rintro _ _ ⟨⟩
          rfl
      | ok _ =>
          change Program.Follows _ _ (some (url, false)) (tryWithRetries Value call url >>= _)
          refine Program.Follows.bind tryWithRetries_follows fun memory outcome hused => ?_
          cases outcome with
          | ok value => trivial
          | error error =>
              obtain rfl := hused error rfl
              have hmarks : Marks (some (url, true)) := by
                rintro _ _ ⟨⟩
                rfl
              cases error with
              | nonRetriable e =>
                  change Program.Follows _ _ _ (if call.shouldMarkProviderFailed e then _ else _)
                  split
                  · exact ⟨hmarks, fun _ _ => trivial⟩
                  · trivial
              | retriesExhausted e => exact ⟨hmarks, fun _ _ => hexhausted url e⟩

theorem failover_follows (failovers : ℕ) (triedUrls : List String) :
    (failover Value call failovers triedUrls).Follows (attributing Error Value)
      (fun _ _ => True) none := by
  induction failovers generalizing triedUrls with
  | zero => exact tryProvider_follows (fun _ _ _ => trivial) fun _ _ => trivial
  | succ failovers ih =>
      exact tryProvider_follows (fun _ _ hmarks => ⟨hmarks, fun _ _ => ih triedUrls⟩)
        fun url _ => ih (url :: triedUrls)

theorem retryRpcCall_follows (providerCount : ℕ) :
    (retryRpcCall Value call providerCount).Follows (attributing Error Value)
      (fun _ _ => True) none := by
  rw [retryRpcCall]
  split
  · trivial
  · exact failover_follows _ _

end Follows

/-! ## Runs -/

/-- What a call remembers of the shared state: if the current selection is its own, it is
the endpoint that it uses; and where it has failed is on record. -/
structure Knows (configs : List RpcConfig) (name : ℕ) (memory : Memory) (shared : Shared) :
    Prop where
  current : shared.selectedBy = some name → ∃ url failed, memory = some (url, failed) ∧
    (configs[shared.selector.currentIndex]?).map RpcConfig.url = some url
  failed : ∀ url, memory = some (url, true) → shared.failedOn name = some url

def Fair (shared : Shared) : Prop := ∀ charge ∈ shared.charges, charge.failedOn = some charge.url

section Runs

variable {Error Value : Type} {configs : List RpcConfig} {weather : Weather}
variable {call : ℕ → RetryCall Error} {name : ℕ} {memory : Memory} {shared after : Shared}

theorem Knows.fail {url : String} (hknows : Knows configs name memory shared)
    (huses : ∃ failed, memory = some (url, failed)) (answer : Except Error Value) :
    Knows configs name (afterUse memory url answer) (shared.fail name url answer) ∧
      ∀ other, other ≠ name → ∀ kept, Knows configs other kept shared →
        Knows configs other kept (shared.fail name url answer) := by
  cases answer with
  | ok value => exact ⟨hknows, fun _ _ _ hother => hother⟩
  | error e =>
      refine ⟨⟨fun hmine => ?_, ?_⟩, fun other hne kept hother => ⟨hother.current, ?_⟩⟩
      · obtain ⟨failed, rfl⟩ := huses
        obtain ⟨used, _, hused, hcurrent⟩ := hknows.current hmine
        cases hused
        exact ⟨url, true, rfl, hcurrent⟩
      · rintro _ ⟨⟩
        exact Function.update_self ..
      · intro other' hfailed
        rw [← hother.failed other' hfailed]
        exact Function.update_of_ne hne ..

theorem Knows.select {excludedUrls : List String} (hknows : Knows configs name none shared) :
    Knows configs name
        ((attributing Error Value).remember none (.select excludedUrls)
          (selection configs weather shared excludedUrls).1)
        (shared.select name (selection configs weather shared excludedUrls).2
          (selection configs weather shared excludedUrls).1) ∧
      ∀ other, other ≠ name → ∀ kept, Knows configs other kept shared →
        Knows configs other kept (shared.select name
          (selection configs weather shared excludedUrls).2
          (selection configs weather shared excludedUrls).1) := by
  have houtcome := selectUrlInternal_outcome configs excludedUrls (weather.paused shared.clock)
    (weather.draws shared.clock) (weather.laterDraws shared.clock) shared.selector
  change Outcome configs excludedUrls _ _ (selection configs weather shared excludedUrls)
    at houtcome
  generalize selection configs weather shared excludedUrls = selection at houtcome
  cases houtcome with
  | @selected _ selected _ chosen _ =>
      obtain ⟨config, hconfig, hurl, -⟩ := chosen
      refine ⟨⟨fun _ => ⟨selected.2, false, rfl, ?_⟩, fun _ h => (nomatch h)⟩,
        fun other hne kept hother => ⟨fun hmine => ?_, fun url hfailed => ?_⟩⟩
      · exact (congrArg (Option.map RpcConfig.url) hconfig).trans (congrArg some hurl)
      · exact absurd (Option.some.inj hmine).symm hne
      · rw [← hother.failed url hfailed]
        exact Function.update_of_ne hne ..
  | failed _ =>
      exact ⟨⟨hknows.current, hknows.failed⟩,
        fun other _ kept hother => ⟨hother.current, hother.failed⟩⟩

/-- A mark falls on the endpoint on which the call has failed. -/
theorem Fair.mark (hfair : Fair shared) (hknows : Knows configs name memory shared)
    (hmarks : Marks memory) (hown : marksOwn shared name .markCurrentAsFailed = true) :
    Fair (shared.mark configs name) := by
  intro charge hmem
  rcases List.mem_append.mp hmem with hnew | hold
  · rw [markCurrentAsFailed] at hnew
    split at hnew
    · next hcurrent =>
        rw [marksOwn, hcurrent, Bool.not_true, Bool.false_or, decide_eq_true_eq] at hown
        obtain ⟨url, failed, rfl, hurl⟩ := hknows.current hown
        obtain rfl := hmarks url failed rfl
        rw [hurl, Option.toList_some, List.map_singleton, List.mem_singleton] at hnew
        rw [hnew]
        exact hknows.failed url rfl
    · cases hnew
  · exact hfair charge hold

theorem calls_uphold (call : ℕ → RetryCall Error) :
    Upholds ((calls configs weather call :
        System Request (Answer Error Value) Shared Empty ℕ (Except Error Value)).restrict
        (fun shared name request => marksOwn shared name request))
      (fun _ => attributing Error Value) (fun _ _ _ => True) none Fair (Knows configs) where
  launch name program hlaunch := by
    cases hlaunch
    exact retryRpcCall_follows _
  serve name memory shared request answer _ hfair hknows hallowed after hafter := by
    obtain ⟨hadmits, hserve⟩ := System.mem_serve_restrict.mp hafter
    cases request with
    | select excludedUrls =>
        obtain rfl : memory = none := hallowed
        change after ∈ (if answer = _ then _ else _) at hserve
        split at hserve
        · next hanswer =>
            obtain rfl := List.mem_singleton.mp hserve
            subst hanswer
            obtain ⟨hown, hothers⟩ := hknows.select
            refine ⟨?_, trivial, hown, hothers⟩
            cases (selection configs weather shared excludedUrls).1 <;> exact hfair
        · cases hserve
    | providerInitializer url =>
        obtain rfl := List.mem_singleton.mp hserve
        obtain ⟨hown, hothers⟩ := hknows.fail ⟨false, hallowed⟩ answer
        exact ⟨by cases answer <;> exact hfair, trivial, hown, hothers⟩
    | operate url =>
        obtain rfl := List.mem_singleton.mp hserve
        obtain ⟨hown, hothers⟩ := hknows.fail hallowed answer
        exact ⟨by cases answer <;> exact hfair, trivial, hown, hothers⟩
    | markCurrentAsFailed =>
        obtain rfl := List.mem_singleton.mp hserve
        exact ⟨hfair.mark hknows hallowed hadmits, trivial,
          ⟨fun h => (nomatch h), fun _ h => (nomatch h)⟩,
          fun other hne kept hother => ⟨fun h => (nomatch h), hother.failed⟩⟩
  occur shared event := nomatch event
  crash name shared after hfair hcrash := by
    cases hcrash
    refine ⟨hfair, ⟨fun hmine => ?_, fun _ h => (nomatch h)⟩, fun other hne memory hother =>
      ⟨fun hmine => hother.current ?_, hother.failed⟩⟩
    · dsimp only at hmine
      split at hmine
      · cases hmine
      · contradiction
    · dsimp only at hmine
      split at hmine
      · cases hmine
      · exact hmine

/-- As long as a call marks only while its own selection is the current one, every failure
is recorded for the endpoint on which that call has failed. -/
theorem failures_charged_to_failing_url (configs : List RpcConfig) (weather : Weather)
    (call : ℕ → RetryCall Error) (nextIndex : ℕ)
    (config : Config Request (Answer Error Value) Shared ℕ (Except Error Value))
    (hrun : ((calls configs weather call).restrict fun shared name request =>
      marksOwn shared name request).Reachable ⟨initial nextIndex, []⟩ config) :
    ∀ charge ∈ config.state.charges, charge.failedOn = some charge.url := by
  have hstart : ∀ name, Knows configs name none (initial nextIndex) := fun name =>
    ⟨fun h => (nomatch h), fun _ h => (nomatch h)⟩
  have hfair : Fair (initial nextIndex) := fun _ hmem => absurd hmem List.not_mem_nil
  exact ((calls_uphold call).reachable hfair hstart hrun).1

end Runs

/-! ## Two calls -/

section Samples

def fineWeather : Weather := ⟨fun _ _ => 0, fun _ _ => 0, fun _ _ => false⟩

/-- Errors are not retried, and mark the endpoint. -/
def markingCall : RetryCall String :=
  { sampleCall with shouldMarkProviderFailed := fun _ => true, config := ⟨1, 1⟩ }

abbrev sampleCalls : System Request (Answer String Unit) Shared Empty ℕ (Except String Unit) :=
  calls sampleConfigs fineWeather fun _ => markingCall

/-- The selector offers `url`, and the operation fails. -/
def failingAnswers (url : String) : (request : Request) → Answer String Unit request
  | .select _ => .ok url
  | .providerInitializer _ => .ok ()
  | .operate _ => .error "timeout"
  | .markCurrentAsFailed => ()

/-- The next step of the call at this place. -/
def next (place : ℕ) (url : String) : Action Request (Answer String Unit) Empty ℕ :=
  .advance place (failingAnswers url) 0

/-- Two calls fail side by side; the one whose selection is current marks it, and the other
then finds nothing to mark. -/
theorem failure_charged_to_own_url :
    ∃ config, (sampleCalls.restrict fun shared name request =>
        marksOwn shared name request).Reachable ⟨initial 0, []⟩ config ∧
      config.state.charges.length = 1 ∧
      ∀ charge ∈ config.state.charges, charge.failedOn = some charge.url := by
  have hexecute : ((sampleCalls.restrict fun shared name request =>
      marksOwn shared name request).execute ⟨initial 0, []⟩
      [.start 0, .start 1, next 0 "http://a", next 1 "http://b", next 0 "http://a",
        next 1 "http://b", next 0 "http://a", next 1 "http://b", next 1 "http://b",
        next 0 "http://a"]).map
      (fun config => config.state.charges.length) = some 1 := by
    decide +kernel
  obtain ⟨config, hrun, hlength⟩ := System.reachable_of_execute hexecute
  exact ⟨config, hrun, hlength, failures_charged_to_failing_url _ _ _ _ config hrun⟩

/-- The second call selects an endpoint before the first one marks: its endpoint is charged
with the failure of the first. -/
theorem failure_charged_to_other_url :
    ∃ config, sampleCalls.Reachable ⟨initial 0, []⟩ config ∧
      ⟨0, "http://b", some "http://a"⟩ ∈ config.state.charges := by
  have hexecute : (sampleCalls.execute ⟨initial 0, []⟩
      [.start 0, .start 1, next 0 "http://a", next 0 "http://a", next 0 "http://a",
        next 1 "http://b", next 0 "http://a"]).map (fun config => config.state.charges) =
      some [⟨0, "http://b", some "http://a"⟩] := by
    decide +kernel
  obtain ⟨config, hreachable, hcharges⟩ := System.reachable_of_execute hexecute
  exact ⟨config, hreachable, hcharges ▸ List.mem_cons_self⟩

end Samples

end Relayer.RpcRetryRuns
