import Relayer.Core.Protocol
import Relayer.Services.RpcSelector

/-!
# Retrying RPC calls

A call is attempted on one endpoint several times and then on the next one.  The loops are a
program of the calls that it makes to the selector, to the endpoints and to the operation,
so that the same program can run alone and beside others that share its selector.
-/

namespace Relayer.RpcRetry

open Relayer.Interaction Relayer.RelayerModel Relayer.RpcSelector

structure RetryConfig where
  maxRetries : UInt8
  maxFailovers : UInt8
  deriving DecidableEq, Repr

inductive Request where
  | select (excludedUrls : List String)
  | providerInitializer (url : String)
  | operate (url : String)
  | markCurrentAsFailed
  deriving DecidableEq, Repr

section Model

variable (Error Value : Type)

@[reducible]
def Answer : Request → Type
  | .select _ => Except RpcSelectorError String
  | .providerInitializer _ => Except Error Unit
  | .operate _ => Except Error Value
  | .markCurrentAsFailed => Unit

abbrev Step (A : Type) := Program Request (Answer Error Value) A

inductive InternalRetryError where
  | nonRetriable (error : Error)
  | retriesExhausted (error : Error)

/-- The arguments of `retry_rpc_call` that do not call out. -/
structure RetryCall where
  operationName : String
  isRetriableError : Error → Bool
  shouldMarkProviderFailed : Error → Bool
  fromText : String → Error
  config : RetryConfig

variable {Error} (call : RetryCall Error)

def getProvider (excludedUrls : List String) : Step Error Value (Except Error String) := do
  match ← Program.ask (Request.select excludedUrls) with
  | .error e =>
      let name := call.operationName
      let text := e.toText
      return .error (call.fromText s!"Failed to get provider URL for {name}: {text}")
  | .ok url =>
      match ← Program.ask (Request.providerInitializer url) with
      | .error e => return .error e
      | .ok _ => return .ok url

/-- One attempt; `again` follows an error that can be retried. -/
def attempt (url : String)
    (again : Error → Step Error Value (Except (InternalRetryError Error) Value)) :
    Step Error Value (Except (InternalRetryError Error) Value) := do
  match ← Program.ask (Request.operate url) with
  | .ok value => return .ok value
  | .error e => if call.isRetriableError e then again e else return .error (.nonRetriable e)

/-- One attempt and up to `retries` more. -/
def attemptWithRetries (url : String) :
    ℕ → Step Error Value (Except (InternalRetryError Error) Value)
  | 0 => attempt Value call url fun e => return .error (.retriesExhausted e)
  | retries + 1 => attempt Value call url fun _ => attemptWithRetries url retries

def tryWithRetries (url : String) :
    Step Error Value (Except (InternalRetryError Error) Value) := do
  if call.config.maxRetries ≤ 1 then
    match ← Program.ask (Request.operate url) with
    | .ok value => return .ok value
    | .error e => return .error (.nonRetriable e)
  else attemptWithRetries Value call url (call.config.maxRetries.toNat - 1)

/-- One turn of the loop over the endpoints. -/
def tryProvider (triedUrls : List String)
    (unavailable : Error → Step Error Value (Except Error Value))
    (exhausted : String → Error → Step Error Value (Except Error Value)) :
    Step Error Value (Except Error Value) := do
  match ← getProvider Value call triedUrls with
  | .error e => unavailable e
  | .ok url =>
      match ← tryWithRetries Value call url with
      | .ok value => return .ok value
      | .error (.nonRetriable e) => do
          if call.shouldMarkProviderFailed e then Program.ask Request.markCurrentAsFailed
          return .error e
      | .error (.retriesExhausted e) => do
          Program.ask Request.markCurrentAsFailed
          exhausted url e

/-- The loop, with the number of failovers that are left. -/
def failover : ℕ → List String → Step Error Value (Except Error Value)
  | 0, triedUrls =>
      tryProvider Value call triedUrls (fun e => return .error e) fun _ e => return .error e
  | failovers + 1, triedUrls =>
      tryProvider Value call triedUrls
        (fun _ => do
          Program.ask Request.markCurrentAsFailed
          failover failovers triedUrls)
        fun url _ => failover failovers (url :: triedUrls)

/-- Without endpoints nothing has been attempted when the error is made. -/
def retryRpcCall (providerCount : ℕ) : Step Error Value (Except Error Value) :=
  if providerCount = 0 then
    let name := call.operationName
    .done (.error (call.fromText
      s!"RPC call '{name}' failed after 0 total attempts across 0 providers with no error details"))
  else failover Value call (min call.config.maxFailovers.toNat (providerCount - 1)) []

end Model

/-! ## A call that runs alone -/

/-- What a call did so far, the last first: the endpoints it selected, and its attempts
with the errors they brought. -/
structure Trace (Error : Type) where
  selected : List String := []
  attempts : List (String × Option Error) := []

def errorOf {Error Value : Type} : Except Error Value → Option Error
  | .ok _ => none
  | .error e => some e

def Trace.record {Error Value : Type} (trace : Trace Error) :
    (request : Request) → Answer Error Value request → Trace Error
  | .select _, .ok url => { trace with selected := url :: trace.selected }
  | .operate url, answer => { trace with attempts := (url, errorOf answer) :: trace.attempts }
  | _, _ => trace

/-- What decides the course of a call, by the number of calls made before. -/
structure Surroundings (Error Value : Type) where
  draws : ℕ → ℕ → ℕ
  laterDraws : ℕ → ℕ → ℕ
  paused : ℕ → String → Bool
  providerInitializer : ℕ → String → Except Error Unit
  operate : ℕ → String → Except Error Value

structure Solo (Error : Type) where
  clock : ℕ
  selector : SelectorState
  trace : Trace Error := {}

section Alone

variable {Error Value : Type} (configs : List RpcConfig)

def answer (surroundings : Surroundings Error Value) (solo : Solo Error) :
    (request : Request) → Answer Error Value request × SelectorState
  | .select excludedUrls =>
      selectUrlInternal configs excludedUrls (surroundings.paused solo.clock)
        (surroundings.draws solo.clock) (surroundings.laterDraws solo.clock) solo.selector
  | .providerInitializer url => (surroundings.providerInitializer solo.clock url, solo.selector)
  | .operate url => (surroundings.operate solo.clock url, solo.selector)
  | .markCurrentAsFailed => ((), (RpcSelector.markCurrentAsFailed configs solo.selector).2)

def serve (surroundings : Surroundings Error Value) (solo : Solo Error) (request : Request) :
    Answer Error Value request × Solo Error :=
  ((answer configs surroundings solo request).1,
    ⟨solo.clock + 1, (answer configs surroundings solo request).2,
      solo.trace.record request (answer configs surroundings solo request).1⟩)

/-- A whole call from a state of the selector. -/
def runAlone (call : RetryCall Error) (surroundings : Surroundings Error Value)
    (selector : SelectorState) : Except Error Value × Solo Error :=
  (retryRpcCall Value call configs.length).handle (serve configs surroundings) ⟨0, selector, {}⟩

def positiveWeight : List RpcConfig := configs.filter fun config => 0 < config.weight

/-- The attempts that the settings allow. -/
def attemptBound (config : RetryConfig) : ℕ :=
  (config.maxFailovers.toNat + 1) * max 1 config.maxRetries.toNat

/-- The endpoints that have to be tried before giving up. -/
def coverage (config : RetryConfig) : ℕ :=
  min (config.maxFailovers.toNat + 1) (positiveWeight configs).length

/-- A call that gives up after an error that could be retried has tried enough endpoints. -/
def Covers (call : RetryCall Error) (outcome : Except Error Value × Solo Error) : Prop :=
  ∀ error url failure before, outcome.1 = .error error →
    outcome.2.trace.attempts = (url, some failure) :: before →
    call.isRetriableError failure = true →
    coverage configs call.config ≤ outcome.2.trace.selected.dedup.length

end Alone

/-! ## What a call adds to its trace -/

/-- Selection answers as the selector does; with `reliable`, every endpoint can be used. -/
def tracing (Error Value : Type) (configs : List RpcConfig) (reliable : Prop) :
    Protocol Request (Answer Error Value) (Trace Error) where
  allowed _ _ := True
  possible _
    | .select excludedUrls, .ok url =>
        url ∉ excludedUrls ∧ url ∈ (positiveWeight configs).map RpcConfig.url
    | .select excludedUrls, .error _ =>
        ∀ config ∈ positiveWeight configs, config.url ∈ excludedUrls
    | .providerInitializer _, answer => reliable → answer = .ok ()
    | .operate _, _ => True
    | .markCurrentAsFailed, _ => True
  remember trace request answer := trace.record request answer

section Tracing

variable {Error Value : Type} {configs : List RpcConfig} {reliable : Prop}
variable {call : RetryCall Error} {url : String} {trace : Trace Error}

def failureOf : Except (InternalRetryError Error) Value → Option Error
  | .ok _ => none
  | .error (.nonRetriable e) => some e
  | .error (.retriesExhausted e) => some e

/-- At most `bound` attempts on the endpoint were added, the last one with this outcome. -/
structure Attempted (call : RetryCall Error) (url : String) (bound : ℕ) (trace later : Trace Error)
    (outcome : Except (InternalRetryError Error) Value) : Prop where
  selected : later.selected = trace.selected
  last : ∃ before, later.attempts = (url, failureOf outcome) :: before ∧
    before.length + 1 ≤ trace.attempts.length + bound
  fatal : ∀ failure, outcome = .error (.nonRetriable failure) →
    2 ≤ call.config.maxRetries → call.isRetriableError failure = false
  exhausts : ∀ failure, outcome = .error (.retriesExhausted failure) →
    2 ≤ call.config.maxRetries

theorem attempt_follows {goal : Trace Error → Except (InternalRetryError Error) Value → Prop}
    {again : Error → Step Error Value (Except (InternalRetryError Error) Value)}
    (hok : ∀ value, goal ⟨trace.selected, (url, none) :: trace.attempts⟩ (.ok value))
    (hfatal : ∀ e, call.isRetriableError e = false →
      goal ⟨trace.selected, (url, some e) :: trace.attempts⟩ (.error (.nonRetriable e)))
    (hagain : ∀ e, (again e).Follows (tracing Error Value configs reliable) goal
      ⟨trace.selected, (url, some e) :: trace.attempts⟩) :
    (attempt Value call url again).Follows (tracing Error Value configs reliable) goal trace := by
  refine ⟨trivial, fun answer _ => ?_⟩
  cases answer with
  | ok value => exact hok value
  | error e =>
      change Program.Follows _ _ _ (if call.isRetriableError e then again e else _)
      split
      · exact hagain e
      · next hfinal => exact hfatal e (eq_false_of_ne_true hfinal)

theorem attemptWithRetries_follows (hretries : 2 ≤ call.config.maxRetries) (retries : ℕ) :
    (attemptWithRetries Value call url retries).Follows
      (tracing Error Value configs reliable) (Attempted call url (retries + 1) trace) trace := by
  induction retries generalizing trace with
  | zero =>
      refine attempt_follows (fun value => ⟨rfl, ⟨_, rfl, le_rfl⟩, nofun, nofun⟩)
        (fun e hfatal => ⟨rfl, ⟨_, rfl, le_rfl⟩, ?_, nofun⟩)
        fun e => ⟨rfl, ⟨_, rfl, le_rfl⟩, nofun, fun _ _ => hretries⟩
      rintro _ ⟨⟩ _
      exact hfatal
  | succ retries ih =>
      refine attempt_follows (fun value => ⟨rfl, ⟨_, rfl, by omega⟩, nofun, nofun⟩)
        (fun e hfatal => ⟨rfl, ⟨_, rfl, by omega⟩, ?_, nofun⟩) fun e => ih.imp ?_
      · rintro _ ⟨⟩ _
        exact hfatal
      · rintro later outcome ⟨hselected, ⟨before, hbefore, hcount⟩, hfatal, hexhausts⟩
        refine ⟨hselected, ⟨before, hbefore, ?_⟩, hfatal, hexhausts⟩
        rw [List.length_cons] at hcount
        omega

theorem tryWithRetries_follows :
    (tryWithRetries Value call url).Follows (tracing Error Value configs reliable)
      (Attempted call url (max 1 call.config.maxRetries.toNat) trace) trace := by
  rw [tryWithRetries]
  split
  · next hsingle =>
      have hone : max 1 call.config.maxRetries.toNat = 1 := max_eq_left hsingle
      rw [hone]
      refine ⟨trivial, fun answer _ => ?_⟩
      cases answer with
      | ok value => exact ⟨rfl, ⟨_, rfl, le_rfl⟩, nofun, nofun⟩
      | error e =>
          refine ⟨rfl, ⟨_, rfl, le_rfl⟩, fun _ _ hretries => ?_, nofun⟩
          exact absurd (UInt8.le_trans hretries hsingle) (by decide)
  · next hretries =>
      have hmany : 1 < call.config.maxRetries.toNat := not_le.mp hretries
      have hbound : max 1 call.config.maxRetries.toNat =
          call.config.maxRetries.toNat - 1 + 1 := by omega
      rw [hbound]
      exact attemptWithRetries_follows hmany _

theorem getProvider_follows {goal : Trace Error → Except Error String → Prop}
    {excludedUrls : List String}
    (hmissing : ∀ e, (∀ config ∈ positiveWeight configs, config.url ∈ excludedUrls) →
      goal trace (.error e))
    (hbroken : ∀ url e, ¬ reliable → goal ⟨url :: trace.selected, trace.attempts⟩ (.error e))
    (hfound : ∀ url, url ∉ excludedUrls →
      goal ⟨url :: trace.selected, trace.attempts⟩ (.ok url)) :
    (getProvider Value call excludedUrls).Follows (tracing Error Value configs reliable) goal
      trace := by
  refine ⟨trivial, fun answer hselect => ?_⟩
  cases answer with
  | error e => exact hmissing _ hselect
  | ok url =>
      refine ⟨trivial, fun answer hinitializer => ?_⟩
      cases answer with
      | error e => exact hbroken url e fun hreliable => (nomatch hinitializer hreliable)
      | ok _ => exact hfound url hselect.1

/-- How many endpoints a call tries at least that gives up after an error that could be
retried: with fewer than two attempts each, it gives up on the first. -/
def reach (call : RetryCall Error) (configs : List RpcConfig) (providers : ℕ) : ℕ :=
  min (if 2 ≤ call.config.maxRetries then providers else 1) (positiveWeight configs).length

theorem reach_succ_le (call : RetryCall Error) (configs : List RpcConfig) (providers : ℕ) :
    reach call configs (providers + 1) ≤ providers + 1 := by
  rw [reach]
  split
  · exact min_le_left _ _
  · exact (min_le_left _ _).trans (Nat.succ_le_succ (Nat.zero_le _))

/-- What a call with `failovers` left adds to the trace. -/
structure Sought (call : RetryCall Error) (configs : List RpcConfig) (reliable : Prop)
    (failovers : ℕ) (triedUrls : List String) (trace later : Trace Error)
    (outcome : Except Error Value) : Prop where
  count : later.attempts.length ≤
    trace.attempts.length + (failovers + 1) * max 1 call.config.maxRetries.toNat
  nodup : reliable → later.selected.Nodup
  single : reliable → ¬ 2 ≤ call.config.maxRetries →
    later.selected.length ≤ trace.selected.length + 1 ∧
      later.attempts.length ≤ trace.attempts.length + 1
  succeeded : ∀ value, outcome = .ok value →
    ∃ url before, later.attempts = (url, none) :: before
  covered : ∀ error url failure before, reliable → outcome = .error error →
    later.attempts = (url, some failure) :: before → call.isRetriableError failure = true →
    reach call configs (triedUrls.length + failovers + 1) ≤ later.selected.length

variable {triedUrls : List String} {failovers : ℕ}

theorem tryProvider_follows {unavailable : Error → Step Error Value (Except Error Value)}
    {exhausted : String → Error → Step Error Value (Except Error Value)}
    (htried : reliable → trace.selected = triedUrls ∧ triedUrls.Nodup)
    (hunavailable : ∀ e later, later.attempts = trace.attempts →
      (reliable → later.selected = triedUrls ∧
        ∀ config ∈ positiveWeight configs, config.url ∈ triedUrls) →
      (unavailable e).Follows (tracing Error Value configs reliable)
        (Sought call configs reliable failovers triedUrls trace) later)
    (hexhausted : ∀ url e later, 2 ≤ call.config.maxRetries → url ∉ triedUrls →
      later.selected = url :: trace.selected →
      later.attempts.length ≤ trace.attempts.length + max 1 call.config.maxRetries.toNat →
      (exhausted url e).Follows (tracing Error Value configs reliable)
        (Sought call configs reliable failovers triedUrls trace) later) :
    (tryProvider Value call triedUrls unavailable exhausted).Follows
      (tracing Error Value configs reliable)
      (Sought call configs reliable failovers triedUrls trace) trace := by
  have hbound : max 1 call.config.maxRetries.toNat ≤
      (failovers + 1) * max 1 call.config.maxRetries.toNat :=
    Nat.le_mul_of_pos_left _ (Nat.succ_pos failovers)
  refine Program.Follows.bind (getProvider_follows ?_ ?_ ?_) fun _ _ hnext => hnext
  · exact fun e hmissing => hunavailable e trace rfl fun hreliable =>
      ⟨(htried hreliable).1, hmissing⟩
  · exact fun url e hbroken => hunavailable e _ rfl fun hreliable => absurd hreliable hbroken
  · intro url hfresh
    have hnodup : reliable → (url :: trace.selected).Nodup := fun hreliable => by
      rw [(htried hreliable).1]
      exact List.nodup_cons.mpr ⟨hfresh, (htried hreliable).2⟩
    refine Program.Follows.bind tryWithRetries_follows ?_
    rintro later outcome ⟨hselected, ⟨before, hattempts, hcount⟩, hfatal, hexhausts⟩
    have hlength : later.attempts.length ≤
        trace.attempts.length + max 1 call.config.maxRetries.toNat := by
      rw [hattempts, List.length_cons]
      exact hcount
    have hends : ∀ result : Except Error Value,
        (∀ e failure, result = .error e → failureOf outcome = some failure →
          call.isRetriableError failure = true → ¬ 2 ≤ call.config.maxRetries) →
        (∀ value, result = .ok value → failureOf outcome = none) →
        Sought call configs reliable failovers triedUrls trace later result := by
      intro result hgivesUp hsucceeds
      refine ⟨hlength.trans (Nat.add_le_add_left hbound _), fun h => hselected ▸ hnodup h,
        fun _ hretries => ?_, fun value hvalue => ⟨url, before, ?_⟩, ?_⟩
      · have hone : max 1 call.config.maxRetries.toNat = 1 := max_eq_left (not_lt.mp hretries)
        rw [hone] at hlength
        exact ⟨hselected ▸ le_rfl, hlength⟩
      · rw [hattempts, hsucceeds value hvalue]
      intro e lastUrl failure rest hreliable herror hlast hretriable
      have hfailure : failureOf outcome = some failure :=
        congrArg Prod.snd (List.cons.inj (hattempts.symm.trans hlast)).1
      rw [reach, if_neg (hgivesUp e failure herror hfailure hretriable), hselected]
      exact (min_le_left _ _).trans (Nat.succ_le_succ (Nat.zero_le _))
    cases outcome with
    | ok value => exact hends _ (fun e _ h => (nomatch h)) fun _ _ => rfl
    | error error =>
        cases error with
        | nonRetriable e =>
            have hend := hends (.error e) (fun _ failure _ hfailure hretriable hretries => by
              cases hfailure
              rw [hfatal e rfl hretries] at hretriable
              cases hretriable) fun _ h => (nomatch h)
            change Program.Follows _ _ _ (if call.shouldMarkProviderFailed e then _ else _)
            split
            · exact ⟨trivial, fun _ _ => hend⟩
            · exact hend
        | retriesExhausted e =>
            exact ⟨trivial, fun _ _ =>
              hexhausted url e later (hexhausts e rfl) hfresh hselected hlength⟩

theorem positive_length_le (hdistinct : ((positiveWeight configs).map RpcConfig.url).Nodup)
    (htried : ∀ config ∈ positiveWeight configs, config.url ∈ triedUrls) :
    (positiveWeight configs).length ≤ triedUrls.length := by
  have hsubset : (positiveWeight configs).map RpcConfig.url ⊆ triedUrls := by
    intro url hmem
    obtain ⟨config, hconfig, rfl⟩ := List.mem_map.mp hmem
    exact htried config hconfig
  have hlength := (List.subperm_of_subset hdistinct hsubset).length_le
  rwa [List.length_map] at hlength

/-- Beyond all endpoints there is none to be tried. -/
theorem reach_le_reach {fewer more : ℕ} (hall : (positiveWeight configs).length ≤ fewer) :
    reach call configs more ≤ reach call configs fewer := by
  rw [reach, reach]
  split
  · exact le_min ((min_le_right _ _).trans hall) (min_le_right _ _)
  · exact le_rfl

theorem failover_follows (hdistinct : ((positiveWeight configs).map RpcConfig.url).Nodup)
    (htried : reliable → trace.selected = triedUrls ∧ triedUrls.Nodup) :
    (failover Value call failovers triedUrls).Follows (tracing Error Value configs reliable)
      (Sought call configs reliable failovers triedUrls trace) trace := by
  induction failovers generalizing trace triedUrls with
  | zero =>
      refine tryProvider_follows htried ?_ ?_
      · intro e later hsame hall
        refine ⟨hsame ▸ Nat.le_add_right _ _, fun h => (hall h).1 ▸ (htried h).2,
          fun h _ => ?_, nofun, ?_⟩
        · rw [hsame, (hall h).1, (htried h).1]
          exact ⟨Nat.le_succ _, Nat.le_succ _⟩
        intro _ _ _ _ hreliable _ _ _
        rw [(hall hreliable).1]
        exact (min_le_right _ _).trans (positive_length_le hdistinct (hall hreliable).2)
      · intro url e later hretries hfresh hselected hcount
        refine ⟨by omega, fun h => ?_, fun _ hfew => absurd hretries hfew, nofun,
          fun _ _ _ _ hreliable _ _ _ => ?_⟩
        · rw [hselected, (htried h).1]
          exact List.nodup_cons.mpr ⟨hfresh, (htried h).2⟩
        · rw [hselected, (htried hreliable).1]
          exact reach_succ_le call configs _
  | succ failovers ih =>
      refine tryProvider_follows htried ?_ ?_
      · intro e later hsame hall
        have hsame' : reliable → later.selected = triedUrls ∧ triedUrls.Nodup :=
          fun h => ⟨(hall h).1, (htried h).2⟩
        refine ⟨trivial, fun _ _ => (ih hsame').imp ?_⟩
        rintro last outcome ⟨hcount, hnodup, hsingle, hsucceeded, hcovered⟩
        refine ⟨?_, hnodup, fun h hfew => ?_, hsucceeded,
          fun e' lastUrl failure before h herror hattempts hretriable => ?_⟩
        · rw [hsame] at hcount
          have hexpand := Nat.add_one_mul (failovers + 1) (max 1 call.config.maxRetries.toNat)
          omega
        · have hlater := hsingle h hfew
          rwa [hsame, (hall h).1, ← (htried h).1] at hlater
        · have hfew := positive_length_le hdistinct (hall h).2
          exact (reach_le_reach (by omega)).trans
            (hcovered e' lastUrl failure before h herror hattempts hretriable)
      · intro url e later hretries hfresh hselected hcount
        have hnext : reliable → later.selected = url :: triedUrls ∧ (url :: triedUrls).Nodup := by
          intro h
          rw [hselected, (htried h).1]
          exact ⟨rfl, List.nodup_cons.mpr ⟨hfresh, (htried h).2⟩⟩
        refine (ih hnext).imp ?_
        rintro last outcome ⟨hlast, hnodup, -, hsucceeded, hcovered⟩
        refine ⟨?_, hnodup, fun _ hfew => absurd hretries hfew, hsucceeded,
          fun e' lastUrl failure before h herror hattempts hretriable => ?_⟩
        · have hexpand := Nat.add_one_mul (failovers + 1) (max 1 call.config.maxRetries.toNat)
          omega
        · have hreach := hcovered e' lastUrl failure before h herror hattempts hretriable
          rwa [List.length_cons, Nat.add_right_comm triedUrls.length] at hreach

end Tracing

section Coverage

variable {Error Value : Type} {configs : List RpcConfig} {call : RetryCall Error}

theorem serve_possible (surroundings : Surroundings Error Value) {reliable : Prop}
    (hinitializer : reliable → ∀ n url, surroundings.providerInitializer n url = .ok ())
    (trace : Trace Error) (solo : Solo Error) (request : Request) :
    (tracing Error Value configs reliable).possible trace request
      (serve configs surroundings solo request).1 := by
  cases request with
  | select excludedUrls =>
      obtain ⟨hsound, hcomplete⟩ := selectUrlInternal_sound_and_complete configs excludedUrls
        (surroundings.paused solo.clock) (surroundings.draws solo.clock)
        (surroundings.laterDraws solo.clock) solo.selector
      change (tracing Error Value configs reliable).possible trace (.select excludedUrls)
        (selectUrlInternal configs excludedUrls _ _ _ _).1
      generalize (selectUrlInternal configs excludedUrls (surroundings.paused solo.clock)
        (surroundings.draws solo.clock) (surroundings.laterDraws solo.clock)
        solo.selector).1 = selection at hsound hcomplete
      cases selection with
      | ok url =>
          obtain ⟨⟨config, hmem, rfl, hweight⟩, hopen, -⟩ := hsound url rfl
          exact ⟨hopen, List.mem_map_of_mem (List.mem_filter.mpr ⟨hmem, decide_eq_true hweight⟩)⟩
      | error e =>
          intro config hmem
          obtain ⟨hconfig, hweight⟩ := List.mem_filter.mp hmem
          by_contra hopen
          exact hcomplete.mp ⟨e, rfl⟩ ⟨config, hconfig, of_decide_eq_true hweight, hopen⟩
  | providerInitializer url => exact fun hreliable => hinitializer hreliable _ _
  | operate url => trivial
  | markCurrentAsFailed => trivial

theorem runAlone_sought (hdistinct : (configs.map RpcConfig.url).Nodup)
    (surroundings : Surroundings Error Value) (selector : SelectorState) {reliable : Prop}
    (hinitializer : reliable → ∀ n url, surroundings.providerInitializer n url = .ok ()) :
    Sought call configs reliable (min call.config.maxFailovers.toNat (configs.length - 1)) [] {}
      (runAlone configs call surroundings selector).2.trace
      (runAlone configs call surroundings selector).1 := by
  have hpositive : ((positiveWeight configs).map RpcConfig.url).Nodup :=
    hdistinct.sublist ((List.filter_sublist).map _)
  rw [runAlone, retryRpcCall]
  split
  · next hnone =>
      refine ⟨Nat.zero_le _, fun _ => List.nodup_nil,
        fun _ _ => ⟨Nat.zero_le _, Nat.zero_le _⟩, nofun, fun _ _ _ _ _ _ hattempts => ?_⟩
      cases hattempts
  · have hfollows : (failover Value call
        (min call.config.maxFailovers.toNat (configs.length - 1)) []).Follows
        (tracing Error Value configs reliable) (Sought call configs reliable _ [] {}) {} :=
      failover_follows hpositive fun _ => ⟨rfl, List.nodup_nil⟩
    have hserve : ∀ (trace : Trace Error) (solo : Solo Error) (request : Request),
        solo.trace = trace → True →
        (tracing Error Value configs reliable).possible trace request
            (serve configs surroundings solo request).1 ∧
          (serve configs surroundings solo request).2.trace =
            trace.record request (serve configs surroundings solo request).1 :=
      fun trace solo request htrace _ =>
        ⟨serve_possible surroundings hinitializer trace solo request, htrace ▸ rfl⟩
    obtain ⟨later, hlater, hsought⟩ := hfollows.handle
      (fun trace (solo : Solo Error) => solo.trace = trace) hserve
      (rfl : (⟨0, selector, {}⟩ : Solo Error).trace = {})
    rw [hlater]
    exact hsought

/-- The first attempt of a run brought no error that could be retried. -/
def FirstIsFinal (call : RetryCall Error) (trace : Trace Error) : Prop :=
  ∀ url failure, trace.attempts.getLast? = some (url, some failure) →
    call.isRetriableError failure = false

/-- With a single attempt for each endpoint, a call that meets an error gives up on the
first endpoint. -/
theorem Sought.covers_iff {failovers : ℕ} {outcome : Except Error Value × Solo Error}
    (hsought : Sought call configs True failovers [] {} outcome.2.trace outcome.1)
    (hretries : ¬ 2 ≤ call.config.maxRetries) (hmany : ¬ coverage configs call.config ≤ 1) :
    Covers configs call outcome ↔ FirstIsFinal call outcome.2.trace := by
  obtain ⟨hselected, hattempts⟩ := hsought.single trivial hretries
  have hfew : outcome.2.trace.selected.dedup.length ≤ 1 :=
    (List.dedup_sublist _).length_le.trans hselected
  constructor
  · intro hcovers url failure hfirst
    by_contra hretriable
    obtain ⟨before, hlist⟩ := List.getLast?_eq_some_iff.mp hfirst
    have hnone : before = [] := by
      rw [hlist, List.length_append] at hattempts
      exact List.length_eq_zero_iff.mp (Nat.le_zero.mp (Nat.le_of_succ_le_succ hattempts))
    rw [hnone, List.nil_append] at hlist
    cases houtcome : outcome.1 with
    | ok value =>
        obtain ⟨_, _, hlast⟩ := hsought.succeeded value houtcome
        cases hlist.symm.trans hlast
    | error error =>
        have hcovered := hcovers error url failure [] houtcome hlist (by simpa using hretriable)
        exact hmany (hcovered.trans hfew)
  · intro hfinal error url failure before _ hlist hretriable
    have hnone : before = [] := by
      rw [hlist] at hattempts
      exact List.length_eq_zero_iff.mp (Nat.le_zero.mp (Nat.le_of_succ_le_succ hattempts))
    rw [hfinal url failure (by rw [hlist, hnone]; rfl)] at hretriable
    cases hretriable

/-- A run stays within its attempts.  A run in which every endpoint can be used and that gives
up after an error that could be retried has tried enough endpoints, exactly if each is tried
at least twice, one endpoint is enough, or its first attempt was final. -/
theorem attempts_bounded_and_coverage_iff (hdistinct : (configs.map RpcConfig.url).Nodup)
    (call : RetryCall Error) (surroundings : Surroundings Error Value)
    (selector : SelectorState) :
    (runAlone configs call surroundings selector).2.trace.attempts.length ≤
        attemptBound call.config ∧
      ((∀ n url, surroundings.providerInitializer n url = .ok ()) →
        (Covers configs call (runAlone configs call surroundings selector) ↔
          2 ≤ call.config.maxRetries ∨ coverage configs call.config ≤ 1 ∨
            FirstIsFinal call (runAlone configs call surroundings selector).2.trace)) := by
  refine ⟨?_, fun hinitializer => ?_⟩
  · refine (runAlone_sought hdistinct surroundings selector fun h : False => h.elim).count.trans ?_
    rw [List.length_nil, Nat.zero_add, attemptBound]
    exact Nat.mul_le_mul_right _ (Nat.succ_le_succ (min_le_left _ _))
  have hsought : Sought call configs True _ [] {}
      (runAlone configs call surroundings selector).2.trace _ :=
    runAlone_sought hdistinct surroundings selector fun _ => hinitializer
  by_cases heasy : 2 ≤ call.config.maxRetries ∨ coverage configs call.config ≤ 1
  · refine iff_of_true ?_ (heasy.elim .inl fun hone => .inr (.inl hone))
    intro error url failure before herror hattempts hretriable
    have hreach := hsought.covered error url failure before trivial herror hattempts hretriable
    rw [(hsought.nodup trivial).dedup]
    refine le_trans ?_ hreach
    have hcount : (positiveWeight configs).length ≤ configs.length := List.length_filter_le _ _
    rw [coverage] at heasy ⊢
    rw [reach, List.length_nil]
    obtain hretries | hone := heasy
    · rw [if_pos hretries]
      omega
    · split <;> omega
  · obtain ⟨hretries, hmany⟩ := not_or.mp heasy
    rw [hsought.covers_iff hretries hmany]
    simp [hretries, hmany]

def sampleConfigs : List RpcConfig :=
  ["http://a", "http://b", "http://c", "http://d"].map fun url => ⟨url, 100⟩

/-- A call of which every error can be retried, with two attempts for each endpoint. -/
def sampleCall : RetryCall String where
  operationName := "getBalance"
  isRetriableError _ := true
  shouldMarkProviderFailed _ := false
  fromText text := text
  config := ⟨2, 3⟩

/-- Every attempt fails, and some endpoints cannot even be used. -/
def failing (unusable : List String) : Surroundings String Unit where
  draws _ _ := 0
  laterDraws _ _ := 0
  paused _ _ := false
  providerInitializer _ url := if url ∈ unusable then .error "no route" else .ok ()
  operate _ _ := .error "timeout"

theorem two_retries_cover_all_endpoints :
    (sampleConfigs.map RpcConfig.url).Nodup ∧ Covers sampleConfigs sampleCall
      (runAlone sampleConfigs sampleCall (failing []) ⟨0, 0, false⟩) :=
  ⟨by decide, ((attempts_bounded_and_coverage_iff (by decide) sampleCall (failing [])
    ⟨0, 0, false⟩).2 fun _ _ => rfl).mpr (.inl (by decide))⟩

/-- An endpoint that cannot be used is selected a second time, and another one never. -/
theorem unusable_endpoint_selected_twice :
    (runAlone sampleConfigs sampleCall (failing ["http://a"]) ⟨0, 0, false⟩).2.trace.selected =
        ["http://d", "http://a", "http://c", "http://a"] ∧
      ¬ Covers sampleConfigs sampleCall
        (runAlone sampleConfigs sampleCall (failing ["http://a"]) ⟨0, 0, false⟩) := by
  have hselected : (runAlone sampleConfigs sampleCall (failing ["http://a"])
      ⟨0, 0, false⟩).2.trace.selected = ["http://d", "http://a", "http://c", "http://a"] := by
    decide +kernel
  refine ⟨hselected, fun hcovers => ?_⟩
  have hcovered := hcovers "timeout" "http://d" "timeout"
    [("http://d", some "timeout"), ("http://c", some "timeout"), ("http://c", some "timeout")]
    rfl rfl rfl
  rw [hselected] at hcovered
  exact absurd hcovered (by decide)

end Coverage

end Relayer.RpcRetry
