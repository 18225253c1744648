import Relayer.Models.Relayer

/-!
# Selection of RPC endpoints

An endpoint is chosen at random by weight, or in turn where the weights are equal or the
draws do not lead to a suitable one.  Endpoints that were tried before are left out, and
paused ones are taken only if there is no other.  The outcome of the random generator is a
parameter.
-/

namespace Relayer.RpcSelector

open Relayer.RelayerModel (RpcConfig)

inductive RpcSelectorError where
  | noProviders
  | clientInitializationError (message : String)
  | weightedIndexError (message : String)
  | allProvidersFailed
  deriving DecidableEq, Repr

def RpcSelectorError.toText : RpcSelectorError → String
  | .noProviders => "No providers available"
  | .clientInitializationError message => s!"Client initialization failed: {message}"
  | .weightedIndexError message => s!"Weighted index error: {message}"
  | .allProvidersFailed => "All available providers have failed"

/-- The indices that all users of a selector share. -/
structure SelectorState where
  nextIndex : ℕ
  currentIndex : ℕ
  hasCurrent : Bool
  deriving DecidableEq, Repr

/-- The weights of the distribution that is computed for a selector.  There is none if the
positive weights are equal or their sum does not fit into eight bits. -/
def createWeightsDistribution (configs : List RpcConfig) : Option (List ℕ) :=
  let weights := configs.map fun config => config.weight.toNat
  match weights.find? (0 < ·) with
  | none => none
  | some first =>
      if (weights.filter (0 < ·)).all (· == first) then none
      else if weights.sum < 256 then some weights
      else none

/-- The index that `WeightedIndex` draws: the first one at which the sum of the weights
exceeds the number drawn below their total. -/
def sampleIndex : List ℕ → ℕ → ℕ
  | [], _ => 0
  | weight :: weights, chosen =>
      if chosen < weight then 0 else sampleIndex weights (chosen - weight) + 1

def maxAttempts : ℕ := 10

section Selection

variable (configs : List RpcConfig) (excludedUrls : List String) (paused : String → Bool)

def isSuitable (allowPaused : Bool) (config : RpcConfig) : Bool :=
  config.weight != 0 && !excludedUrls.contains config.url &&
    (allowPaused || !paused config.url)

/-- The endpoint at an index, if it may be selected. -/
def suitableAt (allowPaused : Bool) (index : ℕ) : Option (ℕ × String) :=
  match configs[index]? with
  | some config =>
      if isSuitable excludedUrls paused allowPaused config then some (index, config.url)
      else none
  | none => none

def tryWeightedSelection (draws : ℕ → ℕ) (allowPaused : Bool) : Option (ℕ × String) :=
  match createWeightsDistribution configs with
  | none => none
  | some weights =>
      (List.range maxAttempts).findSome? fun attempt =>
        suitableAt configs excludedUrls paused allowPaused
          (sampleIndex weights (draws attempt % weights.sum))

def tryRoundRobinSelection (startIndex : ℕ) (allowPaused : Bool) : Option (ℕ × String) :=
  (List.range configs.length).findSome? fun offset =>
    suitableAt configs excludedUrls paused allowPaused ((startIndex + offset) % configs.length)

/-- `select_url_internal`: a random draw and then a turn over the endpoints that are not
paused, and the same again over all of them. -/
def selectUrlInternal (draws draws' : ℕ → ℕ) (state : SelectorState) :
    Except RpcSelectorError String × SelectorState :=
  let startIndex := state.nextIndex % configs.length
  let drawn := fun (selected : ℕ × String) =>
    (Except.ok selected.2,
      { state with currentIndex := selected.1, hasCurrent := true : SelectorState })
  let inTurn := fun (selected : ℕ × String) =>
    (Except.ok selected.2,
      ⟨(selected.1 + 1) % configs.length, selected.1, true⟩)
  match configs with
  | [] => (.error .noProviders, state)
  | [config] =>
      if config.weight == 0 || excludedUrls.contains config.url then
        (.error .allProvidersFailed, state)
      else drawn (0, config.url)
  | _ =>
      match tryWeightedSelection configs excludedUrls paused draws false with
      | some selected => drawn selected
      | none =>
        match tryRoundRobinSelection configs excludedUrls paused startIndex false with
        | some selected => inTurn selected
        | none =>
          match tryWeightedSelection configs excludedUrls paused draws' true with
          | some selected => drawn selected
          | none =>
            match tryRoundRobinSelection configs excludedUrls paused startIndex true with
            | some selected => inTurn selected
            | none => (.error .allProvidersFailed, state)

/-- The endpoint that is marked as failed, if one is current. -/
def markCurrentAsFailed (state : SelectorState) : Option String × SelectorState :=
  if state.hasCurrent then
    ((configs[state.currentIndex]?).map RpcConfig.url,
      { state with
        hasCurrent := false
        nextIndex := if configs.length > 1 then state.nextIndex + 1 else state.nextIndex })
  else (none, state)

end Selection

section Selected

variable {configs : List RpcConfig} {excludedUrls : List String} {paused : String → Bool}
variable {allowPaused : Bool} {selected : ℕ × String}

theorem isSuitable_iff {config : RpcConfig} :
    isSuitable excludedUrls paused allowPaused config = true ↔
      0 < config.weight ∧ config.url ∉ excludedUrls ∧
        (allowPaused = false → paused config.url = false) := by
  have hweight : config.weight ≠ 0 ↔ 0 < config.weight :=
    ⟨fun hne => UInt8.pos_iff_ne_zero.mpr hne, fun hpos => UInt8.pos_iff_ne_zero.mp hpos⟩
  cases allowPaused <;> simp [isSuitable, hweight, and_assoc]

/-- The index leads to a suitable endpoint, whose URL is returned. -/
def Chosen (configs : List RpcConfig) (excludedUrls : List String) (paused : String → Bool)
    (allowPaused : Bool) (selected : ℕ × String) : Prop :=
  ∃ config, configs[selected.1]? = some config ∧ config.url = selected.2 ∧
    isSuitable excludedUrls paused allowPaused config = true

theorem suitableAt_eq_some {index : ℕ}
    (hsome : suitableAt configs excludedUrls paused allowPaused index = some selected) :
    selected.1 = index ∧ Chosen configs excludedUrls paused allowPaused selected := by
  rw [suitableAt] at hsome
  split at hsome
  · next config hconfig =>
      split at hsome
      · next hsuitable =>
          cases hsome
          exact ⟨rfl, config, hconfig, rfl, hsuitable⟩
      · cases hsome
  · cases hsome

theorem tryWeightedSelection_eq_some {draws : ℕ → ℕ}
    (hsome : tryWeightedSelection configs excludedUrls paused draws allowPaused =
      some selected) : Chosen configs excludedUrls paused allowPaused selected := by
  rw [tryWeightedSelection] at hsome
  split at hsome
  · cases hsome
  · obtain ⟨attempt, -, hattempt⟩ := List.exists_of_findSome?_eq_some hsome
    exact (suitableAt_eq_some hattempt).2

theorem tryRoundRobinSelection_eq_some {startIndex : ℕ}
    (hsome : tryRoundRobinSelection configs excludedUrls paused startIndex allowPaused =
      some selected) : Chosen configs excludedUrls paused allowPaused selected := by
  obtain ⟨offset, -, hoffset⟩ := List.exists_of_findSome?_eq_some hsome
  exact (suitableAt_eq_some hoffset).2

/-- Every index comes up in a turn that starts anywhere. -/
theorem exists_offset {length index : ℕ} (startIndex : ℕ) (hindex : index < length) :
    ∃ offset < length, (startIndex + offset) % length = index := by
  have hpositive : 0 < length := Nat.zero_lt_of_lt hindex
  have hrounds := Nat.div_add_mod startIndex length
  have hstart := Nat.mod_lt startIndex hpositive
  have hsum : startIndex + (index + (length - startIndex % length)) =
      index + length * (startIndex / length + 1) := by
    rw [Nat.mul_add]
    omega
  refine ⟨(index + (length - startIndex % length)) % length, Nat.mod_lt _ hpositive, ?_⟩
  rw [Nat.add_mod_mod, hsum, Nat.add_mul_mod_self_left, Nat.mod_eq_of_lt hindex]

/-- A turn that finds nothing has looked at every endpoint. -/
theorem tryRoundRobinSelection_eq_none {startIndex : ℕ}
    (hnone : tryRoundRobinSelection configs excludedUrls paused startIndex allowPaused = none) :
    ∀ config ∈ configs, isSuitable excludedUrls paused allowPaused config = false := by
  intro config hmem
  obtain ⟨index, hindex, hconfig⟩ := List.mem_iff_getElem.mp hmem
  obtain ⟨offset, hoffset, hreached⟩ := exists_offset startIndex hindex
  have hmissed := List.findSome?_eq_none_iff.mp hnone offset (List.mem_range.mpr hoffset)
  rw [hreached, suitableAt, List.getElem?_eq_getElem hindex, hconfig] at hmissed
  dsimp only at hmissed
  split at hmissed
  · cases hmissed
  · next hunsuitable => exact eq_false_of_ne_true hunsuitable

/-- What the selection of an endpoint can come to: one that is suitable without the paused
ones, one that is suitable where none is so, or an error where none is suitable at all. -/
inductive Outcome (configs : List RpcConfig) (excludedUrls : List String)
    (paused : String → Bool) (before : SelectorState) :
    Except RpcSelectorError String × SelectorState → Prop
  | selected {allowPaused : Bool} {selected : ℕ × String} {nextIndex : ℕ}
      (chosen : Chosen configs excludedUrls paused allowPaused selected)
      (lastResort : allowPaused = true → ∀ config ∈ configs, 0 < config.weight →
        config.url ∉ excludedUrls → paused config.url = true) :
      Outcome configs excludedUrls paused before (.ok selected.2, ⟨nextIndex, selected.1, true⟩)
  | failed {error : RpcSelectorError}
      (none : ∀ config ∈ configs, 0 < config.weight → config.url ∈ excludedUrls) :
      Outcome configs excludedUrls paused before (.error error, before)

theorem all_paused_of_none_suitable
    (hnone : ∀ config ∈ configs, isSuitable excludedUrls paused false config = false) :
    ∀ config ∈ configs, 0 < config.weight → config.url ∉ excludedUrls →
      paused config.url = true := by
  intro config hmem hweight hexcluded
  by_contra hpaused
  have hsuitable := isSuitable_iff.mpr
    ⟨hweight, hexcluded, fun _ : false = false => eq_false_of_ne_true hpaused⟩
  rw [hnone config hmem] at hsuitable
  cases hsuitable

theorem selectUrlInternal_outcome (configs : List RpcConfig) (excludedUrls : List String)
    (paused : String → Bool) (draws draws' : ℕ → ℕ) (state : SelectorState) :
    Outcome configs excludedUrls paused state
      (selectUrlInternal configs excludedUrls paused draws draws' state) := by
  unfold selectUrlInternal
  split
  · exact .failed fun _ hmem => (nomatch hmem)
  · next config =>
      split
      · next hrefused =>
          refine .failed fun other hmem hweight => ?_
          obtain rfl := List.mem_singleton.mp hmem
          have hpositive := UInt8.pos_iff_ne_zero.mp hweight
          simpa [hpositive] using hrefused
      · next hopen =>
          have hsuitable : isSuitable excludedUrls paused (paused config.url) config = true := by
            simpa [isSuitable] using hopen
          refine @Outcome.selected _ _ _ _ (paused config.url) (0, config.url) state.nextIndex
            ⟨config, rfl, rfl, hsuitable⟩ fun hpaused other hmem _ _ => ?_
          obtain rfl := List.mem_singleton.mp hmem
          exact hpaused
  · dsimp only
    cases hdrawn : tryWeightedSelection configs excludedUrls paused draws false with
    | some selected => exact .selected (tryWeightedSelection_eq_some hdrawn) fun h => (nomatch h)
    | none =>
        cases hturn : tryRoundRobinSelection configs excludedUrls paused
            (state.nextIndex % configs.length) false with
        | some selected =>
            exact .selected (tryRoundRobinSelection_eq_some hturn) fun h => (nomatch h)
        | none =>
            have hpaused := all_paused_of_none_suitable (tryRoundRobinSelection_eq_none hturn)
            cases hlast : tryWeightedSelection configs excludedUrls paused draws' true with
            | some selected =>
                exact .selected (tryWeightedSelection_eq_some hlast) fun _ => hpaused
            | none =>
                cases hend : tryRoundRobinSelection configs excludedUrls paused
                    (state.nextIndex % configs.length) true with
                | some selected =>
                    exact .selected (tryRoundRobinSelection_eq_some hend) fun _ => hpaused
                | none =>
                    refine .failed fun config hmem hweight => ?_
                    have hunsuitable := tryRoundRobinSelection_eq_none hend config hmem
                    by_contra hopen
                    have hsuitable : isSuitable excludedUrls paused true config = true :=
                      isSuitable_iff.mpr ⟨hweight, hopen, fun h => (nomatch h)⟩
                    exact Bool.false_ne_true (hunsuitable.symm.trans hsuitable)

/-- A selected endpoint is configured with a positive weight and was not excluded; it is
paused only if all such endpoints are.  Selection fails exactly if there is none. -/
theorem selectUrlInternal_sound_and_complete (configs : List RpcConfig)
    (excludedUrls : List String) (paused : String → Bool) (draws draws' : ℕ → ℕ)
    (state : SelectorState) :
    (∀ url, (selectUrlInternal configs excludedUrls paused draws draws' state).1 = .ok url →
      (∃ config ∈ configs, config.url = url ∧ 0 < config.weight) ∧ url ∉ excludedUrls ∧
      (paused url = true → ∀ config ∈ configs, 0 < config.weight →
        config.url ∉ excludedUrls → paused config.url = true)) ∧
    ((∃ error, (selectUrlInternal configs excludedUrls paused draws draws' state).1 =
        .error error) ↔
      ¬ ∃ config ∈ configs, 0 < config.weight ∧ config.url ∉ excludedUrls) := by
  have houtcome := selectUrlInternal_outcome configs excludedUrls paused draws draws' state
  generalize selectUrlInternal configs excludedUrls paused draws draws' state = outcome
    at houtcome
  cases houtcome with
  | @selected allowPaused selected nextIndex chosen lastResort =>
      obtain ⟨config, hconfig, hurl, hsuitable⟩ := chosen
      obtain ⟨hweight, hopen, hpaused⟩ := isSuitable_iff.mp hsuitable
      have hmem := List.mem_of_getElem? hconfig
      constructor
      · rintro url ⟨⟩
        refine ⟨⟨config, hmem, hurl, hweight⟩, hurl ▸ hopen, fun hisPaused => ?_⟩
        cases allowPaused with
        | true => exact lastResort rfl
        | false =>
            rw [← hurl, hpaused rfl] at hisPaused
            cases hisPaused
      · refine ⟨fun ⟨error, herror⟩ => (nomatch herror), fun hnone => ?_⟩
        exact absurd ⟨config, hmem, hweight, hopen⟩ hnone
  | failed none =>
      refine ⟨fun url hok => (nomatch hok), fun _ => ?_, fun _ => ⟨_, rfl⟩⟩
      rintro ⟨config, hmem, hweight, hopen⟩
      exact hopen (none config hmem hweight)

end Selected

end Relayer.RpcSelector
