import Relayer.Api.RelayerUpdate
import Relayer.Core.ReadModifyWrite

/-!
# Updates of a stored relayer

The repositories enable and disable a relayer, replace its policy and pause it; the API
patches it.  In memory the repository does each of its operations under one lock.  With
Redis each of them, and with both the patch, reads the relayer and writes the whole record
back.

Operations on one relayer run interleaved, one call at a time.  Those that have succeeded
should have the same effect as if they had run one after the other.
-/

namespace Relayer.StoredRelayer

open Relayer.Checks
open Relayer.Interaction
open Relayer.Interleaving
open Relayer.Json
open Relayer.Numbers
open Relayer.Policies
open Relayer.ReadModifyWrite
open Relayer.RelayerModel
open Relayer.RelayerUpdate (sampleRelayer sampleValidation unusedServices)
open Relayer.Relayers (readPatch patchedRelayer getRelayerById fromRepository
  checkNotification)
open Relayer.Transaction

/-! ## The code -/

inductive Repository where
  | inMemory
  | redis
  deriving DecidableEq

/-- The operations of the repositories. -/
inductive Change where
  | enableRelayer
  | disableRelayer (reason : DisabledReason)
  | updatePolicy (policy : RelayerNetworkPolicy)
  | partialUpdate (paused : Option Bool)
  deriving DecidableEq

def Change.apply (relayer : RelayerRepoModel) : Change → RelayerRepoModel
  | .enableRelayer => { relayer with systemDisabled := false, disabledReason := none }
  | .disableRelayer reason =>
      { relayer with systemDisabled := true, disabledReason := some reason }
  | .updatePolicy policy => { relayer with policies := policy }
  | .partialUpdate paused => { relayer with paused := paused.getD relayer.paused }

/-- The record that `update` stores under an id; with Redis it needs an id and a name. -/
def Repository.stored (repository : Repository) (id : String) (relayer : RelayerRepoModel) :
    Except RepositoryError RelayerRepoModel :=
  match repository with
  | .inMemory => .ok { relayer with id := id }
  | .redis =>
      if id = "" then .error (.invalidData "Relayer ID cannot be empty")
      else if relayer.name = "" then .error (.invalidData "Relayer name cannot be empty")
      else .ok { relayer with id := id }

inductive Operation where
  | ofRepository (change : Change)
  | ofApi (patch : Document Number)

/-- The calls of the API, and an operation under the lock of the store in memory. -/
inductive Request where
  | api (request : Relayers.Request)
  | locked (change : Change)

abbrev Answer : Request → Type
  | .api request => Relayers.Answer request
  | .locked _ => Except RepositoryError RelayerRepoModel

abbrev Outcome := Except ApiError RelayerRepoModel

def getById (id : String) : Task Request Answer RepositoryError RelayerRepoModel := do
  let found ← Task.ask (Request.api (.getRelayer id))
  Task.ofExcept found

def update (id : String) (relayer : RelayerRepoModel) :
    Task Request Answer RepositoryError RelayerRepoModel := do
  let written ← Task.ask (Request.api (.updateRelayer id relayer))
  Task.ofExcept written

def Change.run (change : Change) (repository : Repository) (id : String) :
    Task Request Answer RepositoryError RelayerRepoModel :=
  match repository with
  | .inMemory => do
      let changed ← Task.ask (Request.locked change)
      Task.ofExcept changed
  | .redis => do
      let relayer ← getById id
      update id (change.apply relayer)

def Operation.run (validation : Validation) (repository : Repository) (id : String) :
    Operation → Program Request Answer Outcome
  | .ofRepository change => do
      let outcome ← (change.run repository id).run
      return outcome.mapError apiErrorOfRepository
  | .ofApi patch =>
      (Relayers.updateRelayer validation id patch).run.embed Request.api fun _ answer => answer

/-- What an operation makes of the relayer when nothing comes in between. -/
def Operation.apply (validation : Validation) (repository : Repository) (id : String)
    (relayer : RelayerRepoModel) : Operation → Option RelayerRepoModel
  | .ofRepository change =>
      match repository with
      | .inMemory => some (change.apply relayer)
      | .redis => (repository.stored id (change.apply relayer)).toOption
  | .ofApi patch => do
      let _ ← (readPatch validation relayer patch).toOption
      if relayer.systemDisabled then none
      else
        let updated ← (patchedRelayer validation relayer patch).toOption
        (repository.stored id updated).toOption

/-! ## The system -/

abbrev State := Shared RelayerRepoModel ℕ

/-- What a read may return.  Redis may read from a replica, which may lag behind. -/
def readable (repository : Repository) (id : String) (shared : State) : List RelayerRepoModel :=
  match repository with
  | .inMemory => [shared.record]
  | .redis => if id = "" then [] else shared.versions

/-- The relayer is there all the time.  A call that fails has no effect. -/
def serve (repository : Repository) (id : String) (shared : State) (number : ℕ) :
    (request : Request) → Answer request → List State
  | .locked change, answer =>
      let changed := change.apply shared.record
      if answer = .ok changed then [shared.write number changed] else []
  | .api (.getRelayer asked), answer =>
      match answer with
      | .ok relayer =>
          if asked = id ∧ relayer ∈ readable repository id shared then
            [shared.read number relayer]
          else []
      | .error _ => [shared]
  | .api (.getNotification _), _ => [shared]
  | .api (.updateRelayer asked relayer), answer =>
      match answer with
      | .ok written =>
          if asked = id ∧ repository.stored id relayer = .ok written then
            [shared.write number written]
          else []
      | .error _ => [shared]
  | .api _, _ => []

section Updates

variable (validation : Validation) (repository : Repository) (id : String)
  (operation : ℕ → Operation)

/-- The operations run under numbers. -/
def updates : System Request Answer State Empty ℕ Outcome where
  launch number := some ((operation number).run validation repository id)
  serve := serve repository id
  occur _ event := nomatch event
  crash _ _ := none

abbrev Updates := Config Request Answer State ℕ Outcome

def initial (relayer : RelayerRepoModel) : Updates := ⟨Shared.first relayer, []⟩

/-- Operations with their effect on a record that nobody else changes. -/
def effect (number : ℕ) (relayer : RelayerRepoModel) : Option RelayerRepoModel :=
  (operation number).apply validation repository id relayer

/-- The operations that have succeeded had the effect of one after the other. -/
def UpdatesKept (relayer : RelayerRepoModel) (config : Updates) : Prop :=
  Linearizable (effect validation repository id operation) Except.isOk relayer config

/-- A relayer is written back only while it is as it was read. -/
def writesCurrent (shared : State) (number : ℕ) : Request → Bool
  | .api (.updateRelayer ..) => number ∈ shared.current
  | _ => true

/-! ## Undisturbed updates -/

/-- What an operation asks the API for after what it has read. -/
def apiConduct (number : ℕ) : Protocol Relayers.Request Relayers.Answer (Memory RelayerRepoModel)
    where
  allowed
    | .fresh, .getRelayer _ => True
    | .read _, .getNotification _ => True
    | .read told, .updateRelayer _ relayer => ∀ written,
        repository.stored id relayer = .ok written →
          effect validation repository id operation number told = some written
    | _, _ => False
  possible _ _ _ := True
  remember
    | _, .getRelayer _, .ok relayer => .read relayer
    | _, .updateRelayer .., .ok _ => .finished
    | memory, _, _ => memory

def conduct (number : ℕ) : Protocol Request Answer (Memory RelayerRepoModel) where
  allowed
    | memory, .api request =>
        (apiConduct validation repository id operation number).allowed memory request
    | memory, .locked change => memory = .fresh ∧ ∀ relayer,
        effect validation repository id operation number relayer = some (change.apply relayer)
  possible _ _ _ := True
  remember
    | memory, .api request, answer =>
        (apiConduct validation repository id operation number).remember memory request answer
    | _, .locked _, .ok _ => .finished
    | memory, .locked _, .error _ => memory

variable {validation repository id operation} {number : ℕ}

/-- A value that is computed without a call, by a program that has read the relayer. -/
theorem follows_computed {A : Type} {relayer : RelayerRepoModel} (value : Except ApiError A) :
    FollowsTask (apiConduct validation repository id operation number) (· ≠ .finished)
      (fun memory result => memory = .read relayer ∧ value = .ok result) (.read relayer)
      (Task.ofExcept value) :=
  FollowsTask.ofExcept nofun fun _ hresult => ⟨rfl, hresult⟩

theorem follows_getRelayerById :
    FollowsTask (apiConduct validation repository id operation number) (· ≠ .finished)
      (fun memory relayer => memory = .read relayer) .fresh (getRelayerById id) := by
  refine ⟨trivial, fun answer _ => ?_⟩
  cases answer with
  | ok relayer =>
      refine ⟨fun _ herror => ?_, fun result hresult => ?_⟩
      · cases herror
      · cases hresult
        rfl
  | error error =>
      refine ⟨fun _ _ hfinished => ?_, fun _ hresult => ?_⟩
      · cases hfinished
      · cases hresult

theorem follows_checkNotification {relayer : RelayerRepoModel} (notificationId : Option String) :
    FollowsTask (apiConduct validation repository id operation number) (· ≠ .finished)
      (fun memory _ => memory = .read relayer) (.read relayer)
      (checkNotification notificationId) := by
  cases notificationId with
  | none => exact FollowsTask.pure rfl
  | some notification =>
      refine ⟨trivial, fun answer _ => ?_⟩
      cases answer with
      | ok => exact ⟨nofun, fun _ _ => rfl⟩
      | error error => exact ⟨fun _ _ => nofun, nofun⟩

theorem follows_patch {patch : Document Number} (hoperation : operation number = .ofApi patch) :
    FollowsTask (apiConduct validation repository id operation number) (· ≠ .finished)
      (fun memory _ => memory = .finished) .fresh
      (Relayers.updateRelayer validation id patch) := by
  refine follows_getRelayerById.bind ?_
  rintro _ relayer rfl
  refine (follows_computed _).bind ?_
  rintro _ request ⟨rfl, hread⟩
  refine (follows_computed _).bind ?_
  rintro _ _ ⟨rfl, hrequired⟩
  have henabled : relayer.systemDisabled = false := by
    simpa [require] using hrequired
  refine (follows_checkNotification request.notificationId).bind ?_
  rintro _ _ rfl
  refine (follows_computed _).bind ?_
  rintro _ updated ⟨rfl, hupdated⟩
  refine ⟨fun written hwritten => ?_, fun answer _ => ?_⟩
  · simp [effect, hoperation, Operation.apply, hread, henabled, hupdated, hwritten,
      Except.toOption]
  · cases answer with
    | ok written =>
        refine ⟨fun _ herror => ?_, fun _ _ => rfl⟩
        cases herror
    | error error =>
        refine ⟨fun _ _ hfinished => ?_, fun _ hresult => ?_⟩
        · cases hfinished
        · cases hresult

theorem follows_change {change : Change} (hoperation : operation number = .ofRepository change) :
    (Operation.run validation repository id (.ofRepository change)).Follows
      (conduct validation repository id operation number)
      (fun memory outcome => Except.isOk outcome = true ↔ memory = .finished) .fresh := by
  cases repository with
  | inMemory =>
      refine ⟨⟨rfl, fun relayer => ?_⟩, fun answer _ => ?_⟩
      · simp [effect, hoperation, Operation.apply]
      · cases answer with
        | ok relayer => exact iff_of_true rfl rfl
        | error error => exact iff_of_false Bool.false_ne_true (fun hfinished => by cases hfinished)
  | redis =>
      refine ⟨trivial, fun answer _ => ?_⟩
      cases answer with
      | error error => exact iff_of_false Bool.false_ne_true (fun hfinished => by cases hfinished)
      | ok relayer =>
          refine ⟨fun written hwritten => ?_, fun answer _ => ?_⟩
          · simp [effect, hoperation, Operation.apply, hwritten, Except.toOption]
          · cases answer with
            | ok written => exact iff_of_true rfl rfl
            | error error =>
                exact iff_of_false Bool.false_ne_true (fun hfinished => by cases hfinished)

theorem follows_run (number : ℕ) :
    ((operation number).run validation repository id).Follows
      (conduct validation repository id operation number)
      (fun memory outcome => Except.isOk outcome = true ↔ memory = .finished) .fresh := by
  cases hoperation : operation number with
  | ofRepository change => exact follows_change hoperation
  | ofApi patch =>
      have hpatch : (Relayers.updateRelayer validation id patch).run.Follows
          (apiConduct validation repository id operation number)
          (fun memory outcome => Except.isOk outcome = true ↔ memory = .finished) .fresh := by
        apply Program.Follows.imp (follows_patch hoperation)
        rintro memory outcome ⟨hfailed, hdone⟩
        cases outcome with
        | ok relayer => exact iff_of_true rfl (hdone relayer rfl)
        | error error => exact iff_of_false Bool.false_ne_true (hfailed error rfl)
      exact hpatch.embed (fun _ _ hallowed => hallowed) (fun _ _ _ _ => trivial)
        (fun _ _ _ => rfl)

variable (validation repository id operation) in
theorem upholds_conduct (relayer : RelayerRepoModel) :
    Upholds ((updates validation repository id operation).restrict writesCurrent)
      (conduct validation repository id operation)
      (fun _ memory outcome => Except.isOk outcome = true ↔ memory = .finished) .fresh
      (InOrder (effect validation repository id operation) relayer) Recalled where
  launch number program hlaunch := by
    cases hlaunch
    exact follows_run number
  serve number memory shared request answer _ horder hmemory hallowed after hafter := by
    obtain ⟨hadmitted, hserved⟩ := System.mem_serve_restrict.mp hafter
    have hkept : InOrder (effect validation repository id operation) relayer shared ∧ True ∧
        Recalled number memory shared ∧ ∀ other, other ≠ number → ∀ kept,
          Recalled other kept shared → Recalled other kept shared :=
      ⟨horder, trivial, hmemory, fun _ _ _ hother => hother⟩
    cases request with
    | locked change =>
        obtain ⟨rfl, heffect⟩ := hallowed
        simp only [updates, serve] at hserved
        split_ifs at hserved with hanswer
        · subst hanswer
          rw [List.mem_singleton.mp hserved]
          exact ⟨horder.write hmemory.1 (heffect shared.record), trivial, Recalled.write,
            fun _ hother _ hkept => hkept.write_other hother⟩
        · cases hserved
    | api request =>
        cases request with
        | getRelayer asked =>
            cases memory with
            | fresh =>
                cases answer with
                | error error =>
                    rw [List.mem_singleton.mp hserved]
                    exact hkept
                | ok told =>
                    simp only [updates, serve] at hserved
                    split_ifs at hserved
                    · rw [List.mem_singleton.mp hserved]
                      exact ⟨horder.read, trivial, Recalled.read hmemory,
                        fun _ hother _ hkept => hkept.read_other hother⟩
                    · cases hserved
            | read told => cases hallowed
            | finished => cases hallowed
        | getNotification notification =>
            rw [List.mem_singleton.mp hserved]
            exact hkept
        | updateRelayer asked written =>
            cases memory with
            | read told =>
                cases answer with
                | error error =>
                    rw [List.mem_singleton.mp hserved]
                    exact hkept
                | ok answered =>
                    simp only [updates, serve] at hserved
                    split_ifs at hserved with hstored
                    · have hcurrent : shared.record = told :=
                        hmemory.2 (of_decide_eq_true hadmitted)
                      rw [List.mem_singleton.mp hserved]
                      exact ⟨horder.write hmemory.1 (hcurrent ▸ hallowed answered hstored.2),
                        trivial, Recalled.write, fun _ hother _ hkept => hkept.write_other hother⟩
                    · cases hserved
            | fresh => cases hallowed
            | finished => cases hallowed
        | _ => cases hserved
  occur _ event := nomatch event
  crash _ _ _ _ hcrash := nomatch hcrash

/-- Where relayers are written back only as they were read, in either repository, all
operations that have succeeded took effect one after the other. -/
theorem undisturbed_updates_kept (validation : Validation) (repository : Repository)
    (id : String) (operation : ℕ → Operation) (relayer : RelayerRepoModel) (config : Updates)
    (hrun : ((updates validation repository id operation).restrict writesCurrent).Reachable
      (initial relayer) config) :
    UpdatesKept validation repository id operation relayer config := by
  have hupholds := upholds_conduct validation repository id operation relayer
  obtain ⟨memories, ⟨horder, hrecalled⟩, hrecalls⟩ :=
    hupholds.maintains.reachable hupholds.launch ⟨InOrder.start, fun _ => ⟨nofun, nofun⟩⟩ hrun
  apply horder.linearizable hrecalled hrecalls
  · intro number memory outcome hend
    exact hend
  · intro number request hallowed
    cases request with
    | locked change => cases hallowed.1
    | api request => cases request <;> cases hallowed

end Updates

/-! ## A relayer that is disabled while it is paused -/

def disabling : Change := .disableRelayer (.balanceCheckFailed "below the minimum")

/-- The relayer is paused by the first operation and disabled by all others. -/
def pauseAndDisable : ℕ → Operation
  | 0 => .ofRepository (.partialUpdate (some true))
  | _ => .ofRepository disabling

/-- One turn of the operation at an index, in which the repository answers with `relayer`. -/
def turn (index : ℕ) (relayer : RelayerRepoModel) : Action Request Answer Empty ℕ :=
  .advance index (fun
    | .locked _ => .ok relayer
    | .api (.getRelayer _) => .ok relayer
    | .api (.updateRelayer ..) => .ok relayer
    | .api request => unusedServices request) 0

theorem undisturbed_updates_kept_disabled :
    ∃ config, ((updates sampleValidation .redis "solana" pauseAndDisable).restrict
        writesCurrent).Reachable (initial sampleRelayer) config ∧
      config.state.record.systemDisabled = true ∧
      UpdatesKept sampleValidation .redis "solana" pauseAndDisable sampleRelayer config := by
  let paused := (Change.partialUpdate (some true)).apply sampleRelayer
  have hexecute : (((updates sampleValidation .redis "solana" pauseAndDisable).restrict
      writesCurrent).execute (initial sampleRelayer) [.start 0, .start 1, turn 0 sampleRelayer,
        turn 0 paused, turn 1 paused, turn 1 (disabling.apply paused)]).map
        (·.state.record.systemDisabled) = some true := by
    decide +kernel
  obtain ⟨config, hrun, hdisabled⟩ := System.reachable_of_execute hexecute
  exact ⟨config, hrun, hdisabled, undisturbed_updates_kept _ _ _ _ _ config hrun⟩

/-- A relayer is disabled after another operation has read it; pausing it enables it again. -/
theorem disable_reverted_by_pause :
    ∃ config, (updates sampleValidation .redis "solana" pauseAndDisable).Reachable
        (initial sampleRelayer) config ∧ config.state.record.systemDisabled = false ∧
      ¬ UpdatesKept sampleValidation .redis "solana" pauseAndDisable sampleRelayer config := by
  let paused := (Change.partialUpdate (some true)).apply sampleRelayer
  have hexecute : ((updates sampleValidation .redis "solana" pauseAndDisable).execute
      (initial sampleRelayer) [.start 0, .start 1, turn 0 sampleRelayer, turn 1 sampleRelayer,
        turn 1 (disabling.apply sampleRelayer), turn 0 paused]).map
        (fun config => (succeeded Except.isOk config, config.state.record)) =
      some ([0, 1], paused) := by
    decide +kernel
  obtain ⟨config, hreachable, hend⟩ := System.reachable_of_execute hexecute
  obtain ⟨hsucceeded, hrecord⟩ := Prod.mk.inj hend
  refine ⟨config, hreachable, ?_, ?_⟩
  · rw [hrecord]
    rfl
  rintro ⟨order, hperm, happlied⟩
  rw [hsucceeded] at hperm
  have hreverted : ∀ order ∈ [0, 1].permutations',
      applyAll (effect sampleValidation .redis "solana" pauseAndDisable) sampleRelayer order ≠
        some paused := by
    decide +kernel
  exact hreverted order (List.mem_permutations'.mpr hperm)
    (happlied.trans (congrArg some hrecord))

end Relayer.StoredRelayer
