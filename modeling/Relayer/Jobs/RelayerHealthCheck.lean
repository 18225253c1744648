import Relayer.Jobs.StatusCheckHandler
import Relayer.Repositories.RelayerUpdates

/-!
# Health checks of disabled relayers

A relayer that fails its health check when it is initialized is disabled, and a job is
scheduled that checks it again.  The handler of this job enables the relayer, or schedules
the next check.  So a disabled relayer should always have a check ahead of it.

Repositories and the queue of health checks answer; the network, the signer and the queue of
notifications may fail.  The programs of one relayer run interleaved, one call at a time.
-/

namespace Relayer.HealthCheckJob

open Relayer.Interaction
open Relayer.Interleaving
open Relayer.Policies
open Relayer.RelayerModel
open Relayer.StatusCheckJob (HandlerError sampleRelayer)
open Relayer.StoredRelayer (Change Repository)
open Relayer.Transaction

/-! ## The code -/

inductive HealthCheckFailure where
  | nonceSyncFailed (message : String)
  | rpcValidationFailed (message : String)
  | balanceCheckFailed (message : String)
  | sequenceSyncFailed (message : String)
  deriving DecidableEq, Repr

def fromHealthFailure : HealthCheckFailure → DisabledReason
  | .nonceSyncFailed message => .nonceSyncFailed message
  | .rpcValidationFailed message => .rpcValidationFailed message
  | .balanceCheckFailed message => .balanceCheckFailed message
  | .sequenceSyncFailed message => .sequenceSyncFailed message

def fromHealthFailures : List HealthCheckFailure → Option DisabledReason
  | [] => none
  | [failure] => some (fromHealthFailure failure)
  | failures => some (.multiple (failures.map fromHealthFailure))

mutual

def sameVariant : DisabledReason → DisabledReason → Bool
  | .nonceSyncFailed _, .nonceSyncFailed _ => true
  | .rpcValidationFailed _, .rpcValidationFailed _ => true
  | .balanceCheckFailed _, .balanceCheckFailed _ => true
  | .sequenceSyncFailed _, .sequenceSyncFailed _ => true
  | .multiple reasons, .multiple others => sameVariants reasons others
  | _, _ => false

def sameVariants : List DisabledReason → List DisabledReason → Bool
  | [], [] => true
  | reason :: reasons, other :: others => sameVariant reason other && sameVariants reasons others
  | _, _ => false

end

/-- A job of the queue; with metadata it asks for a targeted action. -/
structure RelayerHealthCheck where
  retryCount : UInt32
  metadata : Option (List (String × String))
  deriving DecidableEq, Repr

structure Delivery where
  job : RelayerHealthCheck
  attempt : ℕ
  deriving DecidableEq, Repr

/-- The calls for one relayer.  A change of the stored relayer is one call in memory; with
Redis the relayer is read, and `write` stores what the change makes of the copy. -/
inductive Request where
  | receive
  | getRelayer
  | copy
  | change (change : Change)
  | write (change : Change) (told : RelayerRepoModel)
  | tokenMetadata (tokens : List StellarAllowedTokensPolicy)
  | networkRelayer
  | handleHealthAction (metadata : List (String × String))
  | checkHealth
  | notifyDisabled (notificationId : String) (relayer : RelayerRepoModel)
      (reason : DisabledReason)
  | notifyEnabled (notificationId : String) (relayer : RelayerRepoModel) (retryCount : UInt32)
  | schedule (job : RelayerHealthCheck) (delaySeconds : ℕ)
  | settle (delivery : Delivery) (outcome : Except HandlerError Unit)

abbrev Answer : Request → Type
  | .receive => Delivery
  | .getRelayer | .copy | .change _ | .write .. => RelayerRepoModel
  | .tokenMetadata _ => Except String (List StellarAllowedTokensPolicy)
  | .networkRelayer => Except String Unit
  | .handleHealthAction _ => Except String Bool
  | .checkHealth => Except (List HealthCheckFailure) Unit
  | .notifyDisabled .. => Except RelayerError Unit
  | .notifyEnabled .. => Except String Unit
  | .schedule .. | .settle .. => Unit

abbrev Step (Error A : Type) := Task Request Answer Error A

section Code

variable {Error : Type} (repository : Repository)

def perform (change : Change) : Step Error RelayerRepoModel :=
  match repository with
  | .inMemory => Task.ask (Request.change change)
  | .redis => do
      let relayer ← Task.ask Request.copy
      Task.ask (Request.write change relayer)

def getStellarPolicy : RelayerNetworkPolicy → RelayerStellarPolicy
  | .stellar policy => policy
  | _ => .default

def migrateFeePaymentStrategyIfNeeded (relayer : RelayerRepoModel) : Step RelayerError Unit :=
  let policy := getStellarPolicy relayer.policies
  if repository = .redis ∧ policy.feePaymentStrategy = none then do
    let _ ← perform repository
      (.updatePolicy (.stellar { policy with feePaymentStrategy := some .relayer }))
  else pure ()

def populateAllowedTokensMetadata (relayer : RelayerRepoModel) : Step RelayerError Unit :=
  let policy := getStellarPolicy relayer.policies
  match policy.allowedTokens with
  | none | some [] => pure ()
  | some tokens => do
      let found ← Task.ask (Request.tokenMetadata tokens)
      let updated ← Task.ofExcept (found.mapError fun error =>
        .policyConfigurationError s!"Error while processing allowed tokens policy: {error}")
      let _ ← perform repository
        (.updatePolicy (.stellar { policy with allowedTokens := some updated }))

/-- The networks whose relayers are checked again. -/
inductive Network where
  | evm
  | stellar
  deriving DecidableEq

def Network.unknownReason : Network → DisabledReason
  | .evm => .rpcValidationFailed "Unknown error"
  | .stellar => .sequenceSyncFailed "Unknown error"

/-- What a Stellar relayer does before its check. -/
def prepare (network : Network) (relayer : RelayerRepoModel) : Step RelayerError Unit :=
  match network with
  | .evm => pure ()
  | .stellar => do
      migrateFeePaymentStrategyIfNeeded repository relayer
      populateAllowedTokensMetadata repository relayer

def notifyDisabled (notificationId : Option String) (relayer : RelayerRepoModel)
    (reason : DisabledReason) : Step RelayerError Unit :=
  match notificationId with
  | some id => do
      let sent ← Task.ask (Request.notifyDisabled id relayer reason)
      Task.ofExcept sent
  | none => pure ()

/-- `relayer` is the record that the service was built with. -/
def initializeRelayer (network : Network) (relayer : RelayerRepoModel) :
    Step RelayerError Unit := do
  prepare repository network relayer
  match ← Task.ask Request.checkHealth with
  | .ok _ =>
      if relayer.systemDisabled then
        let _ ← perform repository .enableRelayer
  | .error failures =>
      let reason := (fromHealthFailures failures).getD network.unknownReason
      let updated ← perform repository (.disableRelayer reason)
      notifyDisabled relayer.notificationId updated reason
      Task.ask (Request.schedule ⟨0, none⟩ 10)

def calculateBackoffDelay (retryCount : UInt32) : ℕ :=
  if retryCount = 0 then 10
  else if retryCount = 1 then 20
  else if retryCount = 2 then 30
  else if retryCount = 3 then 45
  else 60

def notifyEnabled (relayer : RelayerRepoModel) (retryCount : UInt32) : Step String Unit :=
  match relayer.notificationId with
  | some id => do
      let sent ← Task.ask (Request.notifyEnabled id relayer retryCount)
      Task.ofExcept (sent.mapError (s!"Failed to send notification: {·}"))
  | none => pure ()

def shouldUpdate (old : Option DisabledReason) (reason : DisabledReason) : Bool :=
  match old with
  | some old => !sameVariant old reason
  | none => true

/-- The check of a relayer that is disabled. -/
def checkAgain (job : RelayerHealthCheck) (relayer : RelayerRepoModel) : Step String Unit := do
  let built ← Task.ask Request.networkRelayer
  Task.ofExcept (built.mapError (s!"Failed to get relayer: {·}"))
  match ← Task.ask Request.checkHealth with
  | .ok _ =>
      let enabled ← perform repository .enableRelayer
      notifyEnabled enabled job.retryCount
  | .error failures =>
      let reason := (fromHealthFailures failures).getD (.rpcValidationFailed "Unknown error")
      if shouldUpdate relayer.disabledReason reason then
        let _ ← perform repository (.disableRelayer reason)
      Task.ask (Request.schedule ⟨job.retryCount + 1, none⟩ (calculateBackoffDelay job.retryCount))

def normalCheck (job : RelayerHealthCheck) : Step String Unit := do
  let relayer ← Task.ask Request.getRelayer
  if relayer.systemDisabled then checkAgain repository job relayer
  else pure ()

def checkAndReenableRelayer (job : RelayerHealthCheck) : Step String Unit :=
  match job.metadata with
  | none => normalCheck repository job
  | some metadata => do
      let built ← Task.ask Request.networkRelayer
      Task.ofExcept (built.mapError (s!"Failed to get relayer for targeted action: {·}"))
      match ← Task.ask (Request.handleHealthAction metadata) with
      | .ok true => pure ()
      | .ok false => normalCheck repository job
      | .error error => throw s!"Targeted health action failed: {error}"

/-- The errors of this job are texts, so none of them counts as terminal. -/
def handleResult (result : Except String Unit) (attempt maxAttempts : ℕ) :
    Except HandlerError Unit :=
  match result with
  | .ok _ => .ok ()
  | .error _ =>
      if maxAttempts ≤ attempt then .error (.abort "Failed to handle request")
      else .error (.retry "Failed to handle request. Retrying")

/-- `WORKER_DEFAULT_MAXIMUM_RETRIES`. -/
def workerDefaultMaximumRetries : ℕ := 5

/-- `WORKER_RELAYER_HEALTH_CHECK_RETRIES`, after which the queue gives a job up. -/
def workerRelayerHealthCheckRetries : ℕ := 2

/-- A worker takes a job from the queue, handles it and gives the outcome back. -/
def relayerHealthCheckHandler : Program Request Answer Unit := do
  let delivery ← Program.ask Request.receive
  let result ← (checkAndReenableRelayer repository delivery.job).run
  Program.ask (Request.settle delivery
    (handleResult result delivery.attempt workerDefaultMaximumRetries))

end Code

/-! ## The system -/

inductive Handler where
  | startUp (number : ℕ) (network : Network) (relayer : RelayerRepoModel)
  | healthCheck (number : ℕ)
  deriving DecidableEq

def Handler.run (repository : Repository) : Handler → Program Request Answer Unit
  | .startUp _ network relayer => do
      let _ ← (initializeRelayer repository network relayer).run
      return ()
  | .healthCheck _ => relayerHealthCheckHandler repository

/-- The stored relayer with its earlier versions, the jobs that wait in the queue, and those
that workers have taken. -/
structure State where
  relayer : RelayerRepoModel
  versions : List RelayerRepoModel
  queue : List Delivery
  taken : Handler → Option Delivery

def State.store (state : State) (relayer : RelayerRepoModel) : State :=
  { state with relayer := relayer, versions := state.relayer :: state.versions }

/-- Redis reads from a replica, which may hold an earlier version. -/
def State.read (state : State) (repository : Repository) (told : RelayerRepoModel) :
    List State :=
  if told = state.relayer ∨ repository = .redis ∧ told ∈ state.versions then [state] else []

def State.giveBack (state : State) (handler : Handler) : State :=
  { state with taken := Function.update state.taken handler none }

/-- A job that is to be retried comes back until the queue gives it up. -/
def comesBack (delivery : Delivery) : Except HandlerError Unit → Bool
  | .error (.retry _) => delivery.attempt < workerRelayerHealthCheckRetries
  | _ => false

def serve (repository : Repository) (state : State) (handler : Handler) :
    (request : Request) → Answer request → List State
  | .receive, delivery =>
      if delivery ∈ state.queue then
        [{ state with
          queue := state.queue.erase delivery
          taken := Function.update state.taken handler (some delivery) }]
      else []
  | .getRelayer, relayer | .copy, relayer => state.read repository relayer
  | .change change, relayer =>
      if relayer = change.apply state.relayer then [state.store relayer] else []
  | .write change told, relayer =>
      if relayer = change.apply told then [state.store relayer] else []
  | .schedule job _, _ => [{ state with queue := state.queue ++ [⟨job, 0⟩] }]
  | .settle delivery outcome, _ =>
      if comesBack delivery outcome then
        [{ state.giveBack handler with
          queue := state.queue ++ [{ delivery with attempt := delivery.attempt + 1 }] }]
      else [state.giveBack handler]
  | .tokenMetadata _, _ | .networkRelayer, _ | .handleHealthAction _, _ | .checkHealth, _
  | .notifyDisabled .., _ | .notifyEnabled .., _ => [state]

def handlers (repository : Repository) : System Request Answer State Empty Handler Unit where
  launch handler := some (handler.run repository)
  serve := serve repository
  occur _ event := nomatch event
  crash _ _ := none

abbrev Handlers := Config Request Answer State Handler Unit

def initial (relayer : RelayerRepoModel) (queue : List Delivery) : Handlers :=
  ⟨⟨relayer, [], queue, fun _ => none⟩, []⟩

def CheckQueued (state : State) : Prop := ∃ delivery ∈ state.queue, delivery.job.metadata = none

/-- When no handler is running, a disabled relayer has a check in the queue. -/
def Watched (config : Handlers) : Prop :=
  config.Idle → config.state.relayer.systemDisabled = true → CheckQueued config.state

/-- No check is told that a disabled relayer is enabled, a disabled relayer can be notified
of, services are built unless another attempt is left, and a policy is written back without
changing whether the relayer is disabled. -/
def undisturbed (state : State) (handler : Handler) : (request : Request) → Answer request → Bool
  | .getRelayer, told => told.systemDisabled || !state.relayer.systemDisabled
  | .notifyDisabled .., answer => answer.isOk
  | .networkRelayer, answer => answer.isOk ||
      (state.taken handler).all fun delivery => delivery.job.metadata.isSome ||
        (delivery.attempt < workerRelayerHealthCheckRetries &&
          delivery.attempt < workerDefaultMaximumRetries)
  | .write (.updatePolicy _) told, _ => told.systemDisabled = state.relayer.systemDisabled
  | _, _ => true

/-! ## Who is responsible -/

/-- The job that a handler has taken, and whether it owes a check: it has taken one out of
the queue or disabled the relayer, and has not made good for it. -/
structure Memory where
  delivery : Option Delivery
  owes : Bool

def Memory.start : Memory := ⟨none, false⟩

def Memory.made (memory : Memory) : Change → Memory
  | .enableRelayer => { memory with owes := false }
  | .disableRelayer _ => { memory with owes := true }
  | _ => memory

/-- What is read or written as enabled needs no check; a job that is queued is one. -/
def duty : Protocol Request Answer Memory where
  allowed
    | memory, .receive => memory = .start
    | _, .change change | _, .write change _ => ∀ paused, change ≠ .partialUpdate paused
    | _, .schedule job _ => job.metadata = none
    | memory, .settle delivery outcome => memory.owes = true →
        delivery.job.metadata = none ∧ comesBack delivery outcome = true
    | _, _ => True
  possible
    | memory, .networkRelayer, .error _ => ∀ delivery, memory.delivery = some delivery →
        delivery.job.metadata = none → delivery.attempt < workerRelayerHealthCheckRetries ∧
          delivery.attempt < workerDefaultMaximumRetries
    | _, .notifyDisabled .., .error _ => False
    | _, _, _ => True
  remember
    | _, .receive, delivery => ⟨some delivery, delivery.job.metadata.isNone⟩
    | memory, .getRelayer, relayer => { memory with owes := memory.owes && relayer.systemDisabled }
    | memory, .change change, _ | memory, .write change _, _ => memory.made change
    | memory, .schedule .., _ => { memory with owes := false }
    | _, .settle .., _ => .start
    | memory, _, _ => memory

section Conduct

variable {Error : Type} {repository : Repository} {memory : Memory} {failed : Memory → Prop}

/-- All that is known after a call. -/
theorem follows_ask (request : Request) (hallowed : duty.allowed memory request) :
    FollowsTask duty failed (fun later answer => later = duty.remember memory request answer ∧
      duty.possible memory request answer) memory (Task.ask request : Step Error _) :=
  FollowsTask.ask hallowed fun _ hanswer => ⟨rfl, hanswer⟩

theorem follows_computed {A : Type} (value : Except Error A) (hfailed : failed memory) :
    FollowsTask duty failed (fun later result => later = memory ∧ value = .ok result) memory
      (Task.ofExcept value) :=
  FollowsTask.ofExcept hfailed fun _ hresult => ⟨rfl, hresult⟩

theorem follows_perform (change : Change) (hchange : ∀ paused, change ≠ .partialUpdate paused) :
    FollowsTask duty failed (fun later _ => later = memory.made change) memory
      (perform repository change : Step Error _) := by
  cases repository with
  | inMemory => exact FollowsTask.ask hchange fun _ _ => rfl
  | redis =>
      refine (follows_ask .copy trivial).bind ?_
      rintro _ relayer ⟨rfl, -⟩
      exact FollowsTask.ask hchange fun _ _ => rfl

theorem follows_enable :
    FollowsTask duty failed (fun later _ => later = { memory with owes := false }) memory
      (perform repository .enableRelayer : Step Error _) :=
  follows_perform .enableRelayer (by simp)

theorem follows_disable (reason : DisabledReason) :
    FollowsTask duty failed (fun later _ => later = { memory with owes := true }) memory
      (perform repository (.disableRelayer reason) : Step Error _) :=
  follows_perform (.disableRelayer reason) (by simp)

theorem follows_updatePolicy (policy : RelayerNetworkPolicy) :
    FollowsTask duty failed (fun later _ => later = .start) .start
      (perform repository (.updatePolicy policy) : Step Error _) :=
  follows_perform (.updatePolicy policy) (by simp)

theorem follows_prepare (network : Network) (relayer : RelayerRepoModel) :
    FollowsTask duty (·.owes = false) (fun later _ => later = .start) .start
      (prepare repository network relayer) := by
  cases network with
  | evm => exact FollowsTask.pure rfl
  | stellar =>
      have hmigrate : FollowsTask duty (·.owes = false) (fun later _ => later = .start) .start
          (migrateFeePaymentStrategyIfNeeded repository relayer) := by
        rw [migrateFeePaymentStrategyIfNeeded]
        split_ifs
        · refine (follows_updatePolicy _).bind ?_
          rintro _ _ rfl
          exact FollowsTask.pure rfl
        · exact FollowsTask.pure rfl
      refine hmigrate.bind ?_
      rintro _ _ rfl
      rw [populateAllowedTokensMetadata]
      split
      · exact FollowsTask.pure rfl
      · exact FollowsTask.pure rfl
      · refine (follows_ask (.tokenMetadata _) trivial).bind ?_
        rintro _ found ⟨rfl, -⟩
        refine (follows_computed _ ?_).bind ?_
        · rfl
        rintro _ updated ⟨rfl, -⟩
        refine (follows_updatePolicy _).bind ?_
        rintro _ _ rfl
        exact FollowsTask.pure rfl

theorem follows_notifyDisabled (notificationId : Option String) (relayer : RelayerRepoModel)
    (reason : DisabledReason) :
    FollowsTask duty failed (fun later _ => later = memory) memory
      (notifyDisabled notificationId relayer reason) := by
  cases notificationId with
  | none => exact FollowsTask.pure rfl
  | some id =>
      refine (follows_ask (.notifyDisabled id relayer reason) trivial).bind ?_
      rintro _ answer ⟨rfl, hsent⟩
      cases answer with
      | ok => exact FollowsTask.pure rfl
      | error error => exact hsent.elim

theorem follows_initializeRelayer (network : Network) (relayer : RelayerRepoModel) :
    FollowsTask duty (·.owes = false) (fun later _ => later.owes = false) .start
      (initializeRelayer repository network relayer) := by
  refine (follows_prepare network relayer).bind ?_
  rintro _ _ rfl
  refine (follows_ask .checkHealth trivial).bind ?_
  rintro _ answer ⟨rfl, -⟩
  cases answer with
  | ok =>
      dsimp only
      split_ifs
      · refine follows_enable.bind ?_
        rintro _ _ rfl
        exact FollowsTask.pure rfl
      · exact FollowsTask.pure rfl
  | error failures =>
      refine (follows_disable _).bind ?_
      rintro _ updated rfl
      refine (follows_notifyDisabled _ _ _).bind ?_
      rintro _ _ rfl
      exact FollowsTask.ask rfl fun _ _ => rfl

/-- What a handler may leave undone when it fails: a check of a job that comes back. -/
def LeavesToRetry (delivery : Delivery) (memory : Memory) : Prop :=
  memory.delivery = some delivery ∧ (memory.owes = true → delivery.job.metadata = none ∧
    delivery.attempt < workerRelayerHealthCheckRetries ∧
    delivery.attempt < workerDefaultMaximumRetries)

def Settled (delivery : Delivery) (memory : Memory) : Prop :=
  memory.delivery = some delivery ∧ memory.owes = false

theorem Settled.leavesToRetry {delivery : Delivery} (hsettled : Settled delivery memory) :
    LeavesToRetry delivery memory :=
  ⟨hsettled.1, fun howes => by rw [hsettled.2] at howes; cases howes⟩

theorem follows_notifyEnabled {delivery : Delivery} (hsettled : Settled delivery memory)
    (relayer : RelayerRepoModel) (retryCount : UInt32) :
    FollowsTask duty (LeavesToRetry delivery) (fun later _ => Settled delivery later) memory
      (notifyEnabled relayer retryCount) := by
  rw [notifyEnabled]
  cases relayer.notificationId with
  | none => exact FollowsTask.pure hsettled
  | some id =>
      refine (follows_ask (.notifyEnabled id relayer retryCount) trivial).bind ?_
      rintro _ sent ⟨rfl, -⟩
      exact FollowsTask.ofExcept hsettled.leavesToRetry fun _ _ => hsettled

theorem follows_checkAgain {delivery : Delivery} (htaken : memory.delivery = some delivery)
    (howes : memory.owes = true → delivery.job.metadata = none) (relayer : RelayerRepoModel) :
    FollowsTask duty (LeavesToRetry delivery) (fun later _ => Settled delivery later) memory
      (checkAgain repository delivery.job relayer) := by
  refine (follows_ask .networkRelayer trivial).bind ?_
  intro later built hlater
  obtain ⟨hsame, hbuilt⟩ := hlater
  cases built with
  | error error =>
      have hleft : LeavesToRetry delivery later := by
        rw [hsame]
        exact ⟨htaken, fun howed => ⟨howes howed, hbuilt delivery htaken (howes howed)⟩⟩
      exact ⟨fun _ _ => hleft, fun _ hresult => by cases hresult⟩
  | ok =>
      have htaken : later.delivery = some delivery := hsame ▸ htaken
      change FollowsTask _ _ _ _ (Task.ask Request.checkHealth >>= _)
      refine (follows_ask .checkHealth trivial).bind ?_
      rintro checked answer ⟨hchecked, -⟩
      have htaken : checked.delivery = some delivery := hchecked ▸ htaken
      cases answer with
      | ok =>
          refine follows_enable.bind ?_
          rintro after enabled rfl
          apply follows_notifyEnabled
          exact ⟨htaken, rfl⟩
      | error failures =>
          dsimp only
          split_ifs
          · refine (follows_disable _).bind ?_
            rintro after updated rfl
            exact FollowsTask.ask rfl fun _ _ => ⟨htaken, rfl⟩
          · exact FollowsTask.ask rfl fun _ _ => ⟨htaken, rfl⟩

theorem follows_normalCheck {delivery : Delivery} (htaken : memory.delivery = some delivery)
    (howes : memory.owes = true → delivery.job.metadata = none) :
    FollowsTask duty (LeavesToRetry delivery) (fun later _ => Settled delivery later) memory
      (normalCheck repository delivery.job) := by
  refine (follows_ask .getRelayer trivial).bind ?_
  rintro _ relayer ⟨rfl, -⟩
  split_ifs with hdisabled
  · apply follows_checkAgain
    · exact htaken
    · intro howed
      exact howes (Bool.and_eq_true_iff.mp howed).1
  · exact FollowsTask.pure ⟨htaken, by simp [duty, hdisabled]⟩

theorem follows_checkAndReenableRelayer (delivery : Delivery) :
    FollowsTask duty (LeavesToRetry delivery) (fun later _ => Settled delivery later)
      ⟨some delivery, delivery.job.metadata.isNone⟩
      (checkAndReenableRelayer repository delivery.job) := by
  rw [checkAndReenableRelayer]
  cases hmetadata : delivery.job.metadata with
  | none => exact follows_normalCheck rfl fun _ => hmetadata
  | some metadata =>
      have hsettled : Settled delivery ⟨some delivery, false⟩ := ⟨rfl, rfl⟩
      refine (follows_ask .networkRelayer trivial).bind ?_
      rintro _ built ⟨rfl, -⟩
      refine (follows_computed _ hsettled.leavesToRetry).bind ?_
      rintro _ _ ⟨rfl, -⟩
      refine (follows_ask (.handleHealthAction metadata) trivial).bind ?_
      rintro _ handled ⟨rfl, -⟩
      cases handled with
      | error error => exact FollowsTask.throw hsettled.leavesToRetry
      | ok recognized =>
          cases recognized with
          | true => exact FollowsTask.pure hsettled
          | false => exact follows_normalCheck rfl nofun

theorem follows_run (repository : Repository) (handler : Handler) :
    (handler.run repository).Follows duty (fun later _ => later.owes = false) .start := by
  cases handler with
  | startUp number network relayer =>
      apply Program.Follows.bind (follows_initializeRelayer network relayer)
      intro later outcome hend
      cases outcome with
      | ok => exact hend.2 _ rfl
      | error error => exact hend.1 error rfl
  | healthCheck number =>
      refine ⟨rfl, fun delivery _ => ?_⟩
      apply Program.Follows.bind (follows_checkAndReenableRelayer delivery)
      intro later outcome hend
      refine ⟨?_, fun _ _ => rfl⟩
      cases outcome with
      | ok =>
          intro howed
          rw [(hend.2 _ rfl).2] at howed
          cases howed
      | error error =>
          intro howed
          obtain ⟨hmetadata, hqueue, hworker⟩ := (hend.1 error rfl).2 howed
          refine ⟨hmetadata, ?_⟩
          rw [handleResult, if_neg (Nat.not_le.mpr hworker)]
          exact decide_eq_true hqueue

end Conduct

/-! ## Every run -/

/-- Handlers know which jobs they hold; if the relayer is disabled, a check is queued or owed. -/
structure Joint (state : State) (memories : Handler → Memory) : Prop where
  taken : ∀ handler, (memories handler).delivery = state.taken handler
  covered : state.relayer.systemDisabled = true →
    CheckQueued state ∨ ∃ handler, (memories handler).owes = true

variable {state after : State} {memories : Handler → Memory} {handler : Handler} {later : Memory}

/-- One handler moves: the relayer is enabled then, or a check is queued or owed by this
handler, or what covered the relayer before still does. -/
theorem Joint.move (hjoint : Joint state memories)
    (htaken : after.taken = Function.update state.taken handler later.delivery)
    (hcovered : after.relayer.systemDisabled = true →
      (CheckQueued after ∨ later.owes = true) ∨ state.relayer.systemDisabled = true ∧
        (CheckQueued state → CheckQueued after) ∧
        ((memories handler).owes = true → later.owes = true)) :
    Joint after (Function.update memories handler later) := by
  constructor
  case taken =>
    intro other
    rw [htaken]
    by_cases hsame : other = handler
    · rw [hsame, Function.update_self, Function.update_self]
    · rw [Function.update_of_ne hsame, Function.update_of_ne hsame]
      exact hjoint.taken other
  case covered =>
    intro hdisabled
    have hown : later.owes = true →
        ∃ other, (Function.update memories handler later other).owes = true := by
      intro howes
      exact ⟨handler, by rwa [Function.update_self]⟩
    rcases hcovered hdisabled with (hqueued | howes) | ⟨hbefore, hqueue, hkept⟩
    · exact .inl hqueued
    · exact .inr (hown howes)
    · rcases hjoint.covered hbefore with hqueued | ⟨other, howes⟩
      · exact .inl (hqueue hqueued)
      · by_cases hsame : other = handler
        · exact .inr (hown (hkept (hsame ▸ howes)))
        · exact .inr ⟨other, by rwa [Function.update_of_ne hsame]⟩

theorem Joint.keepsTaken (hjoint : Joint state memories)
    (hdelivery : later.delivery = (memories handler).delivery) :
    state.taken = Function.update state.taken handler later.delivery := by
  rw [hdelivery, hjoint.taken, Function.update_eq_self]

/-- A call that changes nothing in the state. -/
theorem Joint.still (hjoint : Joint state memories)
    (hdelivery : later.delivery = (memories handler).delivery)
    (howes : state.relayer.systemDisabled = true → (memories handler).owes = true →
      later.owes = true) :
    Joint state (Function.update memories handler later) :=
  hjoint.move (hjoint.keepsTaken hdelivery) fun hdisabled =>
    .inr ⟨hdisabled, id, howes hdisabled⟩

/-- The stored relayer is changed, from a record that is as much disabled as the stored one
if the change is one of the policy. -/
theorem Joint.changed (hjoint : Joint state memories) {change : Change} {told : RelayerRepoModel}
    (hchange : ∀ paused, change ≠ .partialUpdate paused)
    (hpolicy : ∀ policy, change = .updatePolicy policy →
      told.systemDisabled = state.relayer.systemDisabled) :
    Joint (state.store (change.apply told))
      (Function.update memories handler ((memories handler).made change)) := by
  cases change with
  | enableRelayer => exact hjoint.move (hjoint.keepsTaken rfl) fun hdisabled => by cases hdisabled
  | disableRelayer reason => exact hjoint.move (hjoint.keepsTaken rfl) fun _ => .inl (.inr rfl)
  | updatePolicy policy =>
      refine hjoint.move (hjoint.keepsTaken rfl) fun hdisabled => .inr ⟨?_, id, id⟩
      exact (hpolicy policy rfl).symm.trans hdisabled
  | partialUpdate paused => exact absurd rfl (hchange paused)

/-- A check that is taken out of the queue is owed by the worker that takes it. -/
theorem Joint.received (hjoint : Joint state memories) {delivery : Delivery}
    (hstart : memories handler = .start) :
    Joint { state with
        queue := state.queue.erase delivery
        taken := Function.update state.taken handler (some delivery) }
      (Function.update memories handler ⟨some delivery, delivery.job.metadata.isNone⟩) := by
  refine hjoint.move rfl fun hdisabled => ?_
  cases hmetadata : delivery.job.metadata with
  | none => exact .inl (.inr (by simp))
  | some metadata =>
      refine .inr ⟨hdisabled, ?_, fun howes => ?_⟩
      · rintro ⟨waiting, hmem, hnone⟩
        refine ⟨waiting, (List.mem_erase_of_ne ?_).mpr hmem, hnone⟩
        rintro rfl
        simp [hmetadata] at hnone
      · rw [hstart] at howes
        cases howes

/-- A job that comes back is queued, so that a worker who owes a check has made good. -/
theorem Joint.returned (hjoint : Joint state memories) {delivery : Delivery}
    (howed : (memories handler).owes = true → delivery.job.metadata = none) :
    Joint { state.giveBack handler with
        queue := state.queue ++ [{ delivery with attempt := delivery.attempt + 1 }] }
      (Function.update memories handler .start) := by
  refine hjoint.move rfl fun hdisabled => ?_
  cases howes : (memories handler).owes with
  | true =>
      exact .inl (.inl ⟨_, List.mem_append_right _ (List.mem_singleton_self _), howed howes⟩)
  | false =>
      refine .inr ⟨hdisabled, ?_, nofun⟩
      rintro ⟨waiting, hmem, hnone⟩
      exact ⟨waiting, List.mem_append_left _ hmem, hnone⟩

theorem mem_read {repository : Repository} {told : RelayerRepoModel}
    (hafter : after ∈ state.read repository told) : after = state := by
  rw [State.read] at hafter
  split_ifs at hafter
  · exact List.mem_singleton.mp hafter
  · cases hafter

theorem maintains_duty (repository : Repository) :
    Maintains ((handlers repository).restrictAnswers undisturbed) (fun _ => duty) .start Joint where
  serve state memories handler request answer _ hjoint hallowed after hafter := by
    obtain ⟨hadmitted, hserved⟩ := System.mem_serve_restrictAnswers.mp hafter
    cases request with
    | receive =>
        simp only [handlers, serve] at hserved
        split_ifs at hserved
        · rw [List.mem_singleton.mp hserved]
          exact ⟨trivial, hjoint.received hallowed⟩
        · cases hserved
    | getRelayer =>
        rw [mem_read hserved]
        refine ⟨trivial, hjoint.still rfl fun hdisabled howes => ?_⟩
        have htold : (answer.systemDisabled || !state.relayer.systemDisabled) = true := hadmitted
        rw [hdisabled, Bool.not_true, Bool.or_false] at htold
        exact Bool.and_eq_true_iff.mpr ⟨howes, htold⟩
    | copy =>
        rw [mem_read hserved]
        exact ⟨trivial, hjoint.still rfl fun _ howes => howes⟩
    | change change =>
        simp only [handlers, serve] at hserved
        split_ifs at hserved with hanswer
        · rw [List.mem_singleton.mp hserved, hanswer]
          exact ⟨trivial, hjoint.changed hallowed fun _ _ => rfl⟩
        · cases hserved
    | write change told =>
        simp only [handlers, serve] at hserved
        split_ifs at hserved with hanswer
        · rw [List.mem_singleton.mp hserved, hanswer]
          refine ⟨trivial, hjoint.changed hallowed fun policy hpolicy => ?_⟩
          subst hpolicy
          exact of_decide_eq_true hadmitted
        · cases hserved
    | schedule job delay =>
        rw [List.mem_singleton.mp hserved]
        refine ⟨trivial, hjoint.move (hjoint.keepsTaken rfl) fun _ => .inl (.inl ?_)⟩
        exact ⟨⟨job, 0⟩, List.mem_append_right _ (List.mem_singleton_self _), hallowed⟩
    | settle delivery outcome =>
        simp only [handlers, serve] at hserved
        split_ifs at hserved with hback
        · rw [List.mem_singleton.mp hserved]
          exact ⟨trivial, hjoint.returned fun howes => (hallowed howes).1⟩
        · rw [List.mem_singleton.mp hserved]
          refine ⟨trivial, hjoint.move rfl fun hdisabled => .inr ⟨hdisabled, id, fun howes => ?_⟩⟩
          exact absurd (hallowed howes).2 hback
    | networkRelayer =>
        rw [List.mem_singleton.mp hserved]
        refine ⟨?_, hjoint.still rfl fun _ howes => howes⟩
        cases answer with
        | ok => trivial
        | error error =>
            intro delivery hdelivery hmetadata
            rw [hjoint.taken] at hdelivery
            simpa [undisturbed, Except.isOk, Except.toBool, hdelivery, hmetadata] using hadmitted
    | notifyDisabled id relayer reason =>
        rw [List.mem_singleton.mp hserved]
        refine ⟨?_, hjoint.still rfl fun _ howes => howes⟩
        cases answer with
        | ok => trivial
        | error error => cases hadmitted
    | _ =>
        rw [List.mem_singleton.mp hserved]
        exact ⟨trivial, hjoint.still rfl fun _ howes => howes⟩
  occur _ _ event := nomatch event
  crash _ _ _ _ _ hcrash := nomatch hcrash

/-- In every run in which nothing of this goes wrong, a disabled relayer has a check ahead of
it: no check is told that the relayer is enabled when it is not, notifications of disabled
relayers are queued, services are built unless another attempt is left, and a policy is
written back without changing whether the relayer is disabled. -/
theorem disabled_relayer_watched (repository : Repository) (relayer : RelayerRepoModel)
    (queue : List Delivery)
    (hfirst : relayer.systemDisabled = true →
      ∃ delivery ∈ queue, delivery.job.metadata = none)
    (config : Handlers) (hrun : ((handlers repository).restrictAnswers undisturbed).Reachable
      (initial relayer queue) config) :
    Watched config := by
  intro hidle hdisabled
  have hlaunch : ∀ handler program,
      ((handlers repository).restrictAnswers undisturbed).launch handler = some program →
        program.Follows duty (fun later _ => later.owes = false) .start := by
    intro handler program hprogram
    cases hprogram
    exact follows_run repository handler
  have hstart : Joint (initial relayer queue).state fun _ => .start :=
    ⟨fun _ => rfl, fun hbefore => .inl (hfirst hbefore)⟩
  obtain ⟨memories, hjoint, hrecalls⟩ :=
    (maintains_duty repository).reachable hlaunch hstart hrun
  rcases hjoint.covered hdisabled with hqueued | ⟨handler, howes⟩
  · exact hqueued
  · have hsettled : (memories handler).owes = false := hrecalls.idle rfl hidle handler
    rw [hsettled] at howes
    cases howes

/-! ## A relayer that is disabled when it starts -/

/-- A relayer with a notification. -/
def notifying : RelayerRepoModel := { sampleRelayer with notificationId := some "webhook" }

/-- One turn of the first handler: its health check fails, and the queue of notifications
answers with `sent`. -/
def turn (sent : Except RelayerError Unit) : Action Request Answer Empty Handler :=
  .advance 0 (fun
    | .receive => ⟨⟨0, none⟩, 0⟩
    | .getRelayer | .copy => notifying
    | .change change | .write change _ => change.apply notifying
    | .tokenMetadata _ | .networkRelayer | .handleHealthAction _ | .notifyEnabled .. => .error ""
    | .checkHealth => .error [.balanceCheckFailed "below the minimum"]
    | .notifyDisabled .. => sent
    | .schedule .. | .settle .. => ()) 0

/-- What is left of a run: whether all handlers have ended, whether the relayer is disabled,
and the queue. -/
def outlook (config : Handlers) : Bool × Bool × List Delivery :=
  (config.jobs.all (Program.isDone ·.2), config.state.relayer.systemDisabled,
    config.state.queue)

theorem disabled_relayer_watched_notified :
    ∃ config, ((handlers .inMemory).restrictAnswers undisturbed).Reachable
        (initial notifying []) config ∧ config.Idle ∧
      config.state.relayer.systemDisabled = true ∧ Watched config := by
  have hexecute : (((handlers .inMemory).restrictAnswers undisturbed).execute
      (initial notifying []) [.start (.startUp 0 .evm notifying), turn (.ok ()), turn (.ok ()),
        turn (.ok ()), turn (.ok ())]).map outlook = some (true, true, [⟨⟨0, none⟩, 0⟩]) := by
    decide +kernel
  obtain ⟨config, hrun, hend⟩ := System.reachable_of_execute hexecute
  simp only [outlook, Prod.mk.injEq] at hend
  exact ⟨config, hrun, Config.idle_of_all hend.1, hend.2.1,
    disabled_relayer_watched .inMemory notifying [] (by decide) config hrun⟩

/-- The relayer is disabled, the notification cannot be queued, and no check is scheduled. -/
theorem unwatched_after_failed_notification :
    ∃ config, (handlers .inMemory).Reachable (initial notifying []) config ∧
      ¬ Watched config := by
  have hexecute : ((handlers .inMemory).execute (initial notifying [])
      [.start (.startUp 0 .evm notifying), turn (.error (.queueError "unavailable")),
        turn (.error (.queueError "unavailable")),
        turn (.error (.queueError "unavailable"))]).map outlook = some (true, true, []) := by
    decide +kernel
  obtain ⟨config, hreachable, hend⟩ := System.reachable_of_execute hexecute
  simp only [outlook, Prod.mk.injEq] at hend
  refine ⟨config, hreachable, fun hwatched => ?_⟩
  obtain ⟨delivery, hmem, -⟩ := hwatched (Config.idle_of_all hend.1) hend.2.1
  rw [hend.2.2] at hmem
  cases hmem

end Relayer.HealthCheckJob
