import Mathlib

/-!
# Connections of plugins

All plugins talk to the relayer over one socket.  A connection is bound to the execution
that its first message names, and requests are made on behalf of that execution.  Messages
come in a typed protocol and in a legacy one, which has no registration of its own.  The
registry of executions may change between any two lines.
-/

namespace Relayer.SharedSocket

/-! ## The code -/

structure Request (Method Payload : Type) where
  requestId : String
  relayerId : String
  method : Method
  payload : Payload
  httpRequestId : Option String
  idempotencyKey : Option String
  deriving DecidableEq, Repr

/-- A line as it was parsed; a line that is no message of either protocol is malformed. -/
inductive Line (Method Payload Trace : Type) where
  | malformed
  | register (executionId : String)
  | apiRequest (requestId relayerId : String) (method : Method) (payload : Payload)
      (idempotencyKey : Option String)
  | trace (trace : Trace)
  | shutdown
  | apiResponse
  | legacy (request : Request Method Payload)
  deriving DecidableEq, Repr

/-- The registered executions, and whether their traces are wanted. -/
abbrev Executions := String → Option Bool

/-- A line, the executions while it is handled, and whether a response can be written. -/
structure Received (Method Payload Trace : Type) where
  line : Line Method Payload Trace
  executions : Executions
  writable : Bool

structure Connection (Trace : Type) where
  traces : Option (List Trace)
  tracesEnabled : Bool
  boundExecutionId : Option String
  deriving DecidableEq, Repr

section Code

variable {Method Payload Trace : Type}

def Connection.new : Connection Trace := ⟨none, false, none⟩

/-- The connection after a line, the request handed to the relayer's API before that, and
whether the loop goes on. -/
structure Processed (Method Payload Trace : Type) where
  connection : Connection Trace
  handled : Option (Request Method Payload)
  goesOn : Bool

/-- A legacy request binds a connection that is not bound, if it names a registered
execution. -/
def bindLegacy (connection : Connection Trace) (executions : Executions)
    (request : Request Method Payload) : Connection Trace :=
  match connection.boundExecutionId with
  | some _ => connection
  | none =>
      let candidateId := request.httpRequestId.getD request.requestId
      match executions candidateId with
      | some hasTraces =>
          { connection with tracesEnabled := hasTraces, boundExecutionId := some candidateId }
      | none => connection

def process (connection : Connection Trace) (received : Received Method Payload Trace) :
    Processed Method Payload Trace :=
  match received.line with
  | .malformed | .apiResponse => ⟨connection, none, true⟩
  | .register executionId =>
      match connection.boundExecutionId with
      | some _ => ⟨connection, none, false⟩
      | none =>
          match received.executions executionId with
          | some hasTraces =>
              ⟨{ connection with
                  tracesEnabled := hasTraces
                  boundExecutionId := some executionId }, none, true⟩
          | none => ⟨connection, none, false⟩
  | .apiRequest requestId relayerId method payload idempotencyKey =>
      match connection.boundExecutionId with
      | some executionId =>
          ⟨connection,
            some ⟨requestId, relayerId, method, payload, some executionId, idempotencyKey⟩,
            received.writable⟩
      | none => ⟨connection, none, false⟩
  | .trace trace =>
      if connection.tracesEnabled then
        ⟨{ connection with traces := some (connection.traces.getD [] ++ [trace]) }, none, true⟩
      else ⟨connection, none, true⟩
  | .shutdown => ⟨connection, none, false⟩
  | .legacy request =>
      ⟨bindLegacy connection received.executions request, some request, received.writable⟩

/-- One line that was handled, with the connection before and after it. -/
structure Step (Method Payload Trace : Type) where
  before : Connection Trace
  received : Received Method Payload Trace
  after : Connection Trace
  handled : Option (Request Method Payload)

/-- The loop, until a line ends it or no more lines come. -/
def steps (connection : Connection Trace) :
    List (Received Method Payload Trace) → List (Step Method Payload Trace)
  | [] => []
  | received :: later =>
      let processed := process connection received
      ⟨connection, received, processed.connection, processed.handled⟩ ::
        if processed.goesOn then steps processed.connection later else []

/-- The connection when the loop has ended. -/
def final (connection : Connection Trace) (run : List (Step Method Payload Trace)) :
    Connection Trace :=
  (run.getLast?.map Step.after).getD connection

/-- The execution that is sent the traces, and what it is sent. -/
def deliverTraces (connection : Connection Trace) (executions : Executions) :
    Option (String × List Trace) :=
  if connection.tracesEnabled then
    match connection.boundExecutionId with
    | some executionId =>
        match executions executionId with
        | some true => some (executionId, connection.traces.getD [])
        | _ => none
    | none => none
  else none

/-- What a connection does for the lines it receives and the executions at its end. -/
def handleConnection (lines : List (Received Method Payload Trace)) (executions : Executions) :
    List (Step Method Payload Trace) × Option (String × List Trace) :=
  let run := steps Connection.new lines
  (run, deliverTraces (final Connection.new run) executions)

/-! ## One execution for each connection -/

/-- All that a connection does is done for one execution, which was registered when the
connection was bound to it. -/
structure ActsForOne (run : List (Step Method Payload Trace))
    (delivered : Option (String × List Trace)) : Prop where
  binding : ∀ step ∈ run, ∀ id ∈ step.after.boundExecutionId, ∃ earlier ∈ run,
    earlier.before.boundExecutionId = none ∧ earlier.after.boundExecutionId = some id ∧
      (earlier.received.executions id).isSome
  single : ∀ step ∈ run, ∀ other ∈ run, ∀ id ∈ step.after.boundExecutionId,
    ∀ otherId ∈ other.after.boundExecutionId, id = otherId
  requests : ∀ step ∈ run, ∀ request ∈ step.handled, ∃ id,
    step.after.boundExecutionId = some id ∧ request.httpRequestId = some id
  traces : ∀ id traces, delivered = some (id, traces) →
    ∃ step ∈ run, step.after.boundExecutionId = some id

/-- A legacy request names the execution of the connection, or, on a connection that is not
bound, one that is registered. -/
def NamesExecution (step : Step Method Payload Trace) : Prop :=
  ∀ request, step.received.line = .legacy request → ∃ id, request.httpRequestId = some id ∧
    (step.before.boundExecutionId = some id ∨
      step.before.boundExecutionId = none ∧ (step.received.executions id).isSome)

/-! ## Bindings -/

variable {connection : Connection Trace} {received : Received Method Payload Trace}
  {lines : List (Received Method Payload Trace)} {step : Step Method Payload Trace}

/-- A line leaves the binding as it is, or binds the connection to a registered execution. -/
theorem process_binding (connection : Connection Trace)
    (received : Received Method Payload Trace) :
    (process connection received).connection.boundExecutionId = connection.boundExecutionId ∨
      connection.boundExecutionId = none ∧ ∃ id,
        (process connection received).connection.boundExecutionId = some id ∧
          (received.executions id).isSome := by
  cases hline : received.line with
  | register executionId =>
      simp only [process, hline]
      cases hbound : connection.boundExecutionId with
      | some => exact .inl hbound
      | none =>
          cases hregistered : received.executions executionId with
          | none => exact .inl hbound
          | some => exact .inr ⟨rfl, executionId, rfl, by simp [hregistered]⟩
  | legacy request =>
      simp only [process, hline, bindLegacy]
      cases hbound : connection.boundExecutionId with
      | some => exact .inl hbound
      | none =>
          dsimp only
          cases hregistered : received.executions
              (request.httpRequestId.getD request.requestId) with
          | none => exact .inl hbound
          | some => exact .inr ⟨rfl, _, rfl, by simp [hregistered]⟩
  | apiRequest =>
      simp only [process, hline]
      cases hbound : connection.boundExecutionId <;> exact .inl hbound
  | trace =>
      simp only [process, hline]
      split_ifs <;> exact .inl rfl
  | malformed | shutdown | apiResponse =>
      simp only [process, hline]
      exact .inl trivial

theorem process_keeps {id : String} (hbound : connection.boundExecutionId = some id) :
    (process connection received).connection.boundExecutionId = some id := by
  rcases process_binding connection received with hkept | ⟨hnone, -⟩
  · rw [hkept, hbound]
  · simp [hbound] at hnone

/-- Typed requests carry the id of the connection. -/
theorem process_handled {request : Request Method Payload}
    (hhandled : (process connection received).handled = some request) :
    received.line = .legacy request ∨ ∃ id,
      (process connection received).connection.boundExecutionId = some id ∧
        request.httpRequestId = some id := by
  cases hline : received.line with
  | apiRequest =>
      simp only [process, hline] at hhandled ⊢
      cases hbound : connection.boundExecutionId with
      | none => simp [hbound] at hhandled
      | some id =>
          rw [hbound] at hhandled
          cases hhandled
          exact .inr ⟨id, hbound, rfl⟩
  | legacy =>
      simp only [process, hline] at hhandled
      cases hhandled
      exact .inl rfl
  | register =>
      simp only [process, hline] at hhandled
      split at hhandled
      · simp at hhandled
      · split at hhandled <;> simp at hhandled
  | trace =>
      simp only [process, hline] at hhandled
      split_ifs at hhandled
  | malformed | shutdown | apiResponse => simp [process, hline] at hhandled

/-! ## Runs -/

theorem mem_steps (hstep : step ∈ steps connection lines) :
    step.after = (process step.before step.received).connection ∧
      step.handled = (process step.before step.received).handled := by
  induction lines generalizing connection with
  | nil => cases hstep
  | cons received lines ih =>
      rw [steps] at hstep
      rcases List.mem_cons.mp hstep with rfl | hlater
      · exact ⟨rfl, rfl⟩
      · split_ifs at hlater
        · exact ih hlater
        · cases hlater

/-- A bound connection stays bound to its execution. -/
theorem steps_keep {id : String} (hbound : connection.boundExecutionId = some id)
    (hstep : step ∈ steps connection lines) : step.after.boundExecutionId = some id := by
  induction lines generalizing connection with
  | nil => cases hstep
  | cons received lines ih =>
      rw [steps] at hstep
      have hafter : (process connection received).connection.boundExecutionId = some id :=
        process_keeps hbound
      rcases List.mem_cons.mp hstep with rfl | hlater
      · exact hafter
      · split_ifs at hlater
        · exact ih hafter hlater
        · cases hlater

/-- Every binding was made by a line while its execution was registered. -/
theorem steps_binding {id : String} (hnone : connection.boundExecutionId = none)
    (hstep : step ∈ steps connection lines) (hid : step.after.boundExecutionId = some id) :
    ∃ earlier ∈ steps connection lines, earlier.before.boundExecutionId = none ∧
      earlier.after.boundExecutionId = some id ∧ (earlier.received.executions id).isSome := by
  induction lines generalizing connection with
  | nil => cases hstep
  | cons received lines ih =>
      rw [steps] at hstep ⊢
      rcases process_binding connection received with hkept | ⟨-, bound, hbound, hregistered⟩
      · rcases List.mem_cons.mp hstep with rfl | hlater
        · simp [hkept, hnone] at hid
        · split_ifs at hlater ⊢
          · obtain ⟨earlier, hmem, hearlier⟩ := ih (hkept.trans hnone) hlater
            exact ⟨earlier, List.mem_cons_of_mem _ hmem, hearlier⟩
          · cases hlater
      · have hsame : bound = id := by
          rcases List.mem_cons.mp hstep with rfl | hlater
          · exact Option.some.inj (hbound.symm.trans hid)
          · split_ifs at hlater
            · exact Option.some.inj ((steps_keep hbound hlater).symm.trans hid)
            · cases hlater
        exact ⟨_, List.mem_cons_self, hnone, hbound.trans (congrArg some hsame),
          hsame ▸ hregistered⟩

/-- There is one execution that a connection is ever bound to. -/
theorem steps_single (hnone : connection.boundExecutionId = none)
    (lines : List (Received Method Payload Trace)) :
    ∃ id, ∀ step ∈ steps connection lines, ∀ bound ∈ step.after.boundExecutionId,
      bound = id := by
  induction lines generalizing connection with
  | nil => exact ⟨"", List.forall_mem_nil _⟩
  | cons received lines ih =>
      rw [steps]
      rcases process_binding connection received with hkept | ⟨-, first, hfirst, -⟩
      · obtain ⟨id, hlater⟩ := ih (hkept.trans hnone)
        refine ⟨id, List.forall_mem_cons.mpr ⟨?_, ?_⟩⟩
        · simp [hkept, hnone]
        · split_ifs
          · exact hlater
          · exact List.forall_mem_nil _
      · refine ⟨first, List.forall_mem_cons.mpr ⟨?_, ?_⟩⟩
        · simp [hfirst]
        · split_ifs
          · intro step hstep bound hbound
            exact Option.some.inj (hbound.symm.trans (steps_keep hfirst hstep))
          · exact List.forall_mem_nil _

/-- Traces go to the execution that the connection is bound to. -/
theorem deliverTraces_bound {executions : Executions} {id : String} {traces : List Trace}
    (hdelivered : deliverTraces connection executions = some (id, traces)) :
    connection.boundExecutionId = some id := by
  rw [deliverTraces] at hdelivered
  split_ifs at hdelivered
  cases hbound : connection.boundExecutionId with
  | none => simp [hbound] at hdelivered
  | some bound =>
      simp only [hbound] at hdelivered
      split at hdelivered
      · cases hdelivered
        rfl
      · cases hdelivered

theorem namesExecution_iff (hstep : step ∈ steps connection lines) :
    (∀ request ∈ step.handled, ∃ id, step.after.boundExecutionId = some id ∧
      request.httpRequestId = some id) ↔ NamesExecution step := by
  obtain ⟨hafter, hhandled⟩ := mem_steps hstep
  constructor
  · intro hrequests request hline
    obtain ⟨id, hid, hrequest⟩ := hrequests request (by rw [hhandled, process, hline]; rfl)
    refine ⟨id, hrequest, ?_⟩
    rw [hafter] at hid
    rcases process_binding step.before step.received with
      hkept | ⟨hnone, bound, hbound, hregistered⟩
    · exact .inl (hkept.symm.trans hid)
    · rw [hbound] at hid
      cases hid
      exact .inr ⟨hnone, hregistered⟩
  · intro hnames request hrequest
    rw [hhandled] at hrequest
    rw [hafter]
    rcases process_handled hrequest with hline | hbound
    · obtain ⟨id, hid, hbefore | ⟨hnone, hregistered⟩⟩ := hnames request hline
      · exact ⟨id, process_keeps hbefore, hid⟩
      · obtain ⟨hasTraces, htraces⟩ := Option.isSome_iff_exists.mp hregistered
        refine ⟨id, ?_, hid⟩
        simp [process, hline, bindLegacy, hnone, hid, htraces]
    · exact hbound

/-- A connection acts for one registered execution exactly if each of its legacy requests
names that execution, or a registered one while the connection is not bound. -/
theorem connection_actsForOne_iff (lines : List (Received Method Payload Trace))
    (executions : Executions) :
    ActsForOne (handleConnection lines executions).1 (handleConnection lines executions).2 ↔
      ∀ step ∈ (handleConnection lines executions).1, NamesExecution step := by
  constructor
  · intro hacts step hstep
    exact (namesExecution_iff hstep).mp (hacts.requests step hstep)
  · intro hnames
    refine ⟨?_, ?_, ?_, ?_⟩
    · intro step hstep id hid
      exact steps_binding rfl hstep hid
    · intro step hstep other hother id hid otherId hotherId
      have hnew : (Connection.new : Connection Trace).boundExecutionId = none := rfl
      obtain ⟨single, hsingle⟩ := steps_single hnew lines
      exact (hsingle step hstep id hid).trans (hsingle other hother otherId hotherId).symm
    · intro step hstep
      exact (namesExecution_iff hstep).mpr (hnames step hstep)
    · intro id traces hdelivered
      have hbound := deliverTraces_bound hdelivered
      rw [final] at hbound
      cases hlast : (steps Connection.new lines).getLast? with
      | none =>
          rw [hlast] at hbound
          cases hbound
      | some last =>
          rw [hlast] at hbound
          exact ⟨last, List.mem_of_getLast? hlast, hbound⟩

end Code

/-! ## A legacy request for somebody else -/

/-- The lines of a connection while only the execution `exec-1` is registered. -/
def sampleLine (line : Line Unit Unit Unit) : Received Unit Unit Unit :=
  ⟨line, fun id => if id = "exec-1" then some false else none, true⟩

def sampleRequest (httpRequestId : Option String) : Request Unit Unit :=
  ⟨"req-1", "relayer-1", (), (), httpRequestId, none⟩

/-- A connection registers for one execution and makes a request for another one. -/
def sampleLines : List (Received Unit Unit Unit) :=
  [sampleLine (.register "exec-1"), sampleLine (.legacy (sampleRequest (some "exec-2")))]

/-- The request is handed to the API with the id that the plugin wrote into it. -/
theorem request_of_other_execution_handled :
    ((handleConnection sampleLines fun _ => none).1.map fun step =>
        (step.after.boundExecutionId, step.handled)) =
      [(some "exec-1", none), (some "exec-1", some (sampleRequest (some "exec-2")))] ∧
      ¬ ActsForOne (handleConnection sampleLines fun _ => none).1
        (handleConnection sampleLines fun _ => none).2 := by
  have hsteps : ((handleConnection sampleLines fun _ => none).1.map fun step =>
      (step.after.boundExecutionId, step.handled)) =
        [(some "exec-1", none), (some "exec-1", some (sampleRequest (some "exec-2")))] := by
    decide
  refine ⟨hsteps, fun hacts => ?_⟩
  have hmem : (some "exec-1", some (sampleRequest (some "exec-2"))) ∈
      (handleConnection sampleLines fun _ => none).1.map fun step =>
        (step.after.boundExecutionId, step.handled) := by
    rw [hsteps]
    decide
  obtain ⟨step, hstep, hseen⟩ := List.mem_map.mp hmem
  obtain ⟨hbound, hhandled⟩ := Prod.mk.inj hseen
  obtain ⟨id, hid, hnamed⟩ := hacts.requests step hstep _ hhandled
  rw [hbound] at hid
  cases hid
  exact absurd hnamed (by decide)

end Relayer.SharedSocket
