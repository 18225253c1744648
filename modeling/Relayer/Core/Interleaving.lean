import Relayer.Core.Program

/-!
# Interleaved programs

Several programs share one state and take turns, one call at a time and in any
order.  Between two calls of one program every other program may move, the
environment may act, and a program may be lost.

A run is a list of moves; a system may be restricted to the calls, the answers or
the events that a condition admits.
-/

namespace Relayer.Interleaving

open Relayer.Interaction

/-- How the shared state answers.  `serve` lists the states that may follow when a
request gets an answer; the empty list means that this answer is impossible. -/
structure System (Call : Type) (Answer : Call → Type) (State Event Kind Result : Type)
    where
  launch : Kind → Option (Program Call Answer Result)
  serve : State → Kind → (request : Call) → Answer request → List State
  occur : State → Event → List State
  crash : State → Kind → Option State

/-- The shared state and what is left of each program. -/
structure Config (Call : Type) (Answer : Call → Type) (State Kind Result : Type) where
  state : State
  jobs : List (Kind × Program Call Answer Result)

/-- One move of a run.  Where several states may follow, `pick` chooses one. -/
inductive Action (Call : Type) (Answer : Call → Type) (Event Kind : Type) where
  | start (kind : Kind)
  | advance (index : ℕ) (answers : (request : Call) → Answer request) (pick : ℕ)
  | occur (event : Event) (pick : ℕ)
  | crash (index : ℕ)

variable {Call : Type} {Answer : Call → Type} {State Event Kind Result : Type}
  {system : System Call Answer State Event Kind Result}
  {config next : Config Call Answer State Kind Result} {action : Action Call Answer Event Kind}
  {state after : State} {kind : Kind}

def Program.isDone : Program Call Answer Result → Bool
  | .done _ => true
  | .call _ _ => false

/-- All programs have come to their end. -/
def Config.Idle (config : Config Call Answer State Kind Result) : Prop :=
  ∀ job ∈ config.jobs, ∃ result, job.2 = .done result

theorem Config.idle_of_all (hall : config.jobs.all (Program.isDone ·.2) = true) :
    config.Idle := by
  intro job hmem
  have hdone := List.all_eq_true.mp hall job hmem
  cases hprogram : job.2 with
  | done result => exact ⟨result, rfl⟩
  | call request next =>
      rw [hprogram] at hdone
      cases hdone

namespace System

/-- The same system, except that a call is only served where it is admitted. -/
def restrict (system : System Call Answer State Event Kind Result)
    (admits : State → Kind → Call → Bool) :
    System Call Answer State Event Kind Result :=
  { system with
    serve := fun state kind request answer =>
      if admits state kind request then system.serve state kind request answer else [] }

theorem mem_serve_restrict {admits : State → Kind → Call → Bool} {request : Call}
    {answer : Answer request} :
    after ∈ (system.restrict admits).serve state kind request answer ↔
      admits state kind request = true ∧ after ∈ system.serve state kind request answer := by
  simp only [restrict]
  by_cases hadmits : admits state kind request = true
  · simp [hadmits]
  · simp [hadmits]

/-- The same system, except that a call is only answered where that answer is admitted. -/
def restrictAnswers (system : System Call Answer State Event Kind Result)
    (admits : State → Kind → (request : Call) → Answer request → Bool) :
    System Call Answer State Event Kind Result :=
  { system with
    serve := fun state kind request answer =>
      if admits state kind request answer then system.serve state kind request answer else [] }

theorem mem_serve_restrictAnswers
    {admits : State → Kind → (request : Call) → Answer request → Bool} {request : Call}
    {answer : Answer request} :
    after ∈ (system.restrictAnswers admits).serve state kind request answer ↔
      admits state kind request answer = true ∧
        after ∈ system.serve state kind request answer := by
  simp only [restrictAnswers]
  by_cases hadmits : admits state kind request answer = true
  · simp [hadmits]
  · simp [hadmits]

section Runs

variable [DecidableEq Kind]

def step (system : System Call Answer State Event Kind Result)
    (config : Config Call Answer State Kind Result) :
    Action Call Answer Event Kind → Option (Config Call Answer State Kind Result)
  | .start kind =>
      if kind ∈ config.jobs.map Prod.fst then none
      else (system.launch kind).map fun program =>
        ⟨config.state, config.jobs ++ [(kind, program)]⟩
  | .advance index answers pick =>
      match config.jobs[index]? with
      | some (kind, .call request next) =>
          ((system.serve config.state kind request (answers request))[pick]?).map fun after =>
            ⟨after, config.jobs.set index (kind, next (answers request))⟩
      | _ => none
  | .occur event pick =>
      ((system.occur config.state event)[pick]?).map fun after => ⟨after, config.jobs⟩
  | .crash index =>
      match config.jobs[index]? with
      | some (kind, _) =>
          (system.crash config.state kind).map fun after =>
            ⟨after, config.jobs.eraseIdx index⟩
      | none => none

/-- The configurations that a run can reach. -/
inductive Reachable (system : System Call Answer State Event Kind Result)
    (first : Config Call Answer State Kind Result) :
    Config Call Answer State Kind Result → Prop
  | refl : Reachable system first first
  | step {config next : Config Call Answer State Kind Result}
      {action : Action Call Answer Event Kind} (before : Reachable system first config)
      (hstep : system.step config action = some next) : Reachable system first next

/-- Takes the given moves in turn. -/
def execute (system : System Call Answer State Event Kind Result)
    (config : Config Call Answer State Kind Result) :
    List (Action Call Answer Event Kind) → Option (Config Call Answer State Kind Result)
  | [] => some config
  | action :: rest => (system.step config action).bind fun next => system.execute next rest

theorem Reachable.execute {first last : Config Call Answer State Kind Result}
    {actions : List (Action Call Answer Event Kind)} (before : Reachable system first config)
    (hlast : system.execute config actions = some last) : Reachable system first last := by
  induction actions generalizing config with
  | nil =>
      cases hlast
      exact before
  | cons action rest ih =>
      rw [System.execute, Option.bind_eq_some_iff] at hlast
      obtain ⟨next, hnext, hrest⟩ := hlast
      exact ih (before.step hnext) hrest

/-- What is seen at the end of a run is seen in a configuration that can be reached. -/
theorem reachable_of_execute {Seen : Type} {first : Config Call Answer State Kind Result}
    {actions : List (Action Call Answer Event Kind)}
    {look : Config Call Answer State Kind Result → Seen} {seen : Seen}
    (hseen : (system.execute first actions).map look = some seen) :
    ∃ config, Reachable system first config ∧ look config = seen := by
  obtain ⟨config, hexecute, hlook⟩ := Option.map_eq_some_iff.mp hseen
  exact ⟨config, Reachable.refl.execute hexecute, hlook⟩

/-- What one move does: it starts a program under a new name, serves one call, lets
the environment act or loses a program. -/
theorem step_cases (hstep : system.step config action = some next) :
    (∃ kind program, kind ∉ config.jobs.map Prod.fst ∧ system.launch kind = some program ∧
        next = ⟨config.state, config.jobs ++ [(kind, program)]⟩) ∨
      (∃ index kind request rest answer after,
        config.jobs[index]? = some (kind, .call request rest) ∧
        after ∈ system.serve config.state kind request answer ∧
        next = ⟨after, config.jobs.set index (kind, rest answer)⟩) ∨
      (∃ event after, after ∈ system.occur config.state event ∧
        next = ⟨after, config.jobs⟩) ∨
      (∃ index kind program after, config.jobs[index]? = some (kind, program) ∧
        system.crash config.state kind = some after ∧
        next = ⟨after, config.jobs.eraseIdx index⟩) := by
  cases action with
  | start kind =>
      simp only [step] at hstep
      by_cases hused : kind ∈ config.jobs.map Prod.fst
      · rw [if_pos hused] at hstep
        cases hstep
      · rw [if_neg hused, Option.map_eq_some_iff] at hstep
        obtain ⟨program, hlaunch, rfl⟩ := hstep
        exact .inl ⟨kind, program, hused, hlaunch, rfl⟩
  | advance index answers pick =>
      simp only [step] at hstep
      split at hstep
      · next kind request rest hjob =>
          rw [Option.map_eq_some_iff] at hstep
          obtain ⟨after, hafter, rfl⟩ := hstep
          exact .inr (.inl ⟨index, kind, request, rest, answers request, after, hjob,
            List.mem_of_getElem? hafter, rfl⟩)
      · cases hstep
  | occur event pick =>
      rw [step, Option.map_eq_some_iff] at hstep
      obtain ⟨after, hafter, rfl⟩ := hstep
      exact .inr (.inr (.inl ⟨event, after, List.mem_of_getElem? hafter, rfl⟩))
  | crash index =>
      simp only [step] at hstep
      split at hstep
      · next kind program hjob =>
          rw [Option.map_eq_some_iff] at hstep
          obtain ⟨after, hafter, rfl⟩ := hstep
          exact .inr (.inr (.inr ⟨index, kind, program, after, hjob, hafter, rfl⟩))
      · cases hstep

end Runs

end System

/-- Names tell programs apart. -/
theorem name_ne_of_index_ne {jobs : List (Kind × Program Call Answer Result)}
    (hnodup : (jobs.map Prod.fst).Nodup) {index position : ℕ}
    {job other : Kind × Program Call Answer Result} (hjob : jobs[index]? = some job)
    (hother : jobs[position]? = some other) (hne : position ≠ index) :
    other.1 ≠ job.1 := by
  intro hsame
  have hlength : position < (jobs.map Prod.fst).length := by
    rw [List.length_map]
    exact (List.getElem?_eq_some_iff.mp hother).1
  apply hne
  apply (List.getElem?_inj hlength hnodup).mp
  rw [List.getElem?_map, List.getElem?_map, hjob, hother, Option.map_some, Option.map_some,
    hsame]

theorem map_fst_set {jobs : List (Kind × Program Call Answer Result)} {index : ℕ}
    {program rest : Program Call Answer Result} (hjob : jobs[index]? = some (kind, program)) :
    (jobs.set index (kind, rest)).map Prod.fst = jobs.map Prod.fst := by
  apply List.ext_getElem?
  intro position
  rw [List.getElem?_map, List.getElem?_map, List.getElem?_set]
  by_cases hsame : index = position
  · subst hsame
    rw [if_pos rfl, if_pos (List.getElem?_eq_some_iff.mp hjob).1, hjob]
    rfl
  · rw [if_neg hsame]

/-! ## Stores

What a store answers is true.  A write that fails leaves open whether it took effect. -/

section Stores

variable {Value Error : Type} [DecidableEq Value]

/-- `after` follows on a true answer, and one of the states of `failed` on an error. -/
def answered (after : State) (failed : List State) (value : Value) :
    Except Error Value → List State
  | .ok told => if told = value then [after] else []
  | .error _ => failed

def readFrom (state : State) (value : Value) : Except Error Value → List State :=
  answered state [state] value

def written (before after : State) (value : Value) : Except Error Value → List State :=
  answered after [before, after] value

theorem mem_answered_ok {applied : State} {failed : List State} {value told : Value} :
    after ∈ answered applied failed value (.ok told : Except Error Value) ↔
      told = value ∧ after = applied := by
  rw [answered, List.mem_ite_nil_right, List.mem_singleton]

theorem mem_readFrom {value : Value} {answer : Except Error Value} :
    after ∈ readFrom state value answer ↔
      after = state ∧ ∀ told, answer = .ok told → told = value := by
  cases answer with
  | error error => simp [readFrom, answered]
  | ok told => simp [readFrom, mem_answered_ok, and_comm]

theorem mem_written {before applied : State} {value : Value} {answer : Except Error Value}
    (hafter : after ∈ written before applied value answer) :
    (after = applied ∧ ∀ told, answer = .ok told → told = value) ∨
      (after = before ∧ ∀ told, answer ≠ .ok told) := by
  cases answer with
  | error error =>
      rcases List.mem_pair.mp hafter with rfl | rfl
      · exact .inr ⟨rfl, fun _ => nofun⟩
      · exact .inl ⟨rfl, fun _ => nofun⟩
  | ok told =>
      obtain ⟨htold, hafter⟩ := mem_answered_ok.mp hafter
      exact .inl ⟨hafter, fun _ hanswer => (Except.ok.inj hanswer).symm.trans htold⟩

end Stores

end Relayer.Interleaving
