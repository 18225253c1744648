import Mathlib

/-!
# Programs that call out

A program is a tree of calls: each node asks the outside world for one answer
and continues with it.  Repositories, providers, signers and queues all stand
behind such calls, so a function of the source keeps its control flow while every
answer the world could give stays possible.  An oracle that answers the `n`-th
call turns a program into its result together with the calls it made.
-/

namespace Relayer.Interaction

inductive Program (Call : Type) (Answer : Call → Type) (Result : Type) where
  | done (result : Result)
  | call (request : Call) (next : Answer request → Program Call Answer Result)

namespace Program

variable {Call : Type} {Answer : Call → Type} {A B Result : Type}

/-- Continues with the second program where the first one ends. -/
def bind (program : Program Call Answer A) (next : A → Program Call Answer B) :
    Program Call Answer B :=
  match program with
  | .done result => next result
  | .call request rest => .call request fun answer => (rest answer).bind next

instance : Monad (Program Call Answer) where
  pure := .done
  bind := Program.bind

/-- The program that makes a single call and returns its answer. -/
def ask (request : Call) : Program Call Answer (Answer request) :=
  .call request .done

variable {allowed : Call → Prop} {program : Program Call Answer A}
  {next : A → Program Call Answer B}

@[simp]
theorem pure_eq_done (result : A) :
    (pure result : Program Call Answer A) = .done result := rfl

@[simp]
theorem done_bind (result : A) (next : A → Program Call Answer B) :
    (.done result : Program Call Answer A) >>= next = next result := rfl

@[simp]
theorem call_bind (request : Call) (rest : Answer request → Program Call Answer A)
    (next : A → Program Call Answer B) :
    (.call request rest : Program Call Answer A) >>= next =
      .call request fun answer => rest answer >>= next := rfl

theorem bind_done (program : Program Call Answer A) :
    program >>= .done = program := by
  induction program with
  | done result => rfl
  | call request next ih =>
      rw [call_bind]
      congr
      funext answer
      exact ih answer

theorem bind_assoc' (program : Program Call Answer A)
    (next : A → Program Call Answer B) (last : B → Program Call Answer Result) :
    program >>= next >>= last = program >>= fun value => next value >>= last := by
  induction program with
  | done result => rfl
  | call request rest ih =>
      rw [call_bind, call_bind, call_bind]
      congr
      funext answer
      exact ih answer

instance : LawfulMonad (Program Call Answer) :=
  LawfulMonad.mk' _ bind_done (fun _ _ => rfl) bind_assoc'

/-- Every call the program can make is allowed. -/
def CallsOnly (allowed : Call → Prop) : Program Call Answer A → Prop
  | .done _ => True
  | .call request next => allowed request ∧ ∀ answer, (next answer).CallsOnly allowed

theorem CallsOnly.bind (hfirst : program.CallsOnly allowed)
    (hnext : ∀ value, (next value).CallsOnly allowed) :
    (program >>= next).CallsOnly allowed := by
  induction program with
  | done result => exact hnext result
  | call request rest ih => exact ⟨hfirst.1, fun answer => ih answer (hfirst.2 answer)⟩

theorem callsOnly_true (program : Program Call Answer A) :
    program.CallsOnly fun _ => True := by
  induction program with
  | done result => trivial
  | call request rest ih => exact ⟨trivial, ih⟩

theorem CallsOnly.mono {wider : Call → Prop} (hcalls : program.CallsOnly allowed)
    (hwider : ∀ request, allowed request → wider request) :
    program.CallsOnly wider := by
  induction program with
  | done result => trivial
  | call request rest ih =>
      exact ⟨hwider request hcalls.1, fun answer => ih answer (hcalls.2 answer)⟩

/-- Every result the program can end with is as described. -/
def Returns (good : A → Prop) : Program Call Answer A → Prop
  | .done result => good result
  | .call _ next => ∀ answer, (next answer).Returns good

theorem Returns.bind {middle : A → Prop} {good : B → Prop} (hfirst : program.Returns middle)
    (hnext : ∀ value, middle value → (next value).Returns good) :
    (program >>= next).Returns good := by
  induction program with
  | done result => exact hnext result hfirst
  | call request rest ih => exact fun answer => ih answer (hfirst answer)

theorem Returns.imp {strong weak : A → Prop} (hreturns : program.Returns strong)
    (himp : ∀ result, strong result → weak result) : program.Returns weak := by
  induction program with
  | done result => exact himp result hreturns
  | call request rest ih => exact fun answer => ih answer (hreturns answer)

section Embed

variable {Wide : Type} {WideAnswer : Wide → Type} (into : Call → Wide)
  (back : (request : Call) → WideAnswer (into request) → Answer request)

/-- The same program as a part of one with more calls. -/
def embed : Program Call Answer A → Program Wide WideAnswer A
  | .done result => .done result
  | .call request next => .call (into request) fun answer => (next (back request answer)).embed

theorem CallsOnly.embed {wideAllowed : Wide → Prop} (hcalls : program.CallsOnly allowed)
    (hallowed : ∀ request, allowed request → wideAllowed (into request)) :
    (program.embed into back).CallsOnly wideAllowed := by
  induction program with
  | done result => trivial
  | call request rest ih =>
      exact ⟨hallowed request hcalls.1, fun answer =>
        ih (back request answer) (hcalls.2 (back request answer))⟩

end Embed

/-- The program, with each of its calls carried out by a program of other calls. -/
def expand {Fine : Type} {FineAnswer : Fine → Type}
    (carry : (request : Call) → Program Fine FineAnswer (Answer request)) :
    Program Call Answer A → Program Fine FineAnswer A
  | .done result => .done result
  | .call request next => carry request >>= fun answer => (next answer).expand carry

/-- An oracle answers the `n`-th call of a run; it may answer equal requests
differently at different times. -/
abbrev Oracle (Call : Type) (Answer : Call → Type) :=
  ℕ → (request : Call) → Answer request

/-- The result of a run and the calls it made, from the `n`-th call on. -/
def run (oracle : Oracle Call Answer) : Program Call Answer A → ℕ → A × List Call
  | .done result, _ => (result, [])
  | .call request next, n =>
      let (result, calls) := (next (oracle n request)).run oracle (n + 1)
      (result, request :: calls)

@[simp]
theorem run_done (oracle : Oracle Call Answer) (result : A) (n : ℕ) :
    run oracle (.done result) n = (result, []) := rfl

@[simp]
theorem run_ask (oracle : Oracle Call Answer) (request : Call) (n : ℕ) :
    run oracle (ask request) n = (oracle n request, [request]) := rfl

theorem run_bind (oracle : Oracle Call Answer) (program : Program Call Answer A)
    (next : A → Program Call Answer B) (n : ℕ) :
    run oracle (program >>= next) n =
      let (value, calls) := run oracle program n
      let (result, calls') := run oracle (next value) (n + calls.length)
      (result, calls ++ calls') := by
  induction program generalizing n with
  | done result => rfl
  | call request rest ih =>
      rw [call_bind, run, ih]
      simp only [run, List.length_cons, List.cons_append]
      rw [Nat.add_right_comm, Nat.add_assoc]

/-- A part of a program with more calls runs as it would alone. -/
theorem run_embed {Wide : Type} {WideAnswer : Wide → Type} (into : Call → Wide)
    (back : (request : Call) → WideAnswer (into request) → Answer request)
    (oracle : Oracle Wide WideAnswer) (program : Program Call Answer A) (n : ℕ) :
    (program.embed into back).run oracle n =
      ((program.run (fun k request => back request (oracle k (into request))) n).1,
        (program.run (fun k request => back request (oracle k (into request))) n).2.map into) := by
  induction program generalizing n with
  | done result => rfl
  | call request rest ih =>
      rw [embed, run, ih]
      rfl

/-- What every call of a program is, every call of a run is. -/
theorem CallsOnly.run (hcalls : program.CallsOnly allowed) (oracle : Oracle Call Answer) (n : ℕ) :
    ∀ request ∈ (program.run oracle n).2, allowed request := by
  induction program generalizing n with
  | done result => exact fun _ hmem => nomatch hmem
  | call request rest ih =>
      intro asked hmem
      rcases List.mem_cons.mp hmem with rfl | hmem
      · exact hcalls.1
      · exact ih (oracle n request) (hcalls.2 _) (n + 1) asked hmem

/-- Runs a program alone against a state that answers its calls. -/
def handle {State : Type} (serve : State → (request : Call) → Answer request × State) :
    Program Call Answer A → State → A × State
  | .done result, state => (result, state)
  | .call request next, state =>
      (next (serve state request).1).handle serve (serve state request).2

theorem handle_bind {State : Type}
    (serve : State → (request : Call) → Answer request × State)
    (program : Program Call Answer A) (next : A → Program Call Answer B) (state : State) :
    handle serve (program >>= next) state =
      handle serve (next (handle serve program state).1) (handle serve program state).2 := by
  induction program generalizing state with
  | done result => rfl
  | call request rest ih =>
      rw [call_bind, handle, ih]
      rfl

end Program

/-- A program that may also fail. -/
abbrev Task (Call : Type) (Answer : Call → Type) (Error A : Type) :=
  ExceptT Error (Program Call Answer) A

namespace Task

open Program

variable {Call : Type} {Answer : Call → Type} {Error A B : Type}

/-- A call whose answer is used as it comes. -/
def ask (request : Call) : Task Call Answer Error (Answer request) :=
  ExceptT.lift (Program.ask request)

/-- A value or a failure computed without calling out. -/
def ofExcept (value : Except Error A) : Task Call Answer Error A :=
  ExceptT.mk (.done value)

/-- Runs a task and hands its failure over as a value. -/
def attempt {Other : Type} (task : Task Call Answer Error A) :
    Task Call Answer Other (Except Error A) :=
  ExceptT.lift task.run

def exec (oracle : Oracle Call Answer) (task : Task Call Answer Error A) (n : ℕ) :
    Except Error A × List Call :=
  Program.run oracle task.run n

variable {State : Type} {allowed : Call → Prop} {task : Task Call Answer Error A}
  {next : A → Task Call Answer Error B}

@[simp]
theorem exec_pure (oracle : Oracle Call Answer) (value : A) (n : ℕ) :
    exec oracle (pure value : Task Call Answer Error A) n = (.ok value, []) := rfl

@[simp]
theorem exec_throw (oracle : Oracle Call Answer) (error : Error) (n : ℕ) :
    exec oracle (throw error : Task Call Answer Error A) n = (.error error, []) := rfl

@[simp]
theorem exec_ofExcept (oracle : Oracle Call Answer) (value : Except Error A) (n : ℕ) :
    exec oracle (ofExcept value : Task Call Answer Error A) n = (value, []) := rfl

@[simp]
theorem exec_ask (oracle : Oracle Call Answer) (request : Call) (n : ℕ) :
    exec oracle (ask request : Task Call Answer Error _) n =
      (.ok (oracle n request), [request]) := rfl

theorem exec_attempt {Other : Type} (oracle : Oracle Call Answer)
    (task : Task Call Answer Error A) (n : ℕ) :
    exec oracle (attempt task : Task Call Answer Other _) n =
      (.ok (exec oracle task n).1, (exec oracle task n).2) := by
  change run oracle (task.run >>= fun value => .done (Except.ok value)) n = _
  rw [run_bind]
  simp [exec]

theorem exec_bind (oracle : Oracle Call Answer) (task : Task Call Answer Error A)
    (next : A → Task Call Answer Error B) (n : ℕ) :
    exec oracle (task >>= next) n =
      match exec oracle task n with
      | (.ok value, calls) =>
          let (result, calls') := exec oracle (next value) (n + calls.length)
          (result, calls ++ calls')
      | (.error error, calls) => (.error error, calls) := by
  simp only [exec, ExceptT.run_bind, run_bind]
  rcases run oracle task.run n with ⟨result, calls⟩
  cases result with
  | ok value => rfl
  | error error => simp

theorem callsOnly_ask {request : Call} (hallowed : allowed request) :
    (ask request : Task Call Answer Error _).run.CallsOnly allowed :=
  ⟨hallowed, fun _ => trivial⟩

theorem callsOnly_ofExcept {value : Except Error A} :
    (ofExcept value : Task Call Answer Error A).run.CallsOnly allowed := trivial

theorem callsOnly_attempt {Other : Type} (hcalls : task.run.CallsOnly allowed) :
    (attempt task : Task Call Answer Other _).run.CallsOnly allowed :=
  hcalls.bind fun _ => trivial

theorem callsOnly_bind (hfirst : task.run.CallsOnly allowed)
    (hnext : ∀ value, (next value).run.CallsOnly allowed) :
    (task >>= next).run.CallsOnly allowed := by
  rw [ExceptT.run_bind]
  apply CallsOnly.bind hfirst
  intro outcome
  cases outcome with
  | ok value => exact hnext value
  | error error => trivial

theorem callsOnly_ask_bind {request : Call} {next : Answer request → Task Call Answer Error B}
    (hallowed : allowed request) (hnext : ∀ answer, (next answer).run.CallsOnly allowed) :
    (ask request >>= next).run.CallsOnly allowed :=
  callsOnly_bind (callsOnly_ask hallowed) hnext

/-- The state that a task runs against. -/
def handle {State : Type} (serve : State → (request : Call) → Answer request × State)
    (task : Task Call Answer Error A) (state : State) : Except Error A × State :=
  Program.handle serve task.run state

@[simp]
theorem handle_ofExcept (serve : State → (request : Call) → Answer request × State)
    (value : Except Error A) (state : State) :
    handle serve (ofExcept value : Task Call Answer Error A) state = (value, state) := rfl

/-- Both parts of a sequence that succeeds succeed in turn. -/
theorem handle_bind_ok {serve : State → (request : Call) → Answer request × State}
    {state after : State} {result : B} :
    handle serve (task >>= next) state = (.ok result, after) ↔
      ∃ value middle, handle serve task state = (.ok value, middle) ∧
        handle serve (next value) middle = (.ok result, after) := by
  simp only [handle, ExceptT.run_bind, Program.handle_bind]
  rcases Program.handle serve task.run state with ⟨outcome, middle⟩
  cases outcome with
  | error error => simp [Program.handle]
  | ok value => simp

/-- A sequence that succeeds succeeded in both parts. -/
theorem exec_bind_ok {oracle : Oracle Call Answer} {n : ℕ} {result : B} {calls : List Call}
    (hok : exec oracle (task >>= next) n = (.ok result, calls)) :
    ∃ value first rest, exec oracle task n = (.ok value, first) ∧
      exec oracle (next value) (n + first.length) = (.ok result, rest) ∧
      calls = first ++ rest := by
  rw [exec_bind] at hok
  rcases htask : exec oracle task n with ⟨outcome, first⟩
  rw [htask] at hok
  cases outcome with
  | error error => cases hok
  | ok value =>
      rcases hnext : exec oracle (next value) (n + first.length) with ⟨final, rest⟩
      simp only [hnext, Prod.mk.injEq] at hok
      exact ⟨value, first, rest, rfl, by rw [hok.1] at hnext; exact hnext, hok.2.symm⟩

end Task

end Relayer.Interaction
