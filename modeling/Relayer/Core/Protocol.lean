import Relayer.Core.Interleaving

/-!
# Programs that remember

What a program may ask for depends on what it was told before.  A protocol names a memory
of the answers so far, the calls that this memory allows and the answers that it leaves
possible.  A program follows a protocol by itself, without regard to the programs that run
beside it.

Where several programs share one state, each memory stands for a fact about that state.  If
every allowed call keeps the facts of the other programs, then an invariant that the
allowed calls keep holds in every run.
-/

namespace Relayer.Interaction

structure Protocol (Call : Type) (Answer : Call → Type) (Memory : Type) where
  allowed : Memory → Call → Prop
  possible : Memory → (request : Call) → Answer request → Prop
  remember : Memory → (request : Call) → Answer request → Memory

variable {Call : Type} {Answer : Call → Type} {Memory A B Error : Type}
  {protocol : Protocol Call Answer Memory}

namespace Program

/-- Every call is allowed by what is remembered, and the program ends with `goal`. -/
def Follows (protocol : Protocol Call Answer Memory) (goal : Memory → A → Prop) :
    Memory → Program Call Answer A → Prop
  | memory, .done result => goal memory result
  | memory, .call request next =>
      protocol.allowed memory request ∧ ∀ answer, protocol.possible memory request answer →
        Follows protocol goal (protocol.remember memory request answer) (next answer)

variable {memory : Memory} {goal : Memory → A → Prop} {program : Program Call Answer A}

theorem Follows.bind {middle : Memory → A → Prop} {goal : Memory → B → Prop}
    {next : A → Program Call Answer B} (hfirst : program.Follows protocol middle memory)
    (hnext : ∀ later result, middle later result → (next result).Follows protocol goal later) :
    (program >>= next).Follows protocol goal memory := by
  induction program generalizing memory with
  | done result => exact hnext memory result hfirst
  | call request rest ih =>
      exact ⟨hfirst.1, fun answer hanswer => ih answer (hfirst.2 answer hanswer)⟩

theorem Follows.imp {strong weak : Memory → A → Prop}
    (hfollows : program.Follows protocol strong memory)
    (himp : ∀ later result, strong later result → weak later result) :
    program.Follows protocol weak memory := by
  induction program generalizing memory with
  | done result => exact himp memory result hfollows
  | call request rest ih =>
      exact ⟨hfollows.1, fun answer hanswer => ih answer (hfollows.2 answer hanswer)⟩

/-- A program keeps to a protocol of finer calls if each of its calls is carried out so,
from memories that are linked to memories that are linked again. -/
theorem Follows.expand {Fine : Type} {FineAnswer : Fine → Type} {FineMemory : Type}
    {fine : Protocol Fine FineAnswer FineMemory}
    {carry : (request : Call) → Program Fine FineAnswer (Answer request)}
    {link : Memory → FineMemory → Prop} {fineGoal : FineMemory → A → Prop}
    (hcarry : ∀ memory deep request, link memory deep → protocol.allowed memory request →
      (carry request).Follows fine (fun later answer => protocol.possible memory request answer ∧
        link (protocol.remember memory request answer) later) deep)
    (hgoal : ∀ memory deep result, link memory deep → goal memory result → fineGoal deep result)
    {deep : FineMemory} (hlink : link memory deep)
    (hfollows : program.Follows protocol goal memory) :
    (program.expand carry).Follows fine fineGoal deep := by
  induction program generalizing memory deep with
  | done result => exact hgoal memory deep result hlink hfollows
  | call request rest ih =>
      apply (hcarry memory deep request hlink hfollows.1).bind
      rintro later answer ⟨hpossible, hlater⟩
      exact ih answer hlater (hfollows.2 answer hpossible)

/-- A program that is a part of one with more calls keeps to the same protocol. -/
theorem Follows.embed {Wide : Type} {WideAnswer : Wide → Type} {into : Call → Wide}
    {back : (request : Call) → WideAnswer (into request) → Answer request}
    {wide : Protocol Wide WideAnswer Memory}
    (hallowed : ∀ memory request, protocol.allowed memory request →
      wide.allowed memory (into request))
    (hpossible : ∀ memory request answer, wide.possible memory (into request) answer →
      protocol.possible memory request (back request answer))
    (hremember : ∀ memory request answer, wide.remember memory (into request) answer =
      protocol.remember memory request (back request answer))
    (hfollows : program.Follows protocol goal memory) :
    (program.embed into back).Follows wide goal memory := by
  induction program generalizing memory with
  | done result => exact hfollows
  | call request rest ih =>
      refine ⟨hallowed memory request hfollows.1, fun answer hanswer => ?_⟩
      rw [hremember]
      exact ih _ (hfollows.2 _ (hpossible memory request answer hanswer))

/-- A program whose calls are allowed by a fact that each of them keeps. -/
theorem CallsOnly.follows (protocol : Protocol Call Answer Memory) (fact : Memory → Prop)
    {callable : Call → Prop}
    (hcall : ∀ memory request, callable request → fact memory →
      protocol.allowed memory request ∧ ∀ answer, protocol.possible memory request answer →
        fact (protocol.remember memory request answer))
    (hcalls : program.CallsOnly callable) (hfact : fact memory) :
    program.Follows protocol (fun later _ => fact later) memory := by
  induction program generalizing memory with
  | done result => exact hfact
  | call request rest ih =>
      obtain ⟨hallowed, hkept⟩ := hcall memory request hcalls.1 hfact
      exact ⟨hallowed, fun answer hanswer =>
        ih answer (hcalls.2 answer) (hkept answer hanswer)⟩

/-- A program that runs alone reaches its goal, if the state gives possible answers and
stays as the program remembers it. -/
theorem Follows.handle {State : Type} (fact : Memory → State → Prop)
    {serve : State → (request : Call) → Answer request × State}
    (hserve : ∀ memory state request, fact memory state → protocol.allowed memory request →
      protocol.possible memory request (serve state request).1 ∧
        fact (protocol.remember memory request (serve state request).1) (serve state request).2)
    {state : State} (hfact : fact memory state)
    (hfollows : program.Follows protocol goal memory) :
    ∃ later, fact later (program.handle serve state).2 ∧
      goal later (program.handle serve state).1 := by
  induction program generalizing memory state with
  | done result => exact ⟨memory, hfact, hfollows⟩
  | call request rest ih =>
      obtain ⟨hpossible, hlater⟩ := hserve memory state request hfact hfollows.1
      exact ih _ hlater (hfollows.2 _ hpossible)

end Program

/-- The task follows the protocol; where it succeeds it ends with `goal`, and where it fails
with `failed`. -/
def FollowsTask (protocol : Protocol Call Answer Memory) (failed : Memory → Prop)
    (goal : Memory → A → Prop) (memory : Memory) (task : Task Call Answer Error A) : Prop :=
  task.run.Follows protocol
    (fun later outcome => (∀ error, outcome = .error error → failed later) ∧
      ∀ value, outcome = .ok value → goal later value) memory

namespace FollowsTask

variable {failed : Memory → Prop} {memory : Memory} {goal : Memory → A → Prop}
  {task : Task Call Answer Error A}

theorem pure {value : A} (hgoal : goal memory value) :
    FollowsTask protocol failed goal memory (Pure.pure value : Task Call Answer Error A) := by
  refine ⟨fun _ herror => (nomatch herror), fun result hresult => ?_⟩
  cases hresult
  exact hgoal

theorem throw {error : Error} (hfailed : failed memory) :
    FollowsTask protocol failed goal memory (throw error : Task Call Answer Error A) :=
  ⟨fun _ _ => hfailed, fun _ hresult => (nomatch hresult)⟩

theorem ofExcept {outcome : Except Error A} (hfailed : failed memory)
    (hgoal : ∀ value, outcome = .ok value → goal memory value) :
    FollowsTask protocol failed goal memory
      (Task.ofExcept outcome : Task Call Answer Error A) :=
  ⟨fun _ _ => hfailed, hgoal⟩

theorem ask {request : Call} {goal : Memory → Answer request → Prop}
    (hallowed : protocol.allowed memory request)
    (hgoal : ∀ answer, protocol.possible memory request answer →
      goal (protocol.remember memory request answer) answer) :
    FollowsTask protocol failed goal memory
      (Task.ask request : Task Call Answer Error _) := by
  refine ⟨hallowed, fun answer hanswer =>
    ⟨fun _ herror => (nomatch herror), fun value hvalue => ?_⟩⟩
  cases hvalue
  exact hgoal answer hanswer

theorem bind {middle : Memory → A → Prop} {goal : Memory → B → Prop}
    {next : A → Task Call Answer Error B}
    (hfirst : FollowsTask protocol failed middle memory task)
    (hnext : ∀ later value, middle later value →
      FollowsTask protocol failed goal later (next value)) :
    FollowsTask protocol failed goal memory (task >>= next) := by
  rw [FollowsTask, ExceptT.run_bind]
  apply Program.Follows.bind hfirst
  intro later outcome hmiddle
  cases outcome with
  | error error =>
      exact ⟨fun _ _ => hmiddle.1 error rfl, fun _ hresult => (nomatch hresult)⟩
  | ok value => exact hnext later value (hmiddle.2 value rfl)

theorem imp {weaker : Memory → Prop} {strong weak : Memory → A → Prop}
    (htask : FollowsTask protocol failed strong memory task)
    (hfailed : ∀ later, failed later → weaker later)
    (himp : ∀ later value, strong later value → weak later value) :
    FollowsTask protocol weaker weak memory task :=
  Program.Follows.imp htask fun later _ hboth =>
    ⟨fun error herror => hfailed later (hboth.1 error herror),
      fun value hvalue => himp later value (hboth.2 value hvalue)⟩

/-- A failure that is handed over ends with what it ends with. -/
theorem attempt {Other : Type} {handed : Memory → Prop}
    (htask : FollowsTask protocol failed goal memory task) :
    FollowsTask protocol handed
      (fun later outcome => (∀ error, outcome = .error error → failed later) ∧
        ∀ value, outcome = .ok value → goal later value) memory
      (Task.attempt task : Task Call Answer Other _) := by
  apply Program.Follows.bind htask
  intro later outcome hend
  refine ⟨fun _ herror => (nomatch herror), fun value hvalue => ?_⟩
  cases hvalue
  exact hend

end FollowsTask

end Relayer.Interaction

namespace Relayer.Interleaving

open Relayer.Interaction

variable {Call : Type} {Answer : Call → Type} {State Event Kind Result Memory : Type}

/-- What the programs remember is together true of the shared state: an allowed call brings
a possible answer and keeps it so, as do the environment and the loss of a program. -/
structure Maintains [DecidableEq Kind] (system : System Call Answer State Event Kind Result)
    (protocol : Kind → Protocol Call Answer Memory) (start : Memory)
    (joint : State → (Kind → Memory) → Prop) : Prop where
  serve : ∀ state memories kind request answer, (system.launch kind).isSome = true →
    joint state memories → (protocol kind).allowed (memories kind) request →
    ∀ after ∈ system.serve state kind request answer,
      (protocol kind).possible (memories kind) request answer ∧
        joint after (Function.update memories kind
          ((protocol kind).remember (memories kind) request answer))
  occur : ∀ state memories event, joint state memories →
    ∀ after ∈ system.occur state event, joint after memories
  crash : ∀ state memories kind after, joint state memories →
    system.crash state kind = some after → joint after (Function.update memories kind start)

/-- Every program keeps to its protocol from what it remembers; a name that is not in use
remembers nothing. -/
structure Config.Recalls (config : Config Call Answer State Kind Result)
    (system : System Call Answer State Event Kind Result)
    (protocol : Kind → Protocol Call Answer Memory) (ends : Kind → Memory → Result → Prop)
    (start : Memory) (memories : Kind → Memory) : Prop where
  nodup : (config.jobs.map Prod.fst).Nodup
  launched : ∀ job ∈ config.jobs, (system.launch job.1).isSome = true
  follows : ∀ job ∈ config.jobs,
    job.2.Follows (protocol job.1) (ends job.1) (memories job.1)
  unused : ∀ kind, kind ∉ config.jobs.map Prod.fst → memories kind = start

variable {config : Config Call Answer State Kind Result} {memories : Kind → Memory} {state : State}

/-- A program that has ended has reached its goal. -/
theorem Config.Recalls.ended {system : System Call Answer State Event Kind Result}
    {protocol : Kind → Protocol Call Answer Memory} {ends : Kind → Memory → Result → Prop}
    {start : Memory} (hrecalls : config.Recalls system protocol ends start memories)
    {kind : Kind} {result : Result} (hjob : (kind, .done result) ∈ config.jobs) :
    ends kind (memories kind) result :=
  hrecalls.follows _ hjob

/-- Where all programs have ended, every name remembers an end. -/
theorem Config.Recalls.idle {system : System Call Answer State Event Kind Result}
    {protocol : Kind → Protocol Call Answer Memory} {ends : Memory → Prop} {start : Memory}
    (hrecalls : config.Recalls system protocol (fun _ later _ => ends later) start memories)
    (hstart : ends start) (hidle : config.Idle) (kind : Kind) : ends (memories kind) := by
  by_cases hused : kind ∈ config.jobs.map Prod.fst
  · obtain ⟨⟨_, program⟩, hmem, rfl⟩ := List.mem_map.mp hused
    obtain ⟨result, hdone⟩ := hidle _ hmem
    cases hdone
    exact hrecalls.ended hmem
  · rw [hrecalls.unused kind hused]
    exact hstart

/-- A program that does not remember an end is still running. -/
theorem Config.Recalls.running {system : System Call Answer State Event Kind Result}
    {protocol : Kind → Protocol Call Answer Memory} {ends : Memory → Prop} {start : Memory}
    (hrecalls : config.Recalls system protocol (fun _ later _ => ends later) start memories)
    (hstart : ends start) {kind : Kind} (hmemory : ¬ ends (memories kind)) :
    ∃ request next, (kind, .call request next) ∈ config.jobs := by
  have hused : kind ∈ config.jobs.map Prod.fst := by
    by_contra hunused
    rw [hrecalls.unused kind hunused] at hmemory
    exact hmemory hstart
  obtain ⟨⟨_, program⟩, hmem, rfl⟩ := List.mem_map.mp hused
  cases program with
  | done result => exact absurd (hrecalls.ended hmem) hmemory
  | call request next => exact ⟨request, next, hmem⟩

namespace Maintains

variable [DecidableEq Kind] {system : System Call Answer State Event Kind Result}
  {protocol : Kind → Protocol Call Answer Memory} {ends : Kind → Memory → Result → Prop}
  {start : Memory} {joint : State → (Kind → Memory) → Prop}

theorem step (hmaintains : Maintains system protocol start joint)
    (hlaunch : ∀ kind program, system.launch kind = some program →
      program.Follows (protocol kind) (ends kind) start)
    {next : Config Call Answer State Kind Result} {action : Action Call Answer Event Kind}
    (hjoint : joint config.state memories)
    (hrecalls : config.Recalls system protocol ends start memories)
    (hstep : system.step config action = some next) :
    ∃ later, joint next.state later ∧ next.Recalls system protocol ends start later := by
  rcases System.step_cases hstep with ⟨kind, program, hfresh, hlaunched, rfl⟩ |
    ⟨index, kind, request, rest, answer, after, hjob, hafter, rfl⟩ |
    ⟨event, after, hafter, rfl⟩ | ⟨index, kind, program, after, hjob, hcrash, rfl⟩
  · refine ⟨memories, hjoint, ?_, fun job hmem => ?_, fun job hmem => ?_,
      fun other hunused => ?_⟩
    · rw [List.map_append, List.map_singleton, ← List.concat_eq_append]
      exact hrecalls.nodup.concat hfresh
    · rcases List.mem_append.mp hmem with hmem | hmem
      · exact hrecalls.launched job hmem
      · cases List.mem_singleton.mp hmem
        exact Option.isSome_of_eq_some hlaunched
    · rcases List.mem_append.mp hmem with hmem | hmem
      · exact hrecalls.follows job hmem
      · cases List.mem_singleton.mp hmem
        rw [hrecalls.unused kind hfresh]
        exact hlaunch kind program hlaunched
    · apply hrecalls.unused other
      intro hmem
      exact hunused (by rw [List.map_append]; exact List.mem_append_left _ hmem)
  · have hmemJob := List.mem_of_getElem? hjob
    obtain ⟨hallowed, hrest⟩ := hrecalls.follows _ hmemJob
    obtain ⟨hpossible, hlater⟩ := hmaintains.serve config.state memories kind request answer
      (hrecalls.launched _ hmemJob) hjoint hallowed after hafter
    have hnames : (config.jobs.set index (kind, rest answer)).map Prod.fst =
        config.jobs.map Prod.fst := map_fst_set hjob
    -- Another place in the list is the place of another job.
    have hplaces : ∀ job ∈ config.jobs.set index (kind, rest answer),
        job = (kind, rest answer) ∨ job ∈ config.jobs ∧ job.1 ≠ kind := by
      intro job hmem
      obtain ⟨position, hposition⟩ := List.mem_iff_getElem?.mp hmem
      rw [List.getElem?_set] at hposition
      by_cases hsame : index = position
      · rw [if_pos hsame, if_pos (List.getElem?_eq_some_iff.mp hjob).1] at hposition
        exact .inl (Option.some.inj hposition).symm
      · rw [if_neg hsame] at hposition
        exact .inr ⟨List.mem_of_getElem? hposition,
          name_ne_of_index_ne hrecalls.nodup hjob hposition (Ne.symm hsame)⟩
    refine ⟨_, hlater, hnames.symm ▸ hrecalls.nodup, fun job hmem => ?_, fun job hmem => ?_,
      fun other hunused => ?_⟩
    · rcases hplaces job hmem with rfl | ⟨hold, _⟩
      · exact hrecalls.launched (kind, .call request rest) hmemJob
      · exact hrecalls.launched job hold
    · rcases hplaces job hmem with rfl | ⟨hold, hne⟩
      · rw [Function.update_self]
        exact hrest answer hpossible
      · rw [Function.update_of_ne hne]
        exact hrecalls.follows job hold
    · rw [hnames] at hunused
      have hne : other ≠ kind := by
        rintro rfl
        exact hunused (List.mem_map_of_mem hmemJob)
      rw [Function.update_of_ne hne]
      exact hrecalls.unused other hunused
  · exact ⟨memories, hmaintains.occur config.state memories event hjoint after hafter,
      hrecalls.nodup, hrecalls.launched, hrecalls.follows, hrecalls.unused⟩
  · refine ⟨_, hmaintains.crash config.state memories kind after hjoint hcrash,
      hrecalls.nodup.sublist ((List.eraseIdx_sublist _ _).map _),
      fun job hmem => hrecalls.launched job (List.mem_of_mem_eraseIdx hmem),
      fun job hmem => ?_, fun other hunused => ?_⟩
    · obtain ⟨position, hne, hposition⟩ := List.mem_eraseIdx_iff_getElem?.mp hmem
      rw [Function.update_of_ne (name_ne_of_index_ne hrecalls.nodup hjob hposition hne)]
      exact hrecalls.follows job (List.mem_of_getElem? hposition)
    · by_cases hsame : other = kind
      · rw [hsame, Function.update_self]
      · rw [Function.update_of_ne hsame]
        apply hrecalls.unused other
        intro hmem
        obtain ⟨job, hjobs, rfl⟩ := List.mem_map.mp hmem
        obtain ⟨position, hposition⟩ := List.mem_iff_getElem?.mp hjobs
        apply hunused
        apply List.mem_map_of_mem
        refine List.mem_eraseIdx_iff_getElem?.mpr ⟨position, ?_, hposition⟩
        rintro rfl
        rw [hjob] at hposition
        cases hposition
        exact hsame rfl

/-- In every run the programs remember what is together true; those that have ended have
reached their goal. -/
theorem reachable (hmaintains : Maintains system protocol start joint)
    (hlaunch : ∀ kind program, system.launch kind = some program →
      program.Follows (protocol kind) (ends kind) start)
    (hfirst : joint state fun _ => start) (hrun : system.Reachable ⟨state, []⟩ config) :
    ∃ memories, joint config.state memories ∧
      config.Recalls system protocol ends start memories := by
  induction hrun with
  | refl =>
      exact ⟨fun _ => start, hfirst, List.nodup_nil, fun _ hmem => (nomatch hmem),
        fun _ hmem => (nomatch hmem), fun _ _ => rfl⟩
  | step before hstep ih =>
      obtain ⟨memories, hjoint, hrecalls⟩ := ih
      exact hmaintains.step hlaunch hjoint hrecalls hstep

end Maintains

/-- The programs of a system follow their protocols.  What a program remembers is a fact
about the shared state: an allowed call keeps the invariant, brings a possible answer, and
leaves the facts of all programs true; so do the environment and the loss of a program. -/
structure Upholds (system : System Call Answer State Event Kind Result)
    (protocol : Kind → Protocol Call Answer Memory) (ends : Kind → Memory → Result → Prop)
    (start : Memory) (inv : State → Prop) (fact : Kind → Memory → State → Prop) : Prop where
  launch : ∀ kind program, system.launch kind = some program →
    program.Follows (protocol kind) (ends kind) start
  serve : ∀ kind memory state request answer, (system.launch kind).isSome = true →
    inv state → fact kind memory state → (protocol kind).allowed memory request →
    ∀ after ∈ system.serve state kind request answer,
      inv after ∧ (protocol kind).possible memory request answer ∧
        fact kind ((protocol kind).remember memory request answer) after ∧
        ∀ other, other ≠ kind → ∀ kept, fact other kept state → fact other kept after
  occur : ∀ state event, inv state → ∀ after ∈ system.occur state event,
    inv after ∧ ∀ kind memory, fact kind memory state → fact kind memory after
  crash : ∀ kind state after, inv state → system.crash state kind = some after →
    inv after ∧ fact kind start after ∧ ∀ other, other ≠ kind → ∀ memory,
      fact other memory state → fact other memory after

namespace Upholds

variable {system : System Call Answer State Event Kind Result}
  {protocol : Kind → Protocol Call Answer Memory} {ends : Kind → Memory → Result → Prop}
  {start : Memory} {inv : State → Prop} {fact : Kind → Memory → State → Prop}
  [DecidableEq Kind]

/-- The facts of all programs are together true. -/
theorem maintains (hupholds : Upholds system protocol ends start inv fact) :
    Maintains system protocol start
      (fun state memories => inv state ∧ ∀ kind, fact kind (memories kind) state) where
  serve state memories kind request answer hlaunch hjoint hallowed after hafter := by
    obtain ⟨hinv, hpossible, hown, hothers⟩ := hupholds.serve kind (memories kind) state request
      answer hlaunch hjoint.1 (hjoint.2 kind) hallowed after hafter
    refine ⟨hpossible, hinv, fun other => ?_⟩
    by_cases hsame : other = kind
    · rw [hsame, Function.update_self]
      exact hown
    · rw [Function.update_of_ne hsame]
      exact hothers other hsame _ (hjoint.2 other)
  occur state memories event hjoint after hafter := by
    obtain ⟨hinv, hfacts⟩ := hupholds.occur state event hjoint.1 after hafter
    exact ⟨hinv, fun kind => hfacts kind _ (hjoint.2 kind)⟩
  crash state memories kind after hjoint hcrash := by
    obtain ⟨hinv, hown, hothers⟩ := hupholds.crash kind state after hjoint.1 hcrash
    refine ⟨hinv, fun other => ?_⟩
    by_cases hsame : other = kind
    · rw [hsame, Function.update_self]
      exact hown
    · rw [Function.update_of_ne hsame]
      exact hothers other hsame _ (hjoint.2 other)

/-- In every state that a run reaches the invariant holds, and the programs that have ended
have reached their goal. -/
theorem reachable (hupholds : Upholds system protocol ends start inv fact) (hinv : inv state)
    (hfirst : ∀ kind, fact kind start state) (hrun : system.Reachable ⟨state, []⟩ config) :
    inv config.state ∧ ∀ kind result, (kind, .done result) ∈ config.jobs →
      ∃ memory, fact kind memory config.state ∧ ends kind memory result := by
  obtain ⟨memories, hjoint, hrecalls⟩ :=
    hupholds.maintains.reachable hupholds.launch ⟨hinv, hfirst⟩ hrun
  exact ⟨hjoint.1, fun kind result hjob =>
    ⟨memories kind, hjoint.2 kind, hrecalls.ended hjob⟩⟩

end Upholds

end Relayer.Interleaving
