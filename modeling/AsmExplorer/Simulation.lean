import AsmExplorer.Compiler.Error
import AsmExplorer.Emitter
import AsmExplorer.View.Registry

/-!
# Scripted runs

A view registry with its cache, driven in virtual time against compilers that follow scripts.  The
clock stands still while anything is left to do at the present instant; `Simulation.advance` moves
it from one due action to the next.  What happens is kept as a list of `Happening`s.

A script gives the time that compiling a source takes, and the outcomes of its compilations, the
last of which repeats.  An outcome is settled when the compiler is called.
-/

namespace AsmExplorer

/-- What a scripted compilation ends in. -/
inductive ScriptedOutcome where
  /-- A listing. -/
  | lines (lines : List ParsedLine)
  /-- A failure of the compiler with its output. -/
  | fail (output : String)
  /-- A compiler that nobody knows. -/
  | notFound (name : String)
  /-- The task breaks down as soon as it starts. -/
  | crash
deriving Inhabited

/-- How a source compiles. -/
structure CompilerScript where
  /-- The time a compilation takes, in milliseconds. -/
  delay : Nat
  /-- The outcomes, in order. -/
  outcomes : List ScriptedOutcome
deriving Inhabited

namespace CompilerScript

/-- The outcome of the next compilation, and the script that is left. -/
def next (s : CompilerScript) : ScriptedOutcome × CompilerScript :=
  match s.outcomes with
  | [] => (.crash, s)
  | [last] => (last, s)
  | first :: rest => (first, { s with outcomes := rest })

end CompilerScript

/-- The message of a task that broke down. -/
def crashMessage : String :=
  "compile task failed"

/-- What a task for a source of an assembly view produces. -/
def ScriptedOutcome.state (outcome : ScriptedOutcome) (source assembly : Uri) : UnitState :=
  let failed (message : String) : UnitState := .failed { source, message }
  match outcome with
  | lines ls => .compiled (.ofLines source assembly ls)
  | fail output =>
    let path := source.toPath?.getD (Path.ofChars source.path)
    failed (CompileError.failed path (some 1) output).message
  | notFound name => failed (CompileError.compilerNotFound name).message
  | crash => failed crashMessage

/-- A compilation that the compiler works on. -/
structure PendingCompile where
  /-- The task. -/
  task : CompileTask
  /-- When it finishes. -/
  due : Nat
  /-- What it will produce. -/
  state : UnitState
deriving Inhabited

/-- A request that waits for a task. -/
structure Waiter where
  /-- The number of the task. -/
  task : Nat
  /-- The name of the request. -/
  id : String
  /-- Whether it asks for the text of the document. -/
  wantsContent : Bool
deriving DecidableEq, Inhabited

/-- The answer to a request for a unit: a numbered outcome, or a failure without any task. -/
inductive RequestAnswer where
  /-- The outcome of a task. -/
  | outcome (outcome : CompileOutcome)
  /-- The request was refused. -/
  | refused (failure : CompileFailure)
deriving Inhabited

/-- What happens in a run. -/
inductive Happening where
  /-- The compiler is called. -/
  | compile (time : Nat) (source : Uri)
  /-- A listener hears of an outcome. -/
  | changed (time : Nat) (listener : String) (news : UnitChanged)
  /-- A request for a unit is answered. -/
  | unit (time : Nat) (id : String) (answer : RequestAnswer)
  /-- A request for the text of a document is answered. -/
  | content (time : Nat) (id : String) (text : Option String)
deriving Inhabited

/-- A run. -/
structure Simulation where
  /-- The registry with its cache and host. -/
  registry : ViewRegistry
  /-- The present time, in milliseconds. -/
  now : Nat := 0
  /-- The scripts of the sources that have one. -/
  scripts : List (Uri × CompilerScript) := []
  /-- The compilations under way. -/
  compiling : List PendingCompile := []
  /-- The tasks with smaller numbers were given to the compiler. -/
  called : Nat := 0
  /-- The requests that wait. -/
  waiters : List Waiter := []
  /-- The listeners of the cache, by name. -/
  listeners : Emitter String := {}
  /-- The registrations of the listeners. -/
  registrations : List (String × Nat) := []
  /-- What happened, the latest first. -/
  log : List Happening := []
deriving Inhabited

namespace Simulation

/-- Notes a happening. -/
def note (s : Simulation) (h : Happening) : Simulation :=
  { s with log := h :: s.log }

/-! ### The compiler -/

/-- The script of a source takes a step. -/
def takeOutcome (scripts : List (Uri × CompilerScript)) (source : Uri) :
    Option (ScriptedOutcome × Nat) × List (Uri × CompilerScript) :=
  match scripts with
  | [] => (none, [])
  | (u, script) :: rest =>
    if u = source then
      let (outcome, left) := script.next
      (some (outcome, script.delay), (u, left) :: rest)
    else
      let (found, rest) := takeOutcome rest source
      (found, (u, script) :: rest)

/-- Gives a task to the compiler.  A source without a script is no file; such a task and one that
breaks down take no time. -/
def call (s : Simulation) (task : CompileTask) : Simulation :=
  let (found, scripts) := takeOutcome s.scripts task.source
  let (delay, state) :=
    match found with
    | none =>
      let message := (CompileError.notAFile task.source).message
      (0, UnitState.failed { source := task.source, message })
    | some (.crash, _) => (0, ScriptedOutcome.crash.state task.source task.key)
    | some (outcome, delay) => (delay, outcome.state task.source task.key)
  let pending : PendingCompile := { task, due := s.now + delay, state }
  note { s with scripts, compiling := s.compiling ++ [pending] } (.compile s.now task.source)

/-- Gives the new tasks of the cache to the compiler. -/
def callNew (s : Simulation) : Simulation :=
  let cache := s.registry.cache
  let fresh := cache.running.filter (s.called ≤ ·.id)
  fresh.foldl call { s with called := cache.nextTask }

/-- Lets the views work, and gives new tasks to the compiler. -/
def settle (s : Simulation) : Simulation :=
  { s with registry := s.registry.settle }.callNew

/-! ### Requests -/

/-- Answers a request. -/
def answer (s : Simulation) (id : String) (wantsContent : Bool) (a : RequestAnswer) :
    Simulation :=
  if wantsContent then
    let text :=
      match a with
      | .outcome o => o.state.content
      | .refused failure => failure.message
    s.note (.content s.now id (some text))
  else s.note (.unit s.now id a)

/-- Answers a request, or lets it wait for a task. -/
def reply (s : Simulation) (id : String) (wantsContent : Bool) : CacheReply → Simulation
  | .stored outcome => s.answer id wantsContent (.outcome outcome)
  | .refused failure => s.answer id wantsContent (.refused failure)
  | .pending task => { s with waiters := s.waiters ++ [{ task, id, wantsContent }] }

/-- Tells all listeners, and the registry, of an outcome. -/
def tell (s : Simulation) (news : UnitChanged) : Simulation :=
  let s := { s with registry := s.registry.unitChanged news }
  s.listeners.listeners.foldl (fun s id => s.note (.changed s.now id news)) s

/-- A compilation finishes: the cache takes in its outcome. -/
def finish (s : Simulation) (p : PendingCompile) : Simulation :=
  let (cache, news) := s.registry.cache.finish p.task p.state
  let s := { s with
    registry := { s.registry with cache }
    compiling := s.compiling.filter (·.task.id != p.task.id) }
  match news with
  | some news => s.tell news
  | none => s

/-- Answers the requests that waited for a compilation, whether or not its source is still
tracked. -/
def answerWaiters (s : Simulation) (p : PendingCompile) : Simulation :=
  let (ready, waiters) := s.waiters.partition (·.task == p.task.id)
  let outcome : CompileOutcome := { task := p.task.id, state := p.state }
  ready.foldl (fun s w => s.answer w.id w.wantsContent (.outcome outcome)) { s with waiters }

/-! ### Time -/

/-- Something that becomes due. -/
inductive Action where
  /-- A timer elapses. -/
  | timer (t : DebounceTimer)
  /-- A compilation finishes. -/
  | compile (p : PendingCompile)
deriving Inhabited

/-- When an action is due. -/
def Action.due : Action → Nat
  | timer t => t.due
  | compile p => p.due

/-- The first of the earliest actions. -/
def earliest? : List Action → Option Action
  | [] => none
  | a :: rest =>
    match earliest? rest with
    | some b => if b.due < a.due then some b else some a
    | none => some a

/-- The next action. -/
def nextAction? (s : Simulation) : Option Action :=
  earliest? (s.registry.cache.timers.map .timer ++ s.compiling.map .compile)

/-- Carries out an action, and all that follows from it at once.  Compilations that finish at the
same time are all taken in before requests are answered. -/
def act (s : Simulation) : Action → Simulation
  | .timer t =>
    let cache := s.registry.cache.elapse t
    settle { s with registry := { s.registry with cache } }
  | .compile p =>
    let together := s.compiling.filter (·.due == p.due)
    (together.foldl answerWaiters (together.foldl finish s)).settle

/-- Carries out the actions that are due until `limit`, at most `fuel` of them. -/
def runUntil (limit : Nat) : Nat → Simulation → Simulation
  | 0, s => s
  | fuel + 1, s =>
    match s.nextAction? with
    | none => s
    | some a =>
      if a.due ≤ limit then runUntil limit fuel ({ s with now := max s.now a.due }.act a) else s

/-- A bound on the actions that can follow without a further request: every timer elapses once and
starts at most one task, and every entry may have one more task to follow. -/
def pendingActions (s : Simulation) : Nat :=
  2 * s.registry.cache.timers.length + s.compiling.length + s.registry.cache.entries.length

/-- Moves the clock. -/
def advance (s : Simulation) (milliseconds : Nat) : Simulation :=
  let limit := s.now + milliseconds
  { runUntil limit s.pendingActions s with now := limit }

/-- Carries out all that is to be done at the present instant. -/
def rest (s : Simulation) : Simulation :=
  s.settle.advance 0

/-! ### Steps -/

/-- Does something to the registry. -/
def onRegistry (s : Simulation) (f : ViewRegistry → ViewRegistry) : Simulation :=
  rest { s with registry := f s.registry }

/-- Does something to the cache. -/
def onCache (s : Simulation) (f : CompileCache → CompileCache) : Simulation :=
  s.onRegistry fun r => { r with cache := f r.cache }

/-- Asks for the unit of a source. -/
def get (s : Simulation) (source : Uri) (id : String) : Simulation :=
  let (cache, reply) := s.registry.cache.getOrCompile source
  ({ s with registry := { s.registry with cache } }.reply id false reply).rest

/-- Asks for the text of an assembly document. -/
def content (s : Simulation) (assembly : Uri) (id : String) : Simulation :=
  match s.registry.content? assembly with
  | none => s.note (.content s.now id none)
  | some (registry, reply) => ({ s with registry }.reply id true reply).rest

/-- Opens a view. -/
def openView (s : Simulation) (source : Uri) : Simulation × Except DocumentFault Uri :=
  match s.registry.openView source with
  | .error fault => (s, .error fault)
  | .ok (registry, assembly) => (rest { s with registry }, .ok assembly)

/-- Registers a listener; an earlier one of its name is released. -/
def listen (s : Simulation) (id : String) : Simulation :=
  let (listeners, serial) := s.listeners.subscribe id
  let listeners :=
    match s.registrations.lookup id with
    | some old => listeners.release old
    | none => listeners
  { s with
    listeners, registrations := (id, serial) :: s.registrations.filter (·.1 != id) }

/-- Releases a listener. -/
def unlisten (s : Simulation) (id : String) : Simulation :=
  match s.registrations.lookup id with
  | none => s
  | some serial =>
    { s with
      listeners := s.listeners.release serial
      registrations := s.registrations.filter (·.1 != id) }

/-- Takes out what happened so far and the requests made to the host, in order. -/
def takeLog (s : Simulation) : Simulation × List Happening × List HostCall :=
  let (host, calls) := s.registry.host.takeCalls
  ({ s with log := [], registry := { s.registry with host } }, s.log.reverse, calls)

end Simulation

end AsmExplorer
