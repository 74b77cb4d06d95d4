import AsmExplorer.Listing.CompiledUnit
import AsmExplorer.Uri.Document

/-!
# The compile cache

`CompileCache` keeps the outcome of the last compilation of every tracked source, under the document
of its assembly view.  Compilations are tasks: starting one returns at once, and some time later the
task finishes with an outcome.  Likewise an invalidation sets a timer, which elapses later.  The
cache holds the tasks that run and the timers that are set, so that every operation, every finished
task and every elapsed timer is a function from one cache to the next:

* `CompileCache.getOrCompile` : the stored outcome, or the task that will bring the first one.
* `CompileCache.invalidate` : compiles a tracked source again after a quiet period; further
  invalidations within that period start it anew.
* `CompileCache.recompile` : compiles a source again now, or once more after the task that runs.
* `CompileCache.dispose` : forgets a source.
* `CompileCache.elapse`, `CompileCache.finish` : a timer elapses, a task finishes.

A source that is forgotten and tracked again is a new entry with an *epoch* of its own, and tasks
and timers carry the epoch of the entry they were made for.  Among the timers of an entry only that
of the latest *generation* counts.
-/

namespace AsmExplorer

/-- The outcome of a task. -/
structure CompileOutcome where
  /-- The number of the task. -/
  task : Nat
  /-- What it produced. -/
  state : UnitState
deriving Inhabited

/-- What happens to a tracked source. -/
inductive CachePhase where
  /-- Nothing. -/
  | idle
  /-- An invalidation waits for the end of its quiet period. -/
  | debouncing
  /-- It is being compiled. -/
  | inFlight
deriving DecidableEq, Inhabited

/-- A tracked source. -/
structure CacheEntry where
  /-- The source. -/
  source : Uri
  /-- What tells the entry from earlier and later ones of the same source. -/
  epoch : Nat
  /-- The outcome of the last finished task. -/
  outcome : Option CompileOutcome := none
  /-- The number of the task that runs. -/
  inFlight : Option Nat := none
  /-- Whether another task is to follow the one that runs. -/
  rerun : Bool := false
  /-- The number of invalidations so far. -/
  generation : Nat := 0
  /-- Whether the timer of the last invalidation is still to be heeded. -/
  debouncing : Bool := false
deriving Inhabited

/-- What happens to the source of an entry. -/
def CacheEntry.phase (e : CacheEntry) : CachePhase :=
  if e.inFlight.isSome then .inFlight
  else if e.debouncing then .debouncing
  else .idle

/-- A running compilation. -/
structure CompileTask where
  /-- Its number. -/
  id : Nat
  /-- The assembly view that it is for. -/
  key : Uri
  /-- The source. -/
  source : Uri
  /-- The epoch of the entry that it is for. -/
  epoch : Nat
deriving DecidableEq, Inhabited

/-- A timer set by an invalidation. -/
structure DebounceTimer where
  /-- When it elapses. -/
  due : Nat
  /-- The assembly view of the source. -/
  key : Uri
  /-- The epoch of the entry. -/
  epoch : Nat
  /-- The number of the invalidation. -/
  generation : Nat
deriving DecidableEq, Inhabited

/-- The news that a task finished and its outcome was stored. -/
structure UnitChanged where
  /-- The source. -/
  source : Uri
  /-- Its assembly view. -/
  assembly : Uri
  /-- The outcome. -/
  outcome : CompileOutcome
deriving Inhabited

/-- What a request for the unit of a source brings. -/
inductive CacheReply where
  /-- The stored outcome. -/
  | stored (outcome : CompileOutcome)
  /-- The number of the task whose outcome it will be. -/
  | pending (task : Nat)
  /-- The source can have no assembly view. -/
  | refused (failure : CompileFailure)
deriving Inhabited

/-- Tracked sources, running compilations and set timers. -/
structure CompileCache where
  /-- The quiet period after an invalidation, in milliseconds. -/
  debounce : Nat
  /-- The entries, by assembly view. -/
  entries : List (Uri × CacheEntry) := []
  /-- The compilations that have not finished. -/
  running : List CompileTask := []
  /-- The timers that have not elapsed. -/
  timers : List DebounceTimer := []
  /-- The epoch of the next entry. -/
  nextEpoch : Nat := 0
  /-- The number of the next task. -/
  nextTask : Nat := 0
deriving Inhabited

namespace CompileCache

/-- The quiet period unless another one is chosen. -/
def defaultDebounce : Nat := 100

/-! ### Entries -/

/-- The entry of an assembly view. -/
def entry? (c : CompileCache) (key : Uri) : Option CacheEntry :=
  c.entries.lookup key

/-- The list of entries with an entry put in its place. -/
def putIn (key : Uri) (e : CacheEntry) : List (Uri × CacheEntry) → List (Uri × CacheEntry)
  | [] => [(key, e)]
  | (k, old) :: rest => if k = key then (key, e) :: rest else (k, old) :: putIn key e rest

/-- Puts an entry in its place. -/
def put (c : CompileCache) (key : Uri) (e : CacheEntry) : CompileCache :=
  { c with entries := putIn key e c.entries }

/-- The entry of a source, which is a new one if the source was not tracked. -/
def track (c : CompileCache) (key source : Uri) : CompileCache × CacheEntry :=
  match c.entry? key with
  | some e => (c, e)
  | none => ({ c with nextEpoch := c.nextEpoch + 1 }, { source, epoch := c.nextEpoch })

/-! ### Tasks -/

/-- Starts a task for an entry. -/
def start (c : CompileCache) (key : Uri) (e : CacheEntry) : CompileCache :=
  let task : CompileTask := { id := c.nextTask, key, source := e.source, epoch := e.epoch }
  { c with nextTask := c.nextTask + 1, running := c.running ++ [task] }.put key
    { e with rerun := false, inFlight := some c.nextTask }

/-- Starts a task for an entry, or has one follow the task that runs. -/
def request (c : CompileCache) (key : Uri) (e : CacheEntry) : CompileCache :=
  if e.inFlight.isSome then c.put key { e with rerun := true } else c.start key e

/-- A task finishes.  Its outcome is stored, and told to the listeners, unless the entry that it
was for is gone; a task that was to follow it starts. -/
def finish (c : CompileCache) (task : CompileTask) (state : UnitState) :
    CompileCache × Option UnitChanged :=
  let c := { c with running := c.running.filter (·.id != task.id) }
  match c.entry? task.key with
  | none => (c, none)
  | some e =>
    if e.epoch = task.epoch then
      let outcome : CompileOutcome := { task := task.id, state }
      let e := { e with outcome := some outcome, inFlight := none }
      let c := if e.rerun then c.start task.key e else c.put task.key e
      (c, some { source := task.source, assembly := task.key, outcome })
    else (c, none)

/-! ### Timers -/

/-- A timer elapses.  The source is compiled, unless the entry is gone or was invalidated
again. -/
def elapse (c : CompileCache) (timer : DebounceTimer) : CompileCache :=
  let c := { c with timers := c.timers.erase timer }
  match c.entry? timer.key with
  | none => c
  | some e =>
    if e.epoch = timer.epoch ∧ e.generation = timer.generation then
      c.request timer.key { e with debouncing := false }
    else c

/-! ### Operations -/

/-- The outcome stored for a source, or the task that will bring it; a source that was not tracked
is compiled.  A stored failure is not tried again. -/
def getOrCompile (c : CompileCache) (source : Uri) : CompileCache × CacheReply :=
  match assemblyUri source with
  | .error fault => (c, .refused { source, message := fault.message })
  | .ok key =>
    let (c, e) := c.track key source
    match e.outcome, e.inFlight with
    | some outcome, _ => (c, .stored outcome)
    | none, some task => (c, .pending task)
    | none, none => (c.start key e, .pending c.nextTask)

/-- Has a tracked source compiled again when the quiet period from `now` on is over. -/
def invalidate (c : CompileCache) (source : Uri) (now : Nat) : CompileCache :=
  match assemblyUri source with
  | .error _ => c
  | .ok key =>
    match c.entry? key with
    | none => c
    | some e =>
      let generation := e.generation + 1
      let timer : DebounceTimer := { due := now + c.debounce, key, epoch := e.epoch, generation }
      { c with timers := c.timers ++ [timer] }.put key { e with generation, debouncing := true }

/-- Has a source compiled again now, and tracks it if it was not tracked. -/
def recompile (c : CompileCache) (source : Uri) : CompileCache :=
  match assemblyUri source with
  | .error _ => c
  | .ok key =>
    let (c, e) := c.track key source
    c.request key { e with debouncing := false }

/-- Forgets a source.  The outcome of a task that runs for it will be thrown away. -/
def dispose (c : CompileCache) (source : Uri) : CompileCache :=
  match assemblyUri source with
  | .error _ => c
  | .ok key => { c with entries := c.entries.filter (·.1 != key) }

/-! ### Questions -/

/-- The entry of a source. -/
def find? (c : CompileCache) (source : Uri) : Option CacheEntry :=
  (assemblyUri source).toOption.bind c.entry?

/-- The outcome stored for a source. -/
def stored? (c : CompileCache) (source : Uri) : Option CompileOutcome :=
  (c.find? source).bind CacheEntry.outcome

/-- The unit stored for a source. -/
def unit? (c : CompileCache) (source : Uri) : Option CompiledUnit :=
  (c.stored? source).bind fun outcome => outcome.state.unit?

/-- What happens to a source; nothing is known of one that is not tracked. -/
def phase? (c : CompileCache) (source : Uri) : Option CachePhase :=
  (c.find? source).map CacheEntry.phase

/-- Whether a source is tracked. -/
def isTracked (c : CompileCache) (source : Uri) : Bool :=
  (c.find? source).isSome

end CompileCache

end AsmExplorer
