import AsmExplorer.CompileCache
import AsmExplorer.View.Synchronizer

/-!
# Open assembly views

`ViewRegistry` holds the open views over one compile cache and one host.  Every view has a queue of
commands, which it carries out one at a time and in the order of their arrival: what the host or the
cache tells a view only lengthens its queue, and `ViewRegistry.settle` lets the views work.

Opening a view queues the first compilation of its source, and closing it has the cache forget the
source.  A closed view stays until it has removed its decorations.
-/

namespace AsmExplorer

/-- What a view is told. -/
inductive ViewCommand where
  /-- To put its decorations in place. -/
  | refresh
  /-- The outcome of a compilation. -/
  | unit (state : UnitState)
  /-- A selection that moved. -/
  | selection (change : SelectionChange)
  /-- That other editors are visible. -/
  | visibleEditorsChanged
  /-- To remove its decorations and end. -/
  | close
deriving Inhabited

/-- Carries out a command. -/
def Synced.handle (s : Synced) : ViewCommand → Synced
  | .refresh => s.refresh
  | .unit state => s.onUnitChanged state
  | .selection change => s.onSelectionChanged change
  | .visibleEditorsChanged => s.onVisibleEditorsChanged
  | .close => s.dispose

/-- A view with the commands it has not carried out yet. -/
structure OpenView where
  /-- Its state. -/
  sync : Synchronizer
  /-- The commands, the oldest first. -/
  queue : List ViewCommand := []
deriving Inhabited

namespace OpenView

/-- The source of the view. -/
def source (v : OpenView) : Uri :=
  v.sync.docs.primary

/-- The document of the view. -/
def assembly (v : OpenView) : Uri :=
  v.sync.docs.assembly

/-- Tells the view something. -/
def send (v : OpenView) (command : ViewCommand) : OpenView :=
  { v with queue := v.queue ++ [command] }

/-- Carries out the oldest command. -/
def work (v : OpenView) (host : Host) : OpenView × Host :=
  match v.queue with
  | [] => (v, host)
  | command :: queue =>
    let s := Synced.handle { sync := v.sync, host } command
    ({ sync := s.sync, queue }, s.host)

/-- Carries out all commands. -/
def workAll (v : OpenView) (host : Host) : OpenView × Host :=
  let (sync, host) := v.queue.foldl
    (fun (sync, host) command =>
      let s := Synced.handle { sync, host } command
      (s.sync, s.host))
    (v.sync, host)
  ({ sync }, host)

end OpenView

/-- The open views. -/
structure ViewRegistry where
  /-- What the user has set. -/
  settings : SyncSettings := {}
  /-- The compile cache. -/
  cache : CompileCache
  /-- The host. -/
  host : Host := {}
  /-- The views that are open, the oldest first. -/
  views : List OpenView := []
  /-- The views that were closed and have not ended. -/
  closing : List OpenView := []
  /-- Sources whose first compilation has not been asked for yet. -/
  opening : List Uri := []
deriving Inhabited

namespace ViewRegistry

/-- The open view of an assembly document. -/
def view? (r : ViewRegistry) (assembly : Uri) : Option OpenView :=
  r.views.find? (·.assembly == assembly)

/-- Whether an assembly document is open. -/
def isOpen (r : ViewRegistry) (assembly : Uri) : Bool :=
  (r.view? assembly).isSome

/-- The open assembly documents, in order. -/
def openDocuments (r : ViewRegistry) : List Uri :=
  Uri.sort (r.views.map OpenView.assembly)

/-- Tells the view of an assembly document something. -/
def sendTo (r : ViewRegistry) (assembly : Uri) (command : ViewCommand) : ViewRegistry :=
  { r with views := r.views.map fun v => if v.assembly = assembly then v.send command else v }

/-- Tells all open views something. -/
def broadcast (r : ViewRegistry) (command : ViewCommand) : ViewRegistry :=
  { r with views := r.views.map (·.send command) }

/-! ### Opening and closing -/

/-- Opens the view of a source, and gives its document.  A stored outcome is shown at once;
otherwise the source is to be compiled.  A view that is open stays as it is. -/
def openView (r : ViewRegistry) (source : Uri) : Except DocumentFault (ViewRegistry × Uri) := do
  let assembly ← assemblyUri source
  if r.isOpen assembly then return (r, assembly)
  let view : OpenView :=
    { sync := { docs := { primary := source, assembly }, settings := r.settings }
      queue := [.refresh] }
  match r.cache.stored? source with
  | some outcome =>
    return ({ r with views := r.views ++ [view.send (.unit outcome.state)] }, assembly)
  | none =>
    return ({ r with views := r.views ++ [view], opening := r.opening ++ [source] }, assembly)

/-- Closes the view of an assembly document and forgets its source. -/
def closeView (r : ViewRegistry) (assembly : Uri) : ViewRegistry :=
  match r.view? assembly with
  | none => r
  | some v =>
    { r with
      views := r.views.filter (·.assembly != assembly)
      closing := r.closing ++ [v.send .close]
      cache := r.cache.dispose v.source }

/-- Closes all views.  The cache keeps what it has. -/
def closeAll (r : ViewRegistry) : ViewRegistry :=
  { r with views := [], closing := r.closing ++ r.views.map (·.send .close) }

/-! ### News -/

/-- A compilation finished: its outcome goes to the open view of its source, and its failure is
shown to the user. -/
def unitChanged (r : ViewRegistry) (news : UnitChanged) : ViewRegistry :=
  if r.isOpen news.assembly then
    let host :=
      match news.outcome.state.failure? with
      | some failure => r.host.call (.error failure.message)
      | none => r.host
    { r with host }.sendTo news.assembly (.unit news.outcome.state)
  else r

/-- A selection moved. -/
def selectionChanged (r : ViewRegistry) (change : SelectionChange) : ViewRegistry :=
  r.broadcast (.selection change)

/-- Other editors are visible. -/
def visibleEditorsChanged (r : ViewRegistry) : ViewRegistry :=
  r.broadcast .visibleEditorsChanged

/-- Whether a view depends on a file: its source, and all that its stored listing came from. -/
def dependsOn (r : ViewRegistry) (source file : Uri) : Bool :=
  source == file || (r.cache.unit? source).any fun unit => unit.references file

/-- A file was saved.  The views that depend on it are compiled again after the quiet period. -/
def fileChanged (r : ViewRegistry) (file : Uri) (now : Nat) : ViewRegistry :=
  let affected := (r.views.map OpenView.source).filter (r.dependsOn · file)
  { r with cache := affected.foldl (fun c source => c.invalidate source now) r.cache }

/-- The compile settings of sources changed.  Their open views are compiled again now. -/
def settingsChanged (r : ViewRegistry) (sources : List Uri) : ViewRegistry :=
  let affected := (r.views.map OpenView.source).filter sources.contains
  { r with cache := affected.foldl CompileCache.recompile r.cache }

/-! ### Questions -/

/-- A request for the text of an assembly document; there is none for other documents. -/
def content? (r : ViewRegistry) (assembly : Uri) : Option (ViewRegistry × CacheReply) := do
  let source ← sourceOfAssembly? assembly
  let (cache, reply) := r.cache.getOrCompile source
  some ({ r with cache }, reply)

/-- The source line that a line of an assembly document came from. -/
def definition? (r : ViewRegistry) (assembly : Uri) (line : Nat) : Option SourceLine := do
  let unit ← r.cache.unit? (← sourceOfAssembly? assembly)
  unit.definitionAt? line

/-! ### Work -/

/-- Lets views carry out all their commands, one view after the other. -/
def workAll (views : List OpenView) (host : Host) : List OpenView × Host :=
  views.foldl
    (fun (done, host) v =>
      let (v, host) := v.workAll host
      (done ++ [v], host))
    ([], host)

/-- Asks for the first compilations that are due. -/
def startOpening (r : ViewRegistry) : ViewRegistry :=
  { r with
    opening := []
    cache := r.opening.foldl (fun c source => (c.getOrCompile source).1) r.cache }

/-- Lets all views carry out their commands, ends those that were closed, and asks for the first
compilations that are due. -/
def settle (r : ViewRegistry) : ViewRegistry :=
  let (_, host) := workAll r.closing r.host
  let (views, host) := workAll r.views host
  { r with views, closing := [], host }.startOpening

end ViewRegistry

end AsmExplorer
