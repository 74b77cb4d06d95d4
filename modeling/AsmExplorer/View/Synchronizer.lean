import AsmExplorer.View.Ledger
import AsmExplorer.View.Visible

/-!
# Keeping a view in step with its sources

A `Synchronizer` reacts to three things: a new unit, a change of the visible editors, and a
selection.  It is *active* while the listing and one of its sources are visible.  Then

* unused source lines are dimmed, and
* a selection in a source highlights the listing lines it produced, and a selection in the listing
  highlights the source line it came from.

While it is inactive it shows nothing.  A failed compile suspends decorations until the next unit.
A selection that nothing moved comes from an editor being opened and is passed over, so that
opening a source to show a selection does not replace that selection.

`Synced` is a synchronizer together with the host it works on; every reaction is a function on it.
It keeps a record of the requests, each with the state in which it was made.
-/

namespace AsmExplorer

/-- What the user has set for views. -/
structure SyncSettings where
  /-- Whether unused source lines are dimmed. -/
  dimUnusedSourceLines : Bool := true
  /-- How long to wait for further changes before compiling again, in milliseconds. -/
  recompileDebounceMs : UInt64 := 100
deriving DecidableEq, Inhabited

/-- Whether a view shows decorations. -/
inductive SyncPhase where
  /-- It shows none. -/
  | inactive
  /-- It shows them. -/
  | active
deriving DecidableEq, Inhabited

/-- The last selection that somebody made. -/
inductive Selection where
  /-- A line of a source. -/
  | source (document : Uri) (line : Nat)
  /-- A line of the listing. -/
  | assembly (line : Nat)
deriving DecidableEq, Inhabited

/-- The state of a view. -/
structure Synchronizer where
  /-- Its documents. -/
  docs : ViewDocuments
  /-- Its settings. -/
  settings : SyncSettings
  /-- The outcome of the last compile; none before the first has finished. -/
  unit : Option UnitState := none
  /-- Whether it is active. -/
  phase : SyncPhase := .inactive
  /-- The decorations in place. -/
  ledger : Ledger := {}
  /-- The last selection that somebody made, shown again whenever the view becomes active. -/
  last : Option Selection := none
deriving Inhabited

/-- A request of a view, with the view and the host as they are when it is made. -/
structure ViewRequest where
  /-- The view. -/
  view : Synchronizer
  /-- The host. -/
  host : Host
  /-- What is asked for. -/
  call : HostCall
deriving Inhabited

/-- A view and the host it works on. -/
structure Synced where
  /-- The view. -/
  sync : Synchronizer
  /-- The host. -/
  host : Host
  /-- The requests of the view, the latest first. -/
  made : List ViewRequest := []
deriving Inhabited

namespace Synced

/-- The visible editors that concern the view. -/
def visible (s : Synced) : VisibleSet :=
  s.sync.docs.classify s.host.visibleEditors s.sync.unit

/-- The listing, if the last compile made one. -/
def compiled? (s : Synced) : Option CompiledUnit :=
  s.sync.unit.bind UnitState.unit?

/-! ### Requests -/

/-- Records a request. -/
def record (call : HostCall) (s : Synced) : Synced :=
  { s with made := { view := s.sync, host := s.host, call } :: s.made }

/-- Makes a request that the host only notes. -/
def request (call : HostCall) (s : Synced) : Synced :=
  { s.record call with host := s.host.call call }

/-! ### Decorations -/

/-- Puts the decorations of a kind on lines of an editor, unless they are in place. -/
def apply (e : Editor) (kind : DecorationKind) (lines : List Nat) (s : Synced) : Synced :=
  if s.sync.ledger.get? (Ledger.slot e kind) = some lines then s
  else
    let s := s.request (.set e.id kind lines)
    { s with sync.ledger := s.sync.ledger.put (Ledger.slot e kind) lines }

/-- Scrolls an editor to a line that is not in sight. -/
def reveal (e : Editor) (line : Nat) (s : Synced) : Synced :=
  s.request (.reveal e.id line .centerIfOutside)

/-- Removes all decorations from an editor. -/
def clearEditor (e : Editor) (s : Synced) : Synced :=
  DecorationKind.all.foldl (fun s kind => s.apply e kind []) s

/-- Removes all decorations from the editors. -/
def clear (v : VisibleSet) (s : Synced) : Synced :=
  v.editors.foldl (fun s e => s.clearEditor e) s

/-- Sets the phase by what is visible. -/
def updatePhase (v : VisibleSet) (s : Synced) : Synced :=
  { s with sync.phase := if v.isActive then .active else .inactive }

/-- Shows that a compile is under way. -/
def showLoading (v : VisibleSet) (s : Synced) : Synced :=
  match v.assembly with
  | some e => s.apply e .loading [0]
  | none => s

/-- Dims the unused lines of the sources. -/
def dimUnused (unit : CompiledUnit) (v : VisibleSet) (s : Synced) : Synced :=
  if s.sync.settings.dimUnusedSourceLines then
    v.sources.foldl
      (fun s e => s.apply e .unused (unit.index.unusedLines e.document e.lineCount)) s
  else s

/-! ### Selections -/

/-- The listing lines of a source line that the listing's editor has. -/
def mappedLines (unit : CompiledUnit) (limit : Nat) (document : Uri) (line : Nat) : List Nat :=
  ((unit.index.assemblyLines? document line).getD []).filter (· < limit)

/-- The listing lines to highlight for a selection in a source: first those of the selected line,
then those of the cursor lines of the other sources, each once. -/
def highlightedLines (unit : CompiledUnit) (v : VisibleSet) (limit : Nat) (e : Editor)
    (line : Nat) : List Nat :=
  let others := v.sources.filter (·.document != e.document)
  let all := mappedLines unit limit e.document line ++
    others.flatMap fun other => mappedLines unit limit other.document other.cursor
  all.eraseDups

/-- Shows a selection in a source: its line, and the listing lines that correspond. -/
def selectSource (unit : CompiledUnit) (v : VisibleSet) (e : Editor) (line : Nat)
    (scroll : Bool) (s : Synced) : Synced :=
  match v.assembly with
  | none => s
  | some assembly =>
    let lines := highlightedLines unit v assembly.lineCount e line
    let s := (s.apply e .selected [line]).apply assembly .selected lines
    match lines.head? with
    | some first => if scroll then s.reveal assembly first else s
    | none => s

/-- Shows a selection in the listing: its line.  If it came from no source line, the sources show no
selection. -/
def highlightAssembly (unit : CompiledUnit) (v : VisibleSet) (assembly : Editor) (line : Nat)
    (s : Synced) : Synced :=
  let s := s.apply assembly .selected [line]
  match unit.definitionAt? line with
  | some _ => s
  | none => v.sources.foldl (fun s e => s.apply e .selected []) s

/-- Shows the source line that a selection in the listing came from, if the editor has it. -/
def highlightTarget (e : Editor) (target : SourceLine) (scroll : Bool) (s : Synced) : Synced :=
  if target.line ≥ e.lineCount then s
  else
    let s := s.apply e .selected [target.line]
    if scroll then s.reveal e target.line else s

/-- Shows the cursor line of the first visible source. -/
def replayCursor (unit : CompiledUnit) (v : VisibleSet) (s : Synced) : Synced :=
  match v.sources.head? with
  | some first => s.selectSource unit v first first.cursor false
  | none => s

/-- Shows the last selection again without scrolling, or the cursor line of the first visible source
if that selection cannot be shown. -/
def replaySelection (unit : CompiledUnit) (v : VisibleSet) (s : Synced) : Synced :=
  match s.sync.last with
  | some (.source document line) =>
    match v.sourceFor? document with
    | some e => s.selectSource unit v e line false
    | none => s.replayCursor unit v
  | some (.assembly line) =>
    match v.assembly with
    | some assembly =>
      let s := s.highlightAssembly unit v assembly line
      match unit.definitionAt? line with
      | none => s
      | some target =>
        match v.sourceFor? target.file with
        | some e => s.highlightTarget e target false
        | none => s
    | none => s.replayCursor unit v
  | none => s.replayCursor unit v

/-- Puts all decorations in place. -/
def decorate (v : VisibleSet) (s : Synced) : Synced :=
  match s.sync.unit with
  | none => s.showLoading v
  | some (.failed _) => s
  | some (.compiled unit) =>
    let s := s.dimUnused unit v
    if unit.lines.isEmpty then s else s.replaySelection unit v

/-! ### Reactions -/

/-- Removes all decorations and puts those of the present unit in place. -/
def refresh (s : Synced) : Synced :=
  let v := s.visible
  let s := (s.updatePhase v).clear v
  if s.sync.phase = .active then s.decorate v else s

/-- Takes in the outcome of a compile.  The sources of the outgoing unit are cleared first, for the
new one may not refer to them. -/
def onUnitChanged (state : UnitState) (s : Synced) : Synced :=
  let s := s.clear s.visible
  { s with sync.unit := some state }.refresh

/-- Takes in a change of the visible editors. -/
def onVisibleEditorsChanged (s : Synced) : Synced :=
  let before := s.sync.phase
  let s := { s with sync.ledger := {} }
  let v := s.visible
  let s := s.updatePhase v
  match before, s.sync.phase with
  | _, .inactive => s.clear v
  | .inactive, .active => s.decorate v
  | .active, .active =>
    match s.sync.unit with
    | none => s.showLoading v
    | some (.compiled unit) => s.dimUnused unit v
    | some (.failed _) => s

/-- The column in which a source is opened: that of the first visible source, or the first. -/
def columnForSources (v : VisibleSet) : UInt8 :=
  (v.sources.head?.bind Editor.column).getD 1

/-- The editor of a source: a visible one, or else one that is opened beside the others. -/
def sourceEditor (v : VisibleSet) (document : Uri) (s : Synced) : Synced × Option Editor :=
  match v.sourceFor? document with
  | some e => (s, some e)
  | none =>
    let column := some (columnForSources v)
    let (host, e) := s.host.showDocument document column true
    ({ s.record (.show document column true) with host }, e)

/-- Takes in a selection. -/
def onSelectionChanged (change : SelectionChange) (s : Synced) : Synced :=
  match change.kind, s.sync.phase, s.compiled? with
  | some _, .active, some unit =>
    let v := s.visible
    let document := change.editor.document
    if unit.references document then
      { s with sync.last := some (.source document change.line) }.selectSource unit v change.editor
        change.line true
    else if document = s.sync.docs.assembly then
      let s := { s with sync.last := some (.assembly change.line) }
      let s := s.highlightAssembly unit v change.editor change.line
      match unit.definitionAt? change.line with
      | none => s
      | some target =>
        match s.sourceEditor v target.file with
        | (s, some e) => s.highlightTarget e target true
        | (s, none) => s
    else s
  | _, _, _ => s

/-- Removes all decorations for good. -/
def dispose (s : Synced) : Synced :=
  let s := s.clear s.visible
  { s with sync.phase := .inactive }

end Synced

end AsmExplorer
