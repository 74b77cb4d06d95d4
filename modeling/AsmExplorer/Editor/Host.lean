import AsmExplorer.Uri.Basic

/-!
# Editors

The editor application that shows the documents.  A view asks it which editors are visible, puts
decorations on their lines, scrolls them, and has documents opened; every such request is a
`HostCall`, and the host keeps them in order.

Editors are known by names.  Moving a cursor or showing other editors is the user's doing and no
request.
-/

namespace AsmExplorer

/-- Decorations of whole lines. -/
inductive DecorationKind where
  /-- The selected line and the lines that correspond to it. -/
  | selected
  /-- Source lines that produced nothing. -/
  | unused
  /-- The sign that a compile is under way. -/
  | loading
deriving DecidableEq, Inhabited

/-- All kinds of decorations, in the order in which they are cleared. -/
def DecorationKind.all : List DecorationKind :=
  [selected, unused, loading]

/-- How a line is scrolled to. -/
inductive RevealKind where
  /-- To the middle, if it is not in sight. -/
  | centerIfOutside
  /-- To the middle. -/
  | center
  /-- To the top. -/
  | top
deriving DecidableEq, Inhabited

/-- What moved a selection. -/
inductive SelectionKind where
  /-- The keyboard. -/
  | keyboard
  /-- The mouse. -/
  | mouse
  /-- A command. -/
  | command
deriving DecidableEq, Inhabited

/-- A text editor. -/
structure Editor where
  /-- The name of the editor. -/
  id : String
  /-- The document it shows. -/
  document : Uri
  /-- The number of lines of the document. -/
  lineCount : Nat
  /-- The column of the window it stands in, if it has one. -/
  column : Option UInt8
  /-- The line of its cursor, counted from 0. -/
  cursor : Nat
deriving DecidableEq, Inhabited

/-- A selection that moved. -/
structure SelectionChange where
  /-- The editor. -/
  editor : Editor
  /-- The line of the selection, counted from 0. -/
  line : Nat
  /-- What moved it; nothing if the editor was just opened. -/
  kind : Option SelectionKind
deriving DecidableEq, Inhabited

/-- A request to the host. -/
inductive HostCall where
  /-- Puts all decorations of a kind on the given lines of an editor. -/
  | set (editor : String) (kind : DecorationKind) (lines : List Nat)
  /-- Scrolls an editor to a line. -/
  | reveal (editor : String) (line : Nat) (how : RevealKind)
  /-- Opens a document in a column, keeping the focus or not. -/
  | show (document : Uri) (column : Option UInt8) (preserveFocus : Bool)
  /-- Shows an error message. -/
  | error (message : String)
deriving DecidableEq, Inhabited

/-- The editor application. -/
structure Host where
  /-- All editors, by name. -/
  editors : List Editor := []
  /-- The names of the visible editors, in order. -/
  visible : List String := []
  /-- Documents that cannot be opened. -/
  refused : List String := []
  /-- The lengths of documents that can be opened. -/
  lengths : List (String × Nat) := []
  /-- The requests made, the latest first. -/
  calls : List HostCall := []
deriving Inhabited

namespace Host

/-- The length of an opened document whose length is not given. -/
def defaultLength : Nat := 10

/-- The editor with a name. -/
def editor? (h : Host) (id : String) : Option Editor :=
  h.editors.find? (·.id == id)

/-- The visible editors. -/
def visibleEditors (h : Host) : List Editor :=
  h.visible.filterMap h.editor?

/-- Notes a request. -/
def call (h : Host) (c : HostCall) : Host :=
  { h with calls := c :: h.calls }

/-- Puts an editor in the place of the one with its name. -/
def putEditor (h : Host) (e : Editor) : Host :=
  { h with editors := e :: h.editors.filter (·.id != e.id) }

/-- Moves the cursor of an editor. -/
def moveCursor (h : Host) (id : String) (line : Nat) : Host :=
  match h.editor? id with
  | some e => h.putEditor { e with cursor := line }
  | none => h

/-- Shows the editors with the given names and no others. -/
def setVisible (h : Host) (ids : List String) : Host :=
  { h with visible := ids }

/-- Opens a document: refuses, or takes the first visible editor of the document, or makes a new
one, which becomes the last visible editor. -/
def showDocument (h : Host) (document : Uri) (column : Option UInt8) (preserveFocus : Bool) :
    Host × Option Editor :=
  let h := h.call (.show document column preserveFocus)
  let name := document.render
  if h.refused.contains name then (h, none)
  else
    match h.visibleEditors.find? (·.document == document) with
    | some e => (h, some e)
    | none =>
      let e : Editor :=
        { id := "opened:" ++ name, document, column, cursor := 0
          lineCount := (h.lengths.lookup name).getD defaultLength }
      ({ h.putEditor e with visible := h.visible ++ [e.id] }, some e)

/-- Takes out the requests made so far, in order. -/
def takeCalls (h : Host) : Host × List HostCall :=
  ({ h with calls := [] }, h.calls.reverse)

end Host

end AsmExplorer
