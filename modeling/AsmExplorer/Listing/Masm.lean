import AsmExplorer.Listing.Scan

/-!
# Microsoft assembler listings

The listings of the Microsoft compiler.  The place of the instructions is given by comments: a
`; File` comment names the file, a `; Line` comment the line of the code that follows.  A new file
and the end of a procedure end the line in force.

* `Masm.entries` : for each line its kind and the place in force there.
* `Masm.parse` : the lines that the filters show.
-/

namespace AsmExplorer.Masm

open Text

/-- What a line is. -/
inductive LineKind where
  /-- Nothing, or a comment only. -/
  | comment
  /-- The start of a procedure. -/
  | procedure
  /-- The end of a procedure. -/
  | procedureEnd
  /-- A directive. -/
  | directive
  /-- The definition of a label. -/
  | label (name : List Char)
  /-- An instruction or data. -/
  | code
deriving DecidableEq, Inhabited

/-- Characters of a procedure or segment name. -/
def isNameChar (c : Char) : Bool :=
  isWord c || c == '$' || c == '@' || c == '?'

/-- Characters of a label. -/
def isLabelChar (c : Char) : Bool :=
  isNameChar c || c == '.'

/-- Whether a line starts with a name, blanks, and one of the words. -/
def isNamed (words : List String) (line : List Char) : Bool :=
  match Scan.run? isNameChar line with
  | some (_, rest) => (Scan.blanks? rest).any (Scan.startsWithWord words)
  | none => false

/-- Whether a line is a directive: one of the keywords, a word after a dot, or a segment's start or
end. -/
def isDirective (line : List Char) : Bool :=
  let s := trimStart line
  Scan.startsWithWord ["TITLE", "INCLUDELIB", "include", "PUBLIC", "EXTRN", "END"] s ||
    (match s with
     | '.' :: c :: _ => isWord c
     | _ => false) ||
    isNamed ["SEGMENT", "ENDS"] line

/-- The label that a line defines at its start. -/
def label? (line : List Char) : Option (List Char) := do
  let (name, rest) ← Scan.run? isLabelChar line
  if rest.head? = some ':' then some name else none

/-- Whether a line is blank or a comment. -/
def isComment (line : List Char) : Bool :=
  (trimStart line).head?.all (· == ';')

/-- What a line is; the first description that fits counts. -/
def classify (line : List Char) : LineKind :=
  if isComment line then .comment
  else if isNamed ["PROC"] line then .procedure
  else if isNamed ["ENDP"] line then .procedureEnd
  else if isDirective line then .directive
  else
    match label? line with
    | some name => .label name
    | none => .code

/-- The file that a marker names: the rest of the line without its trailing blanks. -/
def fileMarker? (line : List Char) : Option Path := do
  let rest ← Scan.literal? "; File " line
  let name := trimEnd rest
  if name.isEmpty then if rest.isEmpty then none else some (Path.ofChars (rest.take 1))
  else some (Path.ofChars name)

/-- The digits of the line that a marker names. -/
def lineMarker? (line : List Char) : Option (List Char) := do
  let (digits, _) ← Scan.digits? (← Scan.literal? "; Line " line)
  some digits

/-- The names that a listing refers to: those of its indented lines, but for comments and
directives. -/
def used (lines : List (List Char)) : List (List Char) :=
  (lines.filter fun line =>
      line.head?.any isBlank && (trimStart line).head? != some ';' && !isDirective line).flatMap
    Scan.names

/-- The place in force. -/
structure Place where
  /-- The file of the last marker. -/
  file : Option Path := none
  /-- The line of the last marker, unless it has been ended. -/
  line : Option UInt32 := none
deriving Inhabited

namespace Place

/-- The place after the markers of a line. -/
def afterMarker (place : Place) (line : List Char) : Place :=
  match fileMarker? line with
  | some file => { file := some file, line := none }
  | none =>
    match lineMarker? line with
    | some digits => { place with line := (Scan.number? digits).filter (· != 0) }
    | none => place

/-- The place after a line: the end of a procedure ends the line in force. -/
def after (place : Place) (line : List Char) : Place :=
  let place := place.afterMarker line
  if classify line = .procedureEnd then { place with line := none } else place

/-- The location of code at this place. -/
def location? (place : Place) : Option SourceLocation := do
  some { file := ← place.file, line := ← place.line, column := none }

end Place

/-- A line with what is known about it. -/
structure Entry where
  /-- The line. -/
  line : List Char
  /-- What it is. -/
  kind : LineKind
  /-- The place it is attributed to; only code is. -/
  source : Option SourceLocation
deriving Inhabited

/-- The entries of the lines, given the place in force before the first. -/
def entriesFrom (place : Place) : List (List Char) → List Entry
  | [] => []
  | line :: rest =>
    let kind := classify line
    let place := place.after line
    { line, kind, source := if kind = .code then place.location? else none } ::
      entriesFrom place rest

/-- The entries of a listing. -/
def entries (lines : List (List Char)) : List Entry :=
  entriesFrom {} lines

/-- Whether the filters keep entries of this kind. -/
def keepsKind (filters : FilterOptions) (used : List (List Char)) : LineKind → Bool
  | .comment => !filters.commentOnly
  | .procedureEnd => !filters.directives
  | .directive => !filters.directives
  | .label name => !filters.labels || used.contains name
  | .procedure => true
  | .code => true

/-- The line shown for an entry. -/
def Entry.shown (filters : FilterOptions) (e : Entry) : ParsedLine :=
  { text := Scan.shown filters.trim e.line, source := e.source }

/-- The lines of a listing that the filters show. -/
def parse (text : List Char) (filters : FilterOptions) : List ParsedLine :=
  let lines := Text.lines text
  let names := used lines
  ((entries lines).filter fun e => keepsKind filters names e.kind).map (Entry.shown filters)

end AsmExplorer.Masm
