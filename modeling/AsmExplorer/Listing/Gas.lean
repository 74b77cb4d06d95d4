import AsmExplorer.Listing.Scan

/-!
# GNU assembler listings

The listings of GCC, clang and clang-cl.  The sources are named by `.file` directives and the place
of the instructions by `.loc` directives, so the compiler must be run with debug information.

A listing is read in three steps:

* `Gas.survey` : the file table, the main file, and the names that are referred to.
* `Gas.entries` : for each line its kind, whether it stands in a debug section, and the place that
  is in force there.
* `Gas.parse` : the lines that the filters show.  With `libraryCode` whole blocks are hidden: a
  *block* runs from one label that is not local to the next, and is hidden if it has code but none
  of the main file.
-/

namespace AsmExplorer.Gas

open Text

/-! ### Lines -/

/-- What a line is. -/
inductive LineKind where
  /-- It starts with the definition of a label. -/
  | label (name : List Char)
  /-- A directive that makes no data. -/
  | directive
  /-- A directive that makes data. -/
  | data
  /-- A comment only. -/
  | comment
  /-- Nothing. -/
  | blank
  /-- An instruction. -/
  | instruction
deriving DecidableEq, Inhabited

/-- Characters of a label or symbol. -/
def isNameChar (c : Char) : Bool :=
  isWord c || c == '$' || c == '.' || c == '@'

/-- Directives that make data. -/
def dataDirectives : List String :=
  ["string", "ascii", "asciz", "byte", "short", "long", "quad", "value", "word", "int", "zero",
    "octa", "float", "double", "skip", "space", "sleb128", "uleb128", "2byte", "4byte", "8byte"]

/-- The rest of a line after its leading blanks and the dot of a directive. -/
def afterDot? (line : List Char) : Option (List Char) :=
  match trimStart line with
  | '.' :: rest => some rest
  | _ => none

/-- A name, plain or in quotes, that a colon follows. -/
def nameBeforeColon? (s : List Char) : Option (List Char) :=
  match s with
  | '"' :: rest => do
    let (name, after) ← Scan.run? isNameChar rest
    match after with
    | '"' :: ':' :: _ => some name
    | _ => none
  | _ => do
    let (name, after) ← Scan.run? isNameChar s
    if after.head? = some ':' then some name else none

/-- The label that a line defines, possibly after `.proc`. -/
def label? (line : List Char) : Option (List Char) :=
  let s := trimStart line
  match Scan.literal? ".proc" s >>= Scan.blanks? with
  | some rest => nameBeforeColon? rest
  | none => nameBeforeColon? s

/-- Whether a line is a data directive. -/
def isData (line : List Char) : Bool :=
  (afterDot? line).any (Scan.startsWithWord dataDirectives)

/-- Whether a line is a directive of any kind. -/
def isDirective (line : List Char) : Bool :=
  (afterDot? line).any fun rest => rest.head?.any fun c => c.isAlpha || c == '_'

/-- Whether a line is a comment. -/
def isComment (line : List Char) : Bool :=
  match trimStart line with
  | '#' :: _ => true
  | ';' :: _ => true
  | '/' :: '/' :: _ => true
  | _ => false

/-- What a line is; the first description that fits counts. -/
def classify (line : List Char) : LineKind :=
  if line.all isBlank then .blank
  else
    match label? line with
    | some name => .label name
    | none =>
      if isData line then .data
      else if isDirective line then .directive
      else if isComment line then .comment
      else .instruction

/-- Labels of the compiler's own, which start no function. -/
def isLocal (name : List Char) : Bool :=
  ".L".toList.isPrefixOf name || "L.".toList.isPrefixOf name

/-! ### Directives that matter -/

/-- The arguments of the directive with the given name. -/
def arguments? (directive : String) (line : List Char) : Option (List Char) :=
  afterDot? line >>= Scan.literal? directive >>= Scan.blanks?

/-- A `.file` directive with a number: the digits and the path, whose directory may stand before
it. -/
def fileEntry? (line : List Char) : Option (List Char × Path) := do
  let rest ← arguments? "file" line
  let (digits, rest) ← Scan.digits? rest
  let rest ← Scan.blanks? rest
  let (first, rest) ← Scan.quoted? rest
  match Scan.blanks? rest >>= Scan.quoted? with
  | some (second, _) => some (digits, (Path.ofChars first).join (Path.ofChars second))
  | none => some (digits, Path.ofChars first)

/-- A `.file` directive without a number, which names the main file. -/
def mainFile? (line : List Char) : Option Path := do
  let (name, _) ← Scan.quoted? (← arguments? "file" line)
  some (Path.ofChars name)

/-- A `.loc` directive: the digits of file number, line and column. -/
def loc? (line : List Char) : Option (List Char × List Char × Option (List Char)) := do
  let (file, rest) ← Scan.digits? (← arguments? "loc" line)
  let (number, rest) ← Scan.digits? (← Scan.blanks? rest)
  some (file, number, ((Scan.blanks? rest >>= Scan.digits?).map (·.1)))

/-- The symbol that a line declares to be visible elsewhere. -/
def declared? (line : List Char) : Option (List Char) :=
  (["globl", "global", "weak"].findSome? fun directive =>
      arguments? directive line >>= Scan.run? isNameChar).map (·.1)

/-- The symbol that a line declares to be a function. -/
def functionType? (line : List Char) : Option (List Char) := do
  let (name, rest) ← Scan.run? isNameChar (← arguments? "type" line)
  let rest ← Scan.literal? "," (trimStart rest)
  match trimStart rest with
  | c :: rest =>
    if c = '@' ∨ c = '%' then (Scan.literal? "function" rest).map fun _ => name else none
  | [] => none

/-- Whether a line ends the place in force. -/
def resetsSource (line : List Char) : Bool :=
  (afterDot? line).any (Scan.startsWithWord ["cfi_endproc", "data", "text", "section"])

/-- Whether the lines after this one stand in a debug section, as far as this line says. -/
def section? (line : List Char) : Option Bool :=
  match arguments? "section" line >>= Scan.run? isNameChar with
  | some (name, _) => some (".debug".toList.isPrefixOf name)
  | none =>
    if (afterDot? line).any (Scan.startsWithWord ["text", "data", "bss"]) then some false else none

/-- Whether a line calls a debug intrinsic. -/
def isDebugCall (line : List Char) : Bool :=
  contains "@llvm.dbg.".toList line

/-! ### First step: files and references -/

/-- What is known about a listing before any line is shown. -/
structure Survey where
  /-- The files by number; the last one with a number counts. -/
  files : List (UInt32 × Path) := []
  /-- The main file, if one is named. -/
  main : Option Path := none
  /-- The names that instructions, data and declarations refer to. -/
  used : List (List Char) := []
deriving Inhabited

namespace Survey

/-- The file with a number. -/
def file? (s : Survey) (number : UInt32) : Option Path :=
  s.files.lookup number

/-- Whether a file is the main file: one path ends with the other.  Without a main file all are. -/
def isMain (s : Survey) (file : Path) : Bool :=
  match s.main with
  | some main => file.endsWith main || main.endsWith file
  | none => true

/-- Takes in one line, which stands in a debug section or not. -/
def addLine (s : Survey) (inDebug : Bool) (line : List Char) : Survey :=
  match fileEntry? line with
  | some (digits, path) =>
    match Scan.number? digits with
    | some number => { s with files := (number, path) :: s.files }
    | none => s
  | none =>
    match mainFile? line with
    | some main => { s with main := s.main <|> some main }
    | none =>
      match declared? line <|> functionType? line with
      | some name => { s with used := name :: s.used }
      | none =>
        match classify line with
        | .instruction => { s with used := Scan.names line ++ s.used }
        | .data => if inDebug then s else { s with used := Scan.names line ++ s.used }
        | _ => s

end Survey

/-- What is known after the lines, the first of which stands in a debug section or not. -/
def surveyFrom (s : Survey) (inDebug : Bool) : List (List Char) → Survey
  | [] => s
  | line :: rest =>
    let inDebug := (section? line).getD inDebug
    surveyFrom (s.addLine inDebug line) inDebug rest

/-- What is known about a listing. -/
def survey (lines : List (List Char)) : Survey :=
  surveyFrom {} false lines

/-! ### Second step: entries -/

/-- A line with what is known about it. -/
structure Entry where
  /-- The line. -/
  line : List Char
  /-- What it is. -/
  kind : LineKind
  /-- Whether it stands in a debug section. -/
  inDebug : Bool
  /-- The place in force; only instructions are attributed to it. -/
  place : Option SourceLocation
deriving Inhabited

/-- The place a `.loc` directive names; none if its file or its line is not known. -/
def placeOf (s : Survey) (file number : List Char) (column : Option (List Char)) :
    Option SourceLocation := do
  let path ← Scan.number? file >>= s.file?
  let line ← (Scan.number? number).filter (· != 0)
  some { file := path, line, column := (column >>= Scan.number?).filter (· != 0) }

/-- The place in force after a line. -/
def placeAfter (s : Survey) (place : Option SourceLocation) (line : List Char) :
    Option SourceLocation :=
  match loc? line with
  | some (file, number, column) => placeOf s file number column
  | none => if resetsSource line then none else place

/-- The entries of the lines, given what is in force before the first. -/
def entriesFrom (s : Survey) (place : Option SourceLocation) (inDebug : Bool) :
    List (List Char) → List Entry
  | [] => []
  | line :: rest =>
    let place := placeAfter s place line
    let inDebug := (section? line).getD inDebug
    { line, kind := classify line, inDebug, place } :: entriesFrom s place inDebug rest

/-- The entries of a listing. -/
def entries (s : Survey) (lines : List (List Char)) : List Entry :=
  entriesFrom s none false lines

namespace Entry

/-- The place an entry is attributed to. -/
def source (e : Entry) : Option SourceLocation :=
  if e.kind = .instruction then e.place else none

/-- Whether the filters look at an entry at all: debug sections go with the directives. -/
def inScope (filters : FilterOptions) (e : Entry) : Bool :=
  !(filters.directives && e.inDebug) && (filters.debugCalls || !isDebugCall e.line)

/-- Whether the filters keep entries of this kind. -/
def keepsKind (filters : FilterOptions) (used : List (List Char)) : LineKind → Bool
  | .label name => !filters.labels || used.contains name
  | .directive => !filters.directives
  | .comment => !filters.commentOnly
  | .blank => !filters.commentOnly
  | .data => true
  | .instruction => true

/-- Whether an entry starts a block. -/
def startsBlock (e : Entry) : Bool :=
  match e.kind with
  | .label name => !isLocal name
  | _ => false

/-- Whether an entry is code of the main file. -/
def isMainCode (s : Survey) (e : Entry) : Bool :=
  e.source.any fun loc => s.isMain loc.file

/-- The line shown for an entry. -/
def shown (filters : FilterOptions) (e : Entry) : ParsedLine :=
  { text := Scan.shown filters.trim e.line, source := e.source }

end Entry

/-! ### Third step: blocks and filters -/

/-- The blocks of a list: each but perhaps the first begins with a starting entry. -/
def blocks : List Entry → List (List Entry)
  | [] => [[]]
  | e :: rest =>
    match blocks rest with
    | block :: more => if e.startsBlock then [] :: (e :: block) :: more else (e :: block) :: more
    | [] => [[e]]

/-- Whether a block is library code: it has code, and none of the main file. -/
def isLibrary (s : Survey) (block : List Entry) : Bool :=
  block.any (·.kind == .instruction) && !block.any (·.isMainCode s)

/-- The entries that the filters show. -/
def visible (filters : FilterOptions) (s : Survey) (es : List Entry) : List Entry :=
  let inScope := es.filter (Entry.inScope filters)
  let kept :=
    if filters.libraryCode then ((blocks inScope).filter fun b => !isLibrary s b).flatten
    else inScope
  kept.filter fun e => Entry.keepsKind filters s.used e.kind

/-- The lines of a listing that the filters show. -/
def parse (text : List Char) (filters : FilterOptions) : List ParsedLine :=
  let lines := Text.lines text
  let s := survey lines
  (visible filters s (entries s lines)).map (Entry.shown filters)

end AsmExplorer.Gas
