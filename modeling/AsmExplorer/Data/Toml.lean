import AsmExplorer.Data.Toml.Scalar
import AsmExplorer.Data.Toml.Table

/-!
# TOML

Structured data as TOML text.  `Toml.parse?` reads a document: a sequence of headers and of keys
with their values, on lines of their own.  Inline tables may run over several lines and end with a
comma.
-/

namespace AsmExplorer.Toml

/-! ### Lines -/

/-- The text without blanks at its start. -/
def skipSpace (s : List Char) : List Char :=
  s.dropWhile isSpace

/-- Passes over blanks, line ends and comments; `inComment` tells that the text starts within a
comment. -/
def skipLines : (inComment : Bool) → List Char → Option (List Char)
  | _, [] => some []
  | inComment, c :: rest =>
    if isLineBreak c rest then skipLines (c == '\r' && inComment) rest
    else if inComment then if isPlain c then skipLines true rest else none
    else if c = '#' then skipLines true rest
    else if isSpace c then skipLines false rest
    else some (c :: rest)

/-- Passes over the rest of a line, which may hold a comment and nothing else. -/
def endLine? (s : List Char) : Option (List Char) :=
  match skipSpace s with
  | [] => some []
  | '#' :: rest => skipLines true rest
  | rest => newline? rest

/-! ### Keys -/

/-- Characters of a key without quotes. -/
def isKeyChar (c : Char) : Bool :=
  c.isAlphanum || c == '_' || c == '-'

/-- A key without dots, and the rest. -/
def key? (s : List Char) : Option (String × List Char) :=
  let found :=
    if s.head?.any isKeyChar then some (s.takeWhile isKeyChar, s.dropWhile isKeyChar)
    else lineString? s
  found.map fun (key, rest) => (String.ofList key, rest)

/-- How deep values may be nested, and how many parts a key may have. -/
def maxDepth : Nat := 80

/-- The parts of a key with dots, `bound` at most, and the rest without blanks at its start. -/
def keyParts? : (bound : Nat) → List Char → Option (List String × List Char)
  | 0, _ => none
  | bound + 1, s => do
    let (key, rest) ← key? (skipSpace s)
    match skipSpace rest with
    | '.' :: rest =>
      let (path, rest) ← keyParts? bound rest
      some (key :: path, rest)
    | rest => some ([key], rest)

/-- The parts of a key with dots, and the rest without blanks at its start. -/
def keyPath? (s : List Char) : Option (List String × List Char) :=
  keyParts? maxDepth s

/-- A key with dots and the sign after it; the rest starts with the value. -/
def assignment? (s : List Char) : Option (List String × List Char) := do
  let (path, rest) ← keyPath? s
  match rest with
  | '=' :: rest => some (path, skipSpace rest)
  | _ => none

/-! ### Values -/

mutual

/-- A value, and the rest; `fuel` bounds the number of parts and `depth` how deep they are
nested. -/
def value? (fuel depth : Nat) (s : List Char) : Option (Data × List Char) :=
  match fuel with
  | 0 => none
  | fuel + 1 =>
    match s with
    | '[' :: rest =>
      if depth = 0 then none
      else (items? fuel (depth - 1) rest).map fun (items, rest) => (.list items, rest)
    | '\x7b' :: rest =>
      if depth = 0 then none
      else
        (members? fuel (depth - 1) [] rest).map fun (t, rest) =>
          (.record (fieldsToData t), rest)
    | s =>
      if s.head? = some '"' ∨ s.head? = some '\'' then
        (string? s).map fun (cs, rest) => (.text (String.ofList cs), rest)
      else
        let (cs, rest) := bareSpan s
        (bare? cs).map fun d => (d, rest)

/-- The items of an array after its opening bracket, and the rest. -/
def items? (fuel depth : Nat) (s : List Char) : Option (List Data × List Char) :=
  match fuel with
  | 0 => none
  | fuel + 1 => do
    match ← skipLines false s with
    | ']' :: rest => some ([], rest)
    | s =>
      let (d, rest) ← value? fuel depth s
      match ← skipLines false rest with
      | ',' :: rest =>
        let (more, rest) ← items? fuel depth rest
        some (d :: more, rest)
      | ']' :: rest => some ([d], rest)
      | _ => none

/-- The contents of an inline table after its opening brace, added to `t`, and the rest. -/
def members? (fuel depth : Nat) (t : Table) (s : List Char) : Option (Table × List Char) :=
  match fuel with
  | 0 => none
  | fuel + 1 => do
    match ← skipLines false s with
    | '\x7d' :: rest => some (t, rest)
    | s =>
      let (path, rest) ← assignment? s
      let (d, rest) ← value? fuel depth rest
      let t ← t.assign d path true
      match ← skipLines false rest with
      | ',' :: rest => members? fuel depth t rest
      | '\x7d' :: rest => some (t, rest)
      | _ => none

end

/-! ### Documents -/

/-- Reads the lines of a document into the tables; `header` is the way to the table that keys belong
to, and `fuel` bounds the number of lines. -/
def lines? : (fuel : Nat) → (header : List String) → Table → List Char → Option Table
  | 0, _, _, _ => none
  | fuel + 1, header, root, s => do
    match ← skipLines false s with
    | [] => some root
    | '[' :: '[' :: s =>
      let (path, rest) ← keyPath? s
      match rest with
      | ']' :: ']' :: rest => lines? fuel path (← root.openItem path) (← endLine? rest)
      | _ => none
    | '[' :: s =>
      let (path, rest) ← keyPath? s
      match rest with
      | ']' :: rest => lines? fuel path (← root.openTable path) (← endLine? rest)
      | _ => none
    | s =>
      let (path, rest) ← assignment? s
      let (d, rest) ← value? (rest.length + 1) maxDepth rest
      let root ← root.within (Table.assign d path true) header
      lines? fuel header root (← endLine? rest)

/-- Reads a document.  A byte order mark at its start is passed over. -/
def parse? (text : String) : Option Data :=
  let s := text.toList
  let s := if s.head? = some '\ufeff' then s.tail else s
  (lines? (s.length + 1) [] [] s).map fun t => .record (fieldsToData t)

end AsmExplorer.Toml
