import AsmExplorer.Data.Value
import AsmExplorer.Text.Percent

/-!
# JSON

Structured data as JSON text.  `Json.compact` and `Json.pretty` write it, the latter with two
spaces of indentation; `Json.parse?` reads it.  Numbers with a fraction or an exponent, and `-0`,
are no integers.
-/

namespace AsmExplorer.Json

/-! ### Writing -/

/-- A character inside a string. -/
def escape (c : Char) : List Char :=
  match c with
  | '"' => ['\\', '"']
  | '\\' => ['\\', '\\']
  | '\n' => ['\\', 'n']
  | '\r' => ['\\', 'r']
  | '\t' => ['\\', 't']
  | '\x08' => ['\\', 'b']
  | '\x0c' => ['\\', 'f']
  | c =>
    if c.toNat < 0x20 then
      ['\\', 'u', '0', '0', Char.ofNat ('0'.toNat + c.toNat / 16),
        (Nat.toDigits 16 (c.toNat % 16)).headD '0']
    else [c]

/-- A string with its quotes. -/
def quote (s : String) : String :=
  String.ofList ('"' :: s.toList.flatMap escape ++ ['"'])

mutual

/-- Data on one line, without blanks. -/
def compact : Data → String
  | .null => "null"
  | .bool b => if b then "true" else "false"
  | .integer n => toString n
  | .scalar spelling => spelling
  | .text s => quote s
  | .list items => "[" ++ ",".intercalate (compactItems items) ++ "]"
  | .record fields => "\x7b" ++ ",".intercalate (compactFields fields) ++ "\x7d"

/-- The items of a list on one line each. -/
def compactItems : List Data → List String
  | [] => []
  | d :: rest => compact d :: compactItems rest

/-- The fields of a record on one line each. -/
def compactFields : List (String × Data) → List String
  | [] => []
  | (key, d) :: rest => (quote key ++ ":" ++ compact d) :: compactFields rest

end

/-- The indentation of a line. -/
def indentation (depth : Nat) : String :=
  String.ofList (List.replicate (2 * depth) ' ')

/-- Parts between brackets, each on an indented line of its own. -/
def enclose (open_ close : String) (depth : Nat) (parts : List String) : String :=
  if parts.isEmpty then open_ ++ close
  else
    open_ ++ "\n" ++ ",\n".intercalate (parts.map (indentation (depth + 1) ++ ·)) ++ "\n" ++
      indentation depth ++ close

mutual

/-- Data over several lines, the first of which stands at the given depth. -/
def prettyAt (depth : Nat) : Data → String
  | .list items => enclose "[" "]" depth (prettyItems (depth + 1) items)
  | .record fields => enclose "\x7b" "\x7d" depth (prettyFields (depth + 1) fields)
  | d => compact d

/-- The items of a list at the given depth. -/
def prettyItems (depth : Nat) : List Data → List String
  | [] => []
  | d :: rest => prettyAt depth d :: prettyItems depth rest

/-- The fields of a record at the given depth. -/
def prettyFields (depth : Nat) : List (String × Data) → List String
  | [] => []
  | (key, d) :: rest => (quote key ++ ": " ++ prettyAt depth d) :: prettyFields depth rest

end

/-- Data over several lines. -/
def pretty (d : Data) : String :=
  prettyAt 0 d

/-! ### Reading -/

/-- The text without leading blanks. -/
def skip (s : List Char) : List Char :=
  s.dropWhile fun c => c == ' ' || c == '\n' || c == '\r' || c == '\t'

/-- The character of a short escape. -/
def shortEscape? (c : Char) : Option Char :=
  match c with
  | '"' => some '"'
  | '\\' => some '\\'
  | '/' => some '/'
  | 'b' => some '\x08'
  | 'f' => some '\x0c'
  | 'n' => some '\n'
  | 'r' => some '\r'
  | 't' => some '\t'
  | _ => none

/-- The characters of a string up to its closing quote, and what follows.  Two escaped surrogates
make one character; a lone one is refused. -/
def string? : List Char → Option (List Char × List Char)
  | [] => none
  | '"' :: rest => some ([], rest)
  | '\\' :: 'u' :: a :: b :: c :: d :: '\\' :: 'u' :: e :: f :: g :: h :: rest => do
    let high ← Text.hexNumber? [a, b, c, d]
    if 0xD800 ≤ high ∧ high < 0xDC00 then
      let low ← Text.hexNumber? [e, f, g, h]
      if 0xDC00 ≤ low ∧ low < 0xE000 then
        let (s, after) ← string? rest
        some (Char.ofNat (0x10000 + (high - 0xD800) * 0x400 + (low - 0xDC00)) :: s, after)
      else none
    else if 0xDC00 ≤ high ∧ high < 0xE000 then none
    else
      let (s, after) ← string? ('\\' :: 'u' :: e :: f :: g :: h :: rest)
      some (Char.ofNat high :: s, after)
  | '\\' :: 'u' :: a :: b :: c :: d :: rest => do
    let n ← Text.hexNumber? [a, b, c, d]
    if 0xD800 ≤ n ∧ n < 0xE000 then none
    else
      let (s, after) ← string? rest
      some (Char.ofNat n :: s, after)
  | '\\' :: c :: rest => do
    let c ← shortEscape? c
    let (s, after) ← string? rest
    some (c :: s, after)
  | c :: rest =>
    if c.toNat < 0x20 then none
    else (string? rest).map fun (s, after) => (c :: s, after)

/-- Characters of a number. -/
def isNumberChar (c : Char) : Bool :=
  c.isDigit || c == '-' || c == '+' || c == '.' || c == 'e' || c == 'E'

/-- Digits without a leading zero, unless the zero is all. -/
def isPlainDigits (digits : List Char) : Bool :=
  !digits.isEmpty && digits.all Char.isDigit && (digits.length == 1 || digits.head? != some '0')

/-- The value of the characters of a number. -/
def number? (cs : List Char) : Option Data :=
  let (sign, digits) :=
    match cs with
    | '-' :: rest => (true, rest)
    | rest => (false, rest)
  if isPlainDigits digits then
    if sign ∧ digits = ['0'] then some (.scalar "-0")
    else (Text.nat? digits).map fun n => .integer (if sign then -(n : Int) else n)
  else
    let whole := digits.takeWhile Char.isDigit
    let (fraction, rest) :=
      match digits.dropWhile Char.isDigit with
      | '.' :: more => (some (more.takeWhile Char.isDigit), more.dropWhile Char.isDigit)
      | more => (none, more)
    let exponentFits :=
      match rest with
      | [] => fraction.isSome
      | _ :: '+' :: more => !more.isEmpty && more.all Char.isDigit
      | _ :: '-' :: more => !more.isEmpty && more.all Char.isDigit
      | e :: more => (e == 'e' || e == 'E') && !more.isEmpty && more.all Char.isDigit
    if isPlainDigits whole ∧ fraction ≠ some [] ∧ exponentFits then
      some (.scalar (String.ofList cs))
    else none

mutual

/-- Reads one value; `fuel` bounds the depth and the number of parts. -/
def value? (fuel : Nat) (s : List Char) : Option (Data × List Char) :=
  match fuel with
  | 0 => none
  | fuel + 1 =>
    match skip s with
    | '\x7b' :: rest =>
      match skip rest with
      | '\x7d' :: after => some (.record [], after)
      | rest => (members? fuel rest).map fun (fields, after) => (.record fields, after)
    | '[' :: rest =>
      match skip rest with
      | ']' :: after => some (.list [], after)
      | rest => (items? fuel rest).map fun (items, after) => (.list items, after)
    | '"' :: rest => (string? rest).map fun (s, after) => (.text (String.ofList s), after)
    | 'n' :: 'u' :: 'l' :: 'l' :: after => some (.null, after)
    | 't' :: 'r' :: 'u' :: 'e' :: after => some (.bool true, after)
    | 'f' :: 'a' :: 'l' :: 's' :: 'e' :: after => some (.bool false, after)
    | s => (number? (s.takeWhile isNumberChar)).map fun d => (d, s.dropWhile isNumberChar)

/-- Reads the items of a list up to its closing bracket. -/
def items? (fuel : Nat) (s : List Char) : Option (List Data × List Char) :=
  match fuel with
  | 0 => none
  | fuel + 1 => do
    let (d, rest) ← value? fuel s
    match skip rest with
    | ',' :: rest =>
      let (more, after) ← items? fuel rest
      some (d :: more, after)
    | ']' :: after => some ([d], after)
    | _ => none

/-- Reads the fields of a record up to its closing brace. -/
def members? (fuel : Nat) (s : List Char) : Option (List (String × Data) × List Char) :=
  match fuel with
  | 0 => none
  | fuel + 1 => do
    let key ←
      match skip s with
      | '"' :: rest => string? rest
      | _ => none
    let afterColon ←
      match skip key.2 with
      | ':' :: rest => some rest
      | _ => none
    let (d, rest) ← value? fuel afterColon
    let field := (String.ofList key.1, d)
    match skip rest with
    | ',' :: rest =>
      let (more, after) ← members? fuel rest
      some (field :: more, after)
    | '\x7d' :: after => some ([field], after)
    | _ => none

end

/-- Reads a text that holds one value.  Every part takes a character, so the length of the text
bounds the parts. -/
def parse? (text : String) : Option Data :=
  let s := text.toList
  match value? (s.length + 1) s with
  | some (d, rest) => if (skip rest).isEmpty then some d else none
  | none => none

end AsmExplorer.Json
