import AsmExplorer.Machine.CharSet
import AsmExplorer.Text.Word

/-!
# Regular expressions

The basic and extended regular expressions of text tools.  In a basic expression the signs for
groups, counts and alternatives are written with a backslash, in an extended one without.

Matching tries alternatives in order and repeats as often as it can; `Regex.search` finds the first
place where the expression matches.
-/

namespace AsmExplorer

/-- A regular expression. -/
inductive Regex where
  /-- One given character. -/
  | char (c : Char)
  /-- Any character. -/
  | any
  /-- A character of a set. -/
  | set (s : CharSet)
  /-- The start of the text. -/
  | start
  /-- The end of the text. -/
  | finish
  /-- A numbered group. -/
  | group (n : Nat) (r : Regex)
  /-- What a group matched. -/
  | again (n : Nat)
  /-- Nothing. -/
  | empty
  /-- One after the other. -/
  | seq (a b : Regex)
  /-- The one or the other. -/
  | either (a b : Regex)
  /-- From `low` to `high` times, or without limit. -/
  | times (r : Regex) (low : Nat) (high : Option Nat)
deriving Inhabited

namespace Regex

/-- The number of parts. -/
def size : Regex → Nat
  | group _ r => r.size + 1
  | seq a b => a.size + b.size + 1
  | either a b => a.size + b.size + 1
  | times r low high => r.size * (low + high.getD 1 + 1) + 1
  | _ => 1

/-! ### Reading -/

/-- What is left to read, and the number of groups so far. -/
structure Reading where
  /-- The text. -/
  rest : List Char
  /-- The groups opened so far. -/
  groups : Nat

/-- A sign that is written with a backslash in a basic expression and without in an extended
one. -/
def sign? (extended : Bool) (c : Char) (s : List Char) : Option (List Char) :=
  if extended then Text.dropLead? [c] s else Text.dropLead? ['\\', c] s

/-- Whether a branch ends here. -/
def endsBranch (extended : Bool) (s : List Char) : Bool :=
  s.isEmpty || (sign? extended '|' s).isSome || (sign? extended ')' s).isSome

/-- The numbers of a count, up to its closing sign. -/
def count? (extended : Bool) (s : List Char) : Option ((Nat × Option Nat) × List Char) :=
  let low := s.takeWhile Char.isDigit
  match s.dropWhile Char.isDigit with
  | ',' :: rest =>
    let high := rest.takeWhile Char.isDigit
    (sign? extended '\x7d' (rest.dropWhile Char.isDigit)).map fun rest =>
      (((Text.nat? low).getD 0, Text.nat? high), rest)
  | rest => do
    let n ← Text.nat? low
    (sign? extended '\x7d' rest).map fun rest => ((n, some n), rest)

/-- Reads the counts after a part. -/
def counted (extended : Bool) : (fuel : Nat) → Regex → List Char → Regex × List Char
  | 0, r, s => (r, s)
  | fuel + 1, r, s =>
    match s with
    | '*' :: rest => counted extended fuel (times r 0 none) rest
    | s =>
      match sign? extended '+' s, sign? extended '?' s,
          sign? extended '\x7b' s >>= count? extended with
      | some rest, _, _ => counted extended fuel (times r 1 none) rest
      | _, some rest, _ => counted extended fuel (times r 0 (some 1)) rest
      | _, _, some ((low, high), rest) => counted extended fuel (times r low high) rest
      | none, none, none => (r, s)

/-- The character of an escape. -/
def escaped (c : Char) : Regex :=
  match c with
  | 'n' => char '\n'
  | 't' => char '\t'
  | c => if c.isDigit then again (c.toNat - '0'.toNat) else char c

mutual

/-- Reads alternatives up to the end of a group or text. -/
def alternatives? (extended : Bool) (fuel : Nat) (r : Reading) : Option (Regex × Reading) :=
  match fuel with
  | 0 => none
  | fuel + 1 => do
    let (a, r) ← branch? extended fuel true r
    match sign? extended '|' r.rest with
    | some rest =>
      let (b, r) ← alternatives? extended fuel { r with rest }
      some (either a b, r)
    | none => some (a, r)

/-- Reads parts one after the other; `first` tells that no part came before. -/
def branch? (extended : Bool) (fuel : Nat) (first : Bool) (r : Reading) :
    Option (Regex × Reading) :=
  match fuel with
  | 0 => none
  | fuel + 1 =>
    if endsBranch extended r.rest then some (empty, r)
    else do
      let (a, r) ← part? extended fuel first r
      let (a, rest) :=
        match a with
        | start => (a, r.rest)
        | a => counted extended r.rest.length a r.rest
      let (b, r) ← branch? extended fuel (a matches start) { r with rest }
      some (seq a b, r)

/-- Reads one part. -/
def part? (extended : Bool) (fuel : Nat) (first : Bool) (r : Reading) :
    Option (Regex × Reading) :=
  match fuel with
  | 0 => none
  | fuel + 1 =>
    match sign? extended '(' r.rest with
    | some rest => do
      let n := r.groups + 1
      let (a, r) ← alternatives? extended fuel { rest, groups := n }
      let rest ← sign? extended ')' r.rest
      some (group n a, { r with rest })
    | none =>
      match r.rest with
      | [] => none
      | '\\' :: c :: rest => some (escaped c, { r with rest })
      | '.' :: rest => some (any, { r with rest })
      | '[' :: rest => (CharSet.ofChars? rest).map fun (s, rest) => (set s, { r with rest })
      | '^' :: rest =>
        some (if extended || first then start else char '^', { r with rest })
      | '$' :: rest =>
        some (if extended || endsBranch extended rest then finish else char '$', { r with rest })
      | c :: rest => some (char c, { r with rest })

end

/-- Reads an expression. -/
def ofChars? (extended : Bool) (s : List Char) : Option Regex := do
  let (r, left) ← alternatives? extended (4 * s.length + 4) { rest := s, groups := 0 }
  if left.rest.isEmpty then some r else none

/-! ### Matching -/

/-- A place in a text, and what the groups matched. -/
structure Cursor where
  /-- The number of characters before it. -/
  position : Nat
  /-- The characters after it. -/
  rest : List Char
  /-- What the groups matched. -/
  groups : List (Nat × List Char)

/-- What is left to match. -/
inductive Goal where
  /-- An expression. -/
  | regex (r : Regex)
  /-- The end of a group that started at a place. -/
  | close (n : Nat) (from_ : Cursor)
  /-- That something was matched since a position. -/
  | progress (position : Nat)

/-- Matches the goals one after the other from a place on, and gives the place where they end.
`fuel` bounds the number of goals on the way. -/
def solve (ignoreCase : Bool) : (fuel : Nat) → List Goal → Cursor → Option Cursor
  | 0, _, _ => none
  | _, [], c => some c
  | fuel + 1, goal :: goals, c =>
    let step (fits : Char → Bool) : Option Cursor :=
      match c.rest with
      | x :: rest =>
        if fits x then
          solve ignoreCase fuel goals { c with position := c.position + 1, rest }
        else none
      | [] => none
    let same (a b : Char) : Bool := a == b || (ignoreCase && a.toLower == b.toLower)
    match goal with
    | .progress position =>
      if c.position = position then none else solve ignoreCase fuel goals c
    | .close n from_ =>
      let text := from_.rest.take (c.position - from_.position)
      solve ignoreCase fuel goals { c with groups := (n, text) :: c.groups }
    | .regex r =>
      match r with
      | char a => step (same a)
      | any => step fun _ => true
      | set s => step fun x =>
        s.contains x || (ignoreCase && (s.contains x.toLower || s.contains x.toUpper))
      | start => if c.position = 0 then solve ignoreCase fuel goals c else none
      | finish => if c.rest.isEmpty then solve ignoreCase fuel goals c else none
      | empty => solve ignoreCase fuel goals c
      | seq a b => solve ignoreCase fuel (.regex a :: .regex b :: goals) c
      | either a b =>
        solve ignoreCase fuel (.regex a :: goals) c <|> solve ignoreCase fuel (.regex b :: goals) c
      | group n a => solve ignoreCase fuel (.regex a :: .close n c :: goals) c
      | again n =>
        let text := (c.groups.lookup n).getD []
        match Text.dropLead? text c.rest with
        | some rest =>
          solve ignoreCase fuel goals { c with position := c.position + text.length, rest }
        | none => none
      | times a (low + 1) high =>
        solve ignoreCase fuel (.regex a :: .regex (times a low (high.map (· - 1))) :: goals) c
      | times _ 0 (some 0) => solve ignoreCase fuel goals c
      | times a 0 high =>
        solve ignoreCase fuel
            (.regex a :: .progress c.position :: .regex (times a 0 (high.map (· - 1))) :: goals)
            c <|>
          solve ignoreCase fuel goals c

/-- A match: the text before it, the matched text, what the groups matched, and the text after
it. -/
structure Match where
  /-- The text before. -/
  before : List Char
  /-- The matched text. -/
  text : List Char
  /-- What the groups matched. -/
  groups : List (Nat × List Char)
  /-- The text after. -/
  after : List Char

/-- The first match in a text, from a position on. -/
def searchFrom (ignoreCase : Bool) (r : Regex) (s : List Char) (position : Nat) : Option Match :=
  let fuel := 4 * (r.size + 4) * (s.length + 4)
  (List.range (s.length + 1 - position)).findSome? fun k =>
    let at_ := position + k
    (solve ignoreCase fuel [.regex r] { position := at_, rest := s.drop at_, groups := [] }).map
      fun c =>
        { before := s.take at_, text := (s.drop at_).take (c.position - at_), groups := c.groups
          after := c.rest }

/-- The first match in a text. -/
def search (ignoreCase : Bool) (r : Regex) (s : List Char) : Option Match :=
  searchFrom ignoreCase r s 0

end Regex

end AsmExplorer
