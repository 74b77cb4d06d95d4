import AsmExplorer.Machine.CharSet

/-!
# Shell patterns

Patterns of `*`, `?`, sets and plain characters, which match whole texts.
-/

namespace AsmExplorer.Glob

/-- A part of a pattern. -/
inductive Item where
  /-- One given character. -/
  | char (c : Char)
  /-- One character of a set. -/
  | set (s : CharSet)
  /-- Any one character. -/
  | one
  /-- Any text. -/
  | many
deriving DecidableEq, Inhabited

/-- Reads a pattern from characters marked as quoted or not; a quoted character stands for itself.
Every part takes a character, so `fuel` is the number of characters. -/
def ofMarked : (fuel : Nat) → List (Char × Bool) → List Item
  | 0, _ => []
  | _, [] => []
  | fuel + 1, (c, quoted) :: rest =>
    let plain := Item.char c :: ofMarked fuel rest
    if quoted then plain
    else
      match c with
      | '*' => .many :: ofMarked fuel rest
      | '?' => .one :: ofMarked fuel rest
      | '[' =>
        match CharSet.ofChars? (rest.map (·.1)) with
        | some (s, after) => .set s :: ofMarked fuel (rest.drop (rest.length - after.length))
        | none => plain
      | _ => plain

/-- Whether a whole text fits a pattern. -/
def fits : List Item → List Char → Bool
  | [], s => s.isEmpty
  | .many :: ps, s => (List.range (s.length + 1)).any fun k => fits ps (s.drop k)
  | .char c :: ps, x :: s => x == c && fits ps s
  | .set cs :: ps, x :: s => cs.contains x && fits ps s
  | .one :: ps, _ :: s => fits ps s
  | _ :: _, [] => false

/-- The text without the shortest or longest part at its start that fits. -/
def dropStart (longest : Bool) (pattern : List Item) (s : List Char) : List Char :=
  let lengths := List.range (s.length + 1)
  match (if longest then lengths.reverse else lengths).find? fun k => fits pattern (s.take k) with
  | some k => s.drop k
  | none => s

/-- The text without the shortest or longest part at its end that fits. -/
def dropEnd (longest : Bool) (pattern : List Item) (s : List Char) : List Char :=
  let lengths := List.range (s.length + 1)
  match (if longest then lengths else lengths.reverse).find? fun k => fits pattern (s.drop k) with
  | some k => s.take k
  | none => s

end AsmExplorer.Glob
