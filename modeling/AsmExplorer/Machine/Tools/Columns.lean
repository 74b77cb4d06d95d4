import AsmExplorer.Machine.Tools.Basic
import AsmExplorer.Text.Word

/-!
# Parts of lines

The tools that take lines apart, compare neighbours, or turn texts around.
-/

namespace AsmExplorer.Tools

/-- Passes on what becomes of the lines of every operand. -/
def overLines (names : List String) (f : List (List Char) → List (List Char)) : Tool := fun p =>
  overOperands p names fun c bytes =>
    let lines := (textLines (Text.decodeLossy bytes)).map (·.1)
    c.say ((f lines).flatMap fun line => line ++ ['\n'])

/-- Whether a place, counted from 1, is one of those that a list such as `1,3-5,7-` names. -/
def isListed (list : List Char) (place : Nat) : Bool :=
  (list.splitOn ',').any fun part =>
    match Text.splitFirst '-' part with
    | none => Text.nat? part == some place
    | some (low, high) =>
      (Text.nat? low).all (· ≤ place) && (Text.nat? high).all (place ≤ ·)

/-- The items at the places that a list names. -/
def listed {α : Type} (list : List Char) (items : List α) : List α :=
  (items.zipIdx.filter fun (_, i) => isListed list (i + 1)).map (·.1)

/-- What to cut out of a line. -/
structure Slice where
  /-- The list of places. -/
  list : List Char := []
  /-- Whether the places are those of fields, not of characters. -/
  fields : Bool := false
  /-- The character between fields. -/
  delimiter : Char := '\t'

/-- The slice with what an option says. -/
def Slice.set (s : Slice) (letter : Char) (value : List Char) : Slice :=
  match letter with
  | 'd' => { s with delimiter := value.headD '\t' }
  | 'f' => { s with list := value, fields := true }
  | 'c' => { s with list := value }
  | _ => s

/-- The slice that the arguments ask for, and the operands. -/
def Slice.ofArgs : List String → Slice × List String
  | [] => ({}, [])
  | arg :: rest =>
    match arg.toList, rest with
    | ['-', letter], value :: rest =>
      let (s, names) := Slice.ofArgs rest
      (s.set letter value.toList, names)
    | '-' :: letter :: value, rest =>
      let (s, names) := Slice.ofArgs rest
      (s.set letter value, names)
    | _, rest =>
      let (s, names) := Slice.ofArgs rest
      (s, arg :: names)

/-- The slice of a line; a line without fields stays as it is. -/
def Slice.of (s : Slice) (line : List Char) : List Char :=
  if s.fields then
    if line.contains s.delimiter then
      Text.joinWith [s.delimiter] (listed s.list (line.splitOn s.delimiter))
    else line
  else listed s.list line

/-- Cuts characters or fields out of lines. -/
def cut : Tool := fun p =>
  let (slice, names) := Slice.ofArgs p.args
  overLines names (·.map slice.of) p

/-- Runs of equal lines, each with its length. -/
def runs (lines : List (List Char)) : List (List Char × Nat) :=
  lines.foldr
    (fun line found =>
      match found with
      | (next, n) :: rest => if line = next then (next, n + 1) :: rest else (line, 1) :: found
      | [] => [(line, 1)])
    []

/-- Passes on one line of each run of equal lines. -/
def uniq : Tool := fun p =>
  overLines (operands p.args)
    (fun lines =>
      let found := (runs lines).filter fun (_, n) =>
        (!hasOption p 'd' || n > 1) && (!hasOption p 'u' || n = 1)
      found.map fun (line, n) =>
        if hasOption p 'c' then
          let digits := Text.decimal n
          List.replicate (7 - digits.length) ' ' ++ digits ++ ' ' :: line
        else line)
    p

/-- A line with its line end, if it has one. -/
def closedLine : List Char × Bool → List Char
  | (line, ended) => if ended then line ++ ['\n'] else line

/-- Passes lines on in reverse order. -/
def tac : Tool := fun p =>
  overOperands p (operands p.args) fun c bytes =>
    c.say ((textLines (Text.decodeLossy bytes)).reverse.flatMap closedLine)

/-- Passes lines on with their characters in reverse order. -/
def rev : Tool := fun p =>
  overOperands p (operands p.args) fun c bytes =>
    c.say ((textLines (Text.decodeLossy bytes)).flatMap fun (line, ended) =>
      closedLine (line.reverse, ended))

end AsmExplorer.Tools
