import AsmExplorer.Text.Word
import AsmExplorer.Text.Blank
import AsmExplorer.Text.Percent

/-!
# Sums in shell scripts

The whole numbers that scripts compute: literals and variables joined by the usual operators.  A
comparison has the value 1 where it holds and 0 elsewhere; numbers have 64 bits.
-/

namespace AsmExplorer.Shell

/-- Passes over blanks and line ends. -/
def skipSpace (s : List Char) : List Char :=
  s.dropWhile fun c => c == ' ' || c == '\t' || c == '\n'

/-- A truth value as a number. -/
def truth (b : Bool) : Int :=
  if b then 1 else 0

/-- The value of a literal: hexadecimal after `0x`, octal after `0`, otherwise decimal. -/
def literal? (word : List Char) : Option Nat :=
  let value (radix : Nat) (digits : List Char) : Option Nat :=
    digits.foldl
      (fun n c => do
        let d ← Text.hexValue? c
        if d < radix then (← n) * radix + d else none)
      (some 0)
  match word with
  | '0' :: 'x' :: digits => value 16 digits
  | '0' :: 'X' :: digits => value 16 digits
  | '0' :: digits => value 8 digits
  | digits => value 10 digits

/-- Why a sum has no value. -/
inductive SumFault where
  /-- An operand is missing, or something stands where none may. -/
  | noOperand
  /-- Something follows the sum. -/
  | noEnd
  /-- A quotient by zero. -/
  | divisionByZero
deriving DecidableEq, Inhabited

/-- The wording of a fault. -/
def SumFault.message : SumFault → String
  | noOperand => "expecting primary"
  | noEnd => "expecting EOF"
  | divisionByZero => "division by zero"

/-- The operator at the start of a text: how tightly it binds, what it computes, and the rest.
There is no quotient by zero. -/
def operator? : List Char → Option (Nat × (Int → Int → Option Int) × List Char)
  | '|' :: '|' :: rest => some (1, fun a b => some (truth (a != 0 || b != 0)), rest)
  | '&' :: '&' :: rest => some (2, fun a b => some (truth (a != 0 && b != 0)), rest)
  | '=' :: '=' :: rest => some (3, fun a b => some (truth (a == b)), rest)
  | '!' :: '=' :: rest => some (3, fun a b => some (truth (a != b)), rest)
  | '<' :: '=' :: rest => some (4, fun a b => some (truth (decide (a ≤ b))), rest)
  | '>' :: '=' :: rest => some (4, fun a b => some (truth (decide (b ≤ a))), rest)
  | '<' :: rest => some (4, fun a b => some (truth (decide (a < b))), rest)
  | '>' :: rest => some (4, fun a b => some (truth (decide (b < a))), rest)
  | '+' :: rest => some (5, fun a b => some (a + b), rest)
  | '-' :: rest => some (5, fun a b => some (a - b), rest)
  | '*' :: rest => some (6, fun a b => some (a * b), rest)
  | '/' :: rest => some (6, fun a b => if b = 0 then none else some (Int.tdiv a b), rest)
  | '%' :: rest => some (6, fun a b => if b = 0 then none else some (Int.tmod a b), rest)
  | _ => none

mutual

/-- The value of an operand: a number, a variable, a sign before an operand, or a sum between
parentheses. -/
def operand (value : List Char → Int) (fuel : Nat) (s : List Char) :
    Except SumFault (Int × List Char) :=
  match fuel with
  | 0 => .error .noOperand
  | fuel + 1 =>
    match skipSpace s with
    | '(' :: rest => do
      let (a, rest) ← terms value fuel 0 rest
      match skipSpace rest with
      | ')' :: rest => .ok (a, rest)
      | _ => .error .noOperand
    | '-' :: rest => (operand value fuel rest).map fun (a, rest) => (-a, rest)
    | '+' :: rest => operand value fuel rest
    | '!' :: rest => (operand value fuel rest).map fun (a, rest) => (truth (a == 0), rest)
    | s =>
      let word := s.takeWhile fun c => c.isAlphanum || c == '_'
      let rest := s.drop word.length
      match word with
      | [] => .error .noOperand
      | c :: _ =>
        if c.isDigit then
          match literal? word with
          | some n => .ok (Int.ofNat n, rest)
          | none => .error .noEnd
        else .ok (value word, rest)

/-- The value of operands joined by operators that bind at least as tightly as `least`. -/
def terms (value : List Char → Int) (fuel least : Nat) (s : List Char) :
    Except SumFault (Int × List Char) :=
  match fuel with
  | 0 => .error .noOperand
  | fuel + 1 => do
    let (a, rest) ← operand value fuel s
    moreTerms value fuel least a rest

/-- The value of a sum that goes on after its first operand. -/
def moreTerms (value : List Char → Int) (fuel least : Nat) (a : Int) (s : List Char) :
    Except SumFault (Int × List Char) :=
  match fuel with
  | 0 => .error .noOperand
  | fuel + 1 =>
    match operator? (skipSpace s) with
    | none => .ok (a, s)
    | some (level, compute, rest) =>
      if level < least then .ok (a, s)
      else do
        let (b, rest) ← terms value fuel (level + 1) rest
        match compute a b with
        | some c => moreTerms value fuel least c rest
        | none => .error .divisionByZero

end

/-- The value of a whole sum; an empty one is zero. -/
def sum (value : List Char → Int) (s : List Char) : Except SumFault Int :=
  if (skipSpace s).isEmpty then .ok 0
  else do
    let (a, rest) ← terms value (4 * s.length + 8) 0 s
    if (skipSpace rest).isEmpty then .ok (Int.bmod a Text.bound64) else .error .noEnd

end AsmExplorer.Shell
