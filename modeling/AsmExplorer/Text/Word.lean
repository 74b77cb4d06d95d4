import AsmExplorer.Text.CharTable

/-!
# Word characters and digits

A *word character* may stand in an identifier of any language: letters, marks, digits, connectors
such as the underscore, and the two joiners.  A *digit* is a decimal digit of any script.  Numbers,
on the other hand, are read from the ten ASCII digits only (`Text.natBelow?`), so a field of
foreign digits is recognised as a number field and has no value.
-/

namespace AsmExplorer.Text

/-- Word characters: letters, marks, digits, connectors and joiners. -/
def isWord (c : Char) : Bool :=
  if c.toNat < 128 then c.isAlphanum || c = '_' else wordSpans.contains c.toNat

/-- Decimal digits of any script. -/
def isDigit (c : Char) : Bool :=
  if c.toNat < 128 then c.isDigit else digitSpans.contains c.toNat

/-- The value of a run of ASCII digits, `none` for an empty run or any other character. -/
def nat? : List Char → Option Nat
  | [] => none
  | cs =>
    if cs.all Char.isDigit then
      some (cs.foldl (fun n c => n * 10 + (c.toNat - '0'.toNat)) 0)
    else
      none

/-- The value of a run of ASCII digits that is less than `bound`. -/
def natBelow? (bound : Nat) (cs : List Char) : Option Nat :=
  (nat? cs).filter (· < bound)

/-- The decimal digits of a number. -/
def decimal (n : Nat) : List Char :=
  (toString n).toList

/-- Numbers of 32 bits. -/
def bound32 : Nat := 0x100000000

/-- Numbers of 64 bits. -/
def bound64 : Nat := 0x10000000000000000

end AsmExplorer.Text
