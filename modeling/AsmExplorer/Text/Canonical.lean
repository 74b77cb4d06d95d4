import AsmExplorer.Text.Canonical.Table

/-!
# Composed form

A letter with its marks can be written as one character or as several.  `Text.composed` writes it as
one wherever there is such a character: it takes all characters apart, sorts the marks after each
base character by their combining class, and puts together what belongs together (the composed
normal form).

Characters whose composed form is not the character itself have no place here: what is composed has
been through the replacement of compatibility characters, which leaves none of them.
-/

namespace AsmExplorer.Text

namespace Canonical

/-- The combining class: marks of different classes do not interact, and those of class zero are
base characters. -/
def combiningClass (c : Char) : Nat :=
  if c.toNat < 0x300 then 0 else ((classSpans.find? c.toNat).bind (·.values.head?)).getD 0

/-! ### Hangul syllables -/

/-- The first syllable. -/
def syllableBase : Nat := 0xAC00

/-- The first leading consonant, of 19. -/
def leadBase : Nat := 0x1100

/-- The first vowel, of 21. -/
def vowelBase : Nat := 0x1161

/-- The code point before the first trailing consonant, of 27. -/
def trailBase : Nat := 0x11A7

/-- How many syllables start with one leading consonant: 21 vowels, each with one of 27 trailing
consonants or none. -/
def syllablesPerLead : Nat := 588

/-- The consonants and the vowel of a syllable. -/
def syllableParts (n : Nat) : List Nat :=
  let place := n - syllableBase
  [leadBase + place / syllablesPerLead, vowelBase + place % syllablesPerLead / 28] ++
    (if place % 28 = 0 then [] else [trailBase + place % 28])

/-- The syllable of a leading consonant and a vowel, or of an open syllable and a trailing
consonant. -/
def syllable? (a b : Nat) : Option Nat :=
  if leadBase ≤ a ∧ a < leadBase + 19 ∧ vowelBase ≤ b ∧ b < vowelBase + 21 then
    some (syllableBase + (a - leadBase) * syllablesPerLead + (b - vowelBase) * 28)
  else if syllableBase ≤ a ∧ a ≤ 0xD7A3 ∧ (a - syllableBase) % 28 = 0 ∧ trailBase < b ∧
      b < trailBase + 28 then
    some (a + (b - trailBase))
  else none

/-! ### Taking apart -/

/-- The characters that a code point stands for, taken apart so many times. -/
def partsWithin : Nat → Nat → List Nat
  | 0, n => [n]
  | times + 1, n =>
    match (pairSpans.find? n).map (·.values) with
    | some [a, b] => partsWithin times a ++ [b]
    | _ => [n]

/-- The characters that a code point stands for, none of which can be taken apart: no character has
more than three marks. -/
def parts (n : Nat) : List Nat :=
  if syllableBase ≤ n ∧ n ≤ 0xD7A3 then syllableParts n else partsWithin 3 n

/-- Puts a character behind those marks already there whose class is not greater; the marks are in
reverse. -/
def insertMark (c : Char) : List Char → List Char
  | [] => [c]
  | d :: before =>
    if combiningClass c < combiningClass d then d :: insertMark c before else c :: d :: before

/-- The text with the marks behind each base character sorted by their class. -/
def sortMarks (cs : List Char) : List Char :=
  (cs.foldl
    (fun done c => if combiningClass c = 0 then c :: done else insertMark c done) []).reverse

/-- The text with all characters taken apart, in canonical order. -/
def decomposed (cs : List Char) : List Char :=
  sortMarks (cs.flatMap fun c => (parts c.toNat).map Char.ofNat)

/-! ### Putting together -/

/-- The character that two characters are written as. -/
def pair? (a b : Char) : Option Char :=
  if b.toNat < 0x300 then none
  else
    match syllable? a.toNat b.toNat with
    | some n => some (Char.ofNat n)
    | none =>
      (pairSpans.spans.find? (·.values == [a.toNat, b.toNat])).map fun span => Char.ofNat span.first

/-- A text in the course of being put together. -/
structure Draft where
  /-- What is final, in reverse. -/
  written : List Char := []
  /-- The last base character. -/
  base : Option Char := none
  /-- The marks behind the last base character that stay marks, in reverse. -/
  marks : List Char := []
deriving Inhabited

namespace Draft

/-- All characters, in reverse. -/
def all (s : Draft) : List Char :=
  s.marks ++ s.base.toList ++ s.written

/-- Whether a mark that stays hides the base character from `c`: one of the same class does, and so
does any mark from another base character. -/
def hides (s : Draft) (c : Char) : Bool :=
  s.marks.head?.any fun m => combiningClass c ≤ combiningClass m

/-- Adds the next character. -/
def add (s : Draft) (c : Char) : Draft :=
  match if s.hides c then none else s.base.bind (pair? · c) with
  | some whole => { s with base := some whole }
  | none =>
    if combiningClass c = 0 then { written := s.all, base := some c, marks := [] }
    else { s with marks := c :: s.marks }

end Draft

end Canonical

/-- The composed form of a text.  Below U+0300 there are no marks, and every character is in
composed form. -/
def composed (cs : List Char) : List Char :=
  if cs.all (·.toNat < 0x300) then cs
  else ((Canonical.decomposed cs).foldl Canonical.Draft.add {}).all.reverse

end AsmExplorer.Text
