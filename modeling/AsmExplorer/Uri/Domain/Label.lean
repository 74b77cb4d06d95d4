import AsmExplorer.Text.Canonical
import AsmExplorer.Uri.Domain.Script

/-!
# Direction and joining in labels

Two rules keep the labels of a domain name readable in every script:

* The *direction rule*: in a name with right-to-left letters, each label reads in one direction
  (RFC 5893).
* The *joiner rule*: the two invisible joiners stand only where they change how the letters around
  them are drawn (RFC 5892).
-/

namespace AsmExplorer.Domain

open Text

/-! ### Direction -/

/-- The bidirectional class of a character that a domain name may hold. -/
inductive Direction where
  /-- A left-to-right letter. -/
  | left
  /-- A right-to-left letter. -/
  | right
  /-- An Arabic letter. -/
  | arabicLetter
  /-- An Arabic number. -/
  | arabicNumber
  /-- A European number. -/
  | europeanNumber
  /-- A sign, separator or terminator of numbers, or another character without direction. -/
  | neutral
  /-- A mark, which follows its base character. -/
  | mark
deriving DecidableEq, Inhabited

namespace Direction

/-- The class of an ASCII character. -/
def ofAscii (c : Char) : Direction :=
  if c.isAlpha then left else if c.isDigit then europeanNumber else neutral

/-- The tables of the classes other than `left`. -/
def tables : List (Spans × Direction) :=
  [(rightToLeftSpans, right), (arabicLetterSpans, arabicLetter), (arabicNumberSpans, arabicNumber),
    (europeanNumberSpans, europeanNumber), (nonspacingSpans, mark), (signSpans, neutral),
    (separatorSpans, neutral), (terminatorSpans, neutral), (neutralSpans, neutral),
    (boundarySpans, neutral)]

/-- The class of a character. -/
def ofChar (c : Char) : Direction :=
  if c.toNat < 128 then ofAscii c
  else ((tables.find? fun (table, _) => table.contains c.toNat).map (·.2)).getD left

/-- Whether a character of the class calls for the direction rule. -/
def isRightward : Direction → Bool
  | right | arabicLetter | arabicNumber => true
  | _ => false

/-- Whether a label that starts with a letter of direction `first` reads in that direction: which
classes it may hold, and which may stand at its end, marks apart. -/
def agrees (first : Direction) (all : List Direction) : Bool :=
  let last := (all.reverse.dropWhile (· == mark)).head?
  match first with
  | left =>
    all.all (fun d => !d.isRightward) && last.any fun d => d == left || d == europeanNumber
  | right | arabicLetter =>
    all.all (· != left) && (last.any fun d => d.isRightward || d == europeanNumber) &&
      !(all.contains europeanNumber && all.contains arabicNumber)
  | _ => false

end Direction

/-- The direction rule for one label. -/
def readsOneWay (label : List Char) : Bool :=
  match label.map Direction.ofChar with
  | [] => true
  | first :: rest => first.agrees (first :: rest)

/-- The direction rule: it applies to all labels as soon as one holds a right-to-left character. -/
def obeyDirection (labels : List (List Char)) : Bool :=
  if labels.any (·.any fun c => (Direction.ofChar c).isRightward) then labels.all readsOneWay
  else true

/-! ### Joiners -/

/-- The joiner that makes the letters around it join. -/
def zeroWidthJoiner : Char := '\u200d'

/-- The joiner that keeps the letters around it apart. -/
def zeroWidthNonJoiner : Char := '\u200c'

/-- Signs that silence the vowel of a consonant: a joiner may follow them. -/
def isVirama (c : Char) : Bool :=
  Canonical.combiningClass c == 9

/-- Whether the first of the characters that joining does not look through is in one of the
tables. -/
def reaches (tables : List Spans) (cs : List Char) : Bool :=
  (cs.dropWhile fun c => transparentSpans.contains c.toNat).head?.any fun c =>
    tables.any (·.contains c.toNat)

/-- Whether a joiner between two texts is in place; the text before it is in reverse. -/
def joinerFits (before : List Char) (joiner : Char) (after : List Char) : Bool :=
  before.head?.any isVirama ||
    joiner == zeroWidthNonJoiner && reaches [leftJoiningSpans, dualJoiningSpans] before &&
      reaches [rightJoiningSpans, dualJoiningSpans] after

/-- The joiner rule for what follows a text in reverse. -/
def joinersFit (before : List Char) : List Char → Bool
  | [] => true
  | c :: rest =>
    (if c = zeroWidthJoiner ∨ c = zeroWidthNonJoiner then joinerFits before c rest else true) &&
      joinersFit (c :: before) rest

end AsmExplorer.Domain
