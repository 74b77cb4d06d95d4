import AsmExplorer.Text.Blank

/-!
# Punycode

The ASCII form of a label with characters outside ASCII: its ASCII characters, a hyphen if there
are any, and then, character by character in the order of their code points, the distance to the
place where the character is inserted, as variable-length numbers in base 36 (RFC 3492).
`Punycode.encode` writes this form and `Punycode.decode?` reads it.
-/

namespace AsmExplorer.Punycode

/-- The digit of a value below 36: letters first, then the ten digits. -/
def digit (n : Nat) : Char :=
  if n < 26 then Char.ofNat ('a'.toNat + n) else Char.ofNat ('0'.toNat + (n - 26))

/-- Repeated division of a distance by 35 while it exceeds 455; `k` counts the steps in units of
36. -/
def settle (delta k : Nat) : Nat :=
  if h : delta > 455 then settle (delta / 35) (k + 36) else k + 36 * delta / (delta + 38)
termination_by delta
decreasing_by omega

/-- The bias for the number after one of the given size, the first number of a label being damped
more. -/
def adapt (delta count : Nat) (first : Bool) : Nat :=
  let scaled := if first then delta / 700 else delta / 2
  settle (scaled + scaled / count) 0

/-- The threshold of the digit at position `k`. -/
def threshold (k bias : Nat) : Nat :=
  if k ≤ bias + 1 then 1 else if k ≥ bias + 26 then 26 else k - bias

/-- The digits of a number, the least significant first; `k` is the position of the digit in units
of 36.  A threshold lies between 1 and 35, so every division makes the number smaller. -/
def number (q k bias : Nat) : List Char :=
  let t := threshold k bias
  if h : t = 0 ∨ q < t ∨ 36 ≤ t then [digit q]
  else digit (t + (q - t) % (36 - t)) :: number ((q - t) / (36 - t)) (k + 36) bias
termination_by q
decreasing_by
  have := Nat.div_le_self (q - threshold k bias) (36 - threshold k bias)
  simp only [not_or, Nat.not_lt, Nat.not_le] at h
  omega

/-! ### Writing -/

/-- What the encoder carries from one character to the next. -/
structure Progress where
  /-- The distance since the last number was written. -/
  delta : Nat
  /-- The bias of the next number. -/
  bias : Nat
  /-- How many characters are in place. -/
  handled : Nat
  /-- Whether no number has been written yet. -/
  first : Bool
  /-- The digits written, in reverse. -/
  written : List Char

/-- Passes over one character of the label while those with code point `target` are inserted. -/
def passOver (target : Nat) (s : Progress) (c : Char) : Progress :=
  if c.toNat < target then { s with delta := s.delta + 1 }
  else if c.toNat = target then
    { delta := 0, bias := adapt s.delta (s.handled + 1) s.first, handled := s.handled + 1
      first := false, written := (number s.delta 36 s.bias).reverse ++ s.written }
  else s

/-- Inserts all characters with the code point `target`, having inserted those below `lower`. -/
def insertAll (label : List Char) (s : Progress) (lower target : Nat) : Progress :=
  let opened := { s with delta := s.delta + (target - lower) * (s.handled + 1) }
  let passed := label.foldl (passOver target) opened
  { passed with delta := passed.delta + 1 }

/-- Inserts the characters with each of the ascending code points in turn. -/
def insertEach (label : List Char) : Progress → Nat → List Nat → Progress
  | s, _, [] => s
  | s, lower, target :: more =>
    insertEach label (insertAll label s lower target) (target + 1) more

/-- The Punycode form of a label. -/
def encode (label : List Char) : List Char :=
  let basic := label.filter (·.toNat < 128)
  let others := ((label.map Char.toNat).filter (128 ≤ ·)).mergeSort.eraseDups
  let start : Progress :=
    { delta := 0, bias := 72, handled := basic.length, first := true, written := [] }
  let done := insertEach label start 128 others
  (if basic.isEmpty then [] else basic ++ ['-']) ++ done.written.reverse

/-! ### Reading -/

/-- The value of a digit. -/
def digitValue? (c : Char) : Option Nat :=
  if 'a' ≤ c ∧ c ≤ 'z' then some (c.toNat - 'a'.toNat)
  else if '0' ≤ c ∧ c ≤ '9' then some (c.toNat - '0'.toNat + 26)
  else none

/-- Adds the number that the text starts with to `sum`, and gives what follows the number; `k` is
the position of the next digit in units of 36 and `weight` what it counts for.  Numbers and weights
have 32 bits. -/
def readNumber? (bias k weight sum : Nat) : List Char → Option (Nat × List Char)
  | [] => none
  | c :: rest =>
    match digitValue? c with
    | none => none
    | some d =>
      let t := threshold k bias
      let more := sum + d * weight
      if more ≥ 0x100000000 then none
      else if d < t then some (more, rest)
      else if weight * (36 - t) ≥ 0x100000000 then none
      else readNumber? bias (k + 36) (weight * (36 - t)) more rest

theorem length_readNumber? {bias k weight sum total : Nat} {text rest : List Char}
    (h : readNumber? bias k weight sum text = some (total, rest)) :
    rest.length < text.length := by
  fun_induction readNumber? bias k weight sum text with
  | case1 => simp at h
  | case2 => simp at h
  | case3 => simp at h
  | case4 => simp_all
  | case5 => simp at h
  | case6 _ _ _ _ _ _ _ _ _ _ _ _ ih =>
    have := ih h
    simp only [List.length_cons]
    omega

/-- Inserts the characters that the numbers describe into `done`: the next one at `place` at the
earliest, with a code point of `lower` at least. -/
def insertNumbers? (done : List Char) (bias lower place : Nat) (text : List Char) :
    Option (List Char) :=
  if text.isEmpty then some done
  else
    match found : readNumber? bias 36 1 place text with
    | none => none
    | some (total, rest) =>
      have := length_readNumber? found
      let count := done.length + 1
      let code := lower + total / count
      if code.isValidChar then
        insertNumbers? (done.insertIdx (total % count) (Char.ofNat code))
          (adapt (total - place) count (place == 0)) code (total % count + 1) rest
      else none
termination_by text.length

/-- The label that a Punycode form stands for. -/
def decode? (text : List Char) : Option (List Char) :=
  match Text.splitLast '-' text with
  | some (c :: basic, numbers) => insertNumbers? (c :: basic) 72 128 0 numbers
  | _ => insertNumbers? [] 72 128 0 text

end AsmExplorer.Punycode
