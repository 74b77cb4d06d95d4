import AsmExplorer.Text.Blank
import AsmExplorer.Text.Utf8

/-!
# Percent and form encoding

A byte may be written as `%` and two hexadecimal digits.  Which bytes are written so depends on the
place in a URI; `Text.percentEncode` takes that choice as a predicate on ASCII characters, and
`Text.percentDecode` undoes any choice.  All bytes outside ASCII are written so.

*Form encoding* is the encoding of the pairs of a query: letters, digits and `*-._` stand for
themselves, a space is written `+`, and every other byte is percent-encoded.
-/

namespace AsmExplorer.Text

/-- The upper case hexadecimal digit of a value below 16. -/
def hexDigit (n : Nat) : Char :=
  if n < 10 then Char.ofNat ('0'.toNat + n) else Char.ofNat ('A'.toNat + (n - 10))

/-- The value of a hexadecimal digit of either case. -/
def hexValue? (c : Char) : Option Nat :=
  if '0' ≤ c ∧ c ≤ '9' then some (c.toNat - '0'.toNat)
  else if 'a' ≤ c ∧ c ≤ 'f' then some (c.toNat - 'a'.toNat + 10)
  else if 'A' ≤ c ∧ c ≤ 'F' then some (c.toNat - 'A'.toNat + 10)
  else none

/-- The number that hexadecimal digits stand for. -/
def hexNumber? (digits : List Char) : Option Nat :=
  digits.foldlM (fun n c => (hexValue? c).map (n * 16 + ·)) 0

/-- A byte as `%` and two digits. -/
def percentByte (b : UInt8) : List Char :=
  ['%', hexDigit (b.toNat / 16), hexDigit (b.toNat % 16)]

/-- The ASCII character of a byte. -/
def asciiChar (b : UInt8) : Char :=
  Char.ofNat b.toNat

/-- A byte as itself, if it is that of an ASCII character in `plain`, and otherwise as `%` and two
digits. -/
def encodeByte (plain : Char → Bool) (b : UInt8) : List Char :=
  if b < 0x80 ∧ plain (asciiChar b) then [asciiChar b] else percentByte b

/-- Bytes as a text, with every byte but those of the ASCII characters in `plain` written as `%` and
two digits. -/
def percentEncode (plain : Char → Bool) (bytes : List UInt8) : List Char :=
  bytes.flatMap (encodeByte plain)

/-- The bytes a text stands for when `%` and two hexadecimal digits stand for one byte.  A `%`
without two digits stands for itself. -/
def percentDecode : List Char → List UInt8
  | [] => []
  | '%' :: a :: b :: rest =>
    match hexValue? a, hexValue? b with
    | some x, some y => UInt8.ofNat (x * 16 + y) :: percentDecode rest
    | _, _ => utf8 ['%'] ++ percentDecode (a :: b :: rest)
  | c :: rest => utf8 [c] ++ percentDecode rest

/-- The ASCII letters and digits and `*-._`, which form encoding writes as they are. -/
def isFormPlain (c : Char) : Bool :=
  c.isAlphanum || c == '*' || c == '-' || c == '.' || c == '_'

/-- The form encoding of a text. -/
def formEncode (s : List Char) : List Char :=
  s.flatMap fun c => if c = ' ' then ['+'] else percentEncode isFormPlain (utf8 [c])

/-- The text a form-encoded text stands for; bytes that are not UTF-8 become U+FFFD. -/
def formDecode (s : List Char) : List Char :=
  decodeLossy (percentDecode (s.map fun c => if c = '+' then ' ' else c))

/-- The pairs of a query: parts between ampersands, empty ones skipped, each cut at its first
equals sign. -/
def formPairs (query : List Char) : List (List Char × List Char) :=
  ((query.splitOn '&').filter fun part => !part.isEmpty).map fun part =>
    match splitFirst '=' part with
    | some (key, value) => (formDecode key, formDecode value)
    | none => (formDecode part, [])

end AsmExplorer.Text
