/-!
# UTF-8

Texts as bytes.  Writing is `Text.utf8`.  Reading comes in two forms: `Text.decode?` accepts well
formed bytes only, and `Text.decodeLossy` puts the replacement character U+FFFD in the place of
every maximal part of an ill formed sequence, as the Unicode standard recommends.
-/

namespace AsmExplorer.Text

/-- The bytes of a text. -/
def utf8 (s : List Char) : List UInt8 :=
  s.flatMap String.utf8EncodeChar

/-- The bytes of a text that is given as a string. -/
def bytes (s : String) : List UInt8 :=
  utf8 s.toList

/-- What a first byte announces: how many bytes follow, the bits it carries, and the bounds of the
second byte.  The bounds exclude overlong forms, surrogates and values above U+10FFFF. -/
structure Lead where
  /-- The number of bytes that follow. -/
  more : Nat
  /-- The bits of the first byte that belong to the value. -/
  bits : Nat
  /-- The least second byte. -/
  low : Nat := 0x80
  /-- The greatest second byte. -/
  high : Nat := 0xBF

/-- The announcement of a first byte above 0x7F, `none` if no character starts so. -/
def Lead.ofByte? (b : UInt8) : Option Lead :=
  let n := b.toNat
  if 0xC2 ≤ n ∧ n ≤ 0xDF then some { more := 1, bits := n - 0xC0 }
  else if n = 0xE0 then some { more := 2, bits := 0, low := 0xA0 }
  else if n = 0xED then some { more := 2, bits := 0xD, high := 0x9F }
  else if 0xE1 ≤ n ∧ n ≤ 0xEF then some { more := 2, bits := n - 0xE0 }
  else if n = 0xF0 then some { more := 3, bits := 0, low := 0x90 }
  else if 0xF1 ≤ n ∧ n ≤ 0xF3 then some { more := 3, bits := n - 0xF0 }
  else if n = 0xF4 then some { more := 3, bits := 4, high := 0x8F }
  else none

/-- A sequence in progress: how many bytes are missing, the value so far, and the bounds of the
next byte. -/
structure Pending where
  /-- The number of bytes still to come, at least one. -/
  missing : Nat
  /-- The value of the bytes read. -/
  value : Nat
  /-- The least next byte. -/
  low : Nat
  /-- The greatest next byte. -/
  high : Nat

/-- What a byte outside any sequence gives: its character, `none` if it is ill formed, or the
sequence that it starts. -/
def startSequence (b : UInt8) : List (Option Char) × Option Pending :=
  if b.toNat < 0x80 then ([some (Char.ofNat b.toNat)], none)
  else
    match Lead.ofByte? b with
    | none => ([none], none)
    | some lead => ([], some ⟨lead.more, lead.bits, lead.low, lead.high⟩)

/-- What a byte in a sequence gives.  A byte that does not continue the sequence ends it as an ill
formed part and is read afresh. -/
def Pending.feed (p : Pending) (b : UInt8) : List (Option Char) × Option Pending :=
  if p.low ≤ b.toNat ∧ b.toNat ≤ p.high then
    let value := p.value * 64 + (b.toNat - 0x80)
    if p.missing ≤ 1 then ([some (Char.ofNat value)], none)
    else ([], some ⟨p.missing - 1, value, 0x80, 0xBF⟩)
  else (none :: (startSequence b).1, (startSequence b).2)

/-- The characters of the bytes, with `none` for each maximal ill formed part. -/
def decodeParts : Option Pending → List UInt8 → List (Option Char)
  | none, [] => []
  | some _, [] => [none]
  | pending, b :: rest =>
    let (parts, next) := pending.elim (startSequence b) fun p => p.feed b
    parts ++ decodeParts next rest

/-- The text of well formed bytes. -/
def decode? (bytes : List UInt8) : Option (List Char) :=
  (decodeParts none bytes).mapM id

/-- The text of any bytes, with U+FFFD for each maximal ill formed part. -/
def decodeLossy (bytes : List UInt8) : List Char :=
  (decodeParts none bytes).map (·.getD '\ufffd')

/-- Bytes as they are shown. -/
def lossy (bytes : List UInt8) : String :=
  String.ofList (decodeLossy bytes)

end AsmExplorer.Text
