import AsmExplorer.Uri.Basic
import AsmExplorer.Uri.Domain

/-!
# Hosts

The host of a web or file URI is a domain name, an IPv4 address or, in brackets, an IPv6 address,
and is written in one canonical form: domain names in ASCII (`Domain.ascii?`), IPv4 addresses with
four decimal numbers, IPv6 addresses with their longest run of zeros cut out.  Any other scheme has
an *opaque* host, kept as written but for percent-encoding.
-/

namespace AsmExplorer.Host

/-! ### IPv4 -/

/-- The number a part of an IPv4 address stands for: hexadecimal after `0x`, octal after `0`,
otherwise decimal.  The outer `none` means that the part is no number. -/
def ipv4Part? (part : List Char) : Option Nat :=
  let value (radix : Nat) (digits : List Char) : Option Nat :=
    digits.foldl
      (fun n c => do
        let d ← Text.hexValue? c
        if d < radix then (← n) * radix + d else none)
      (some 0)
  match part with
  | [] => none
  | '0' :: 'x' :: rest => value 16 rest
  | '0' :: 'X' :: rest => value 16 rest
  | '0' :: c :: rest => value 8 (c :: rest)
  | cs => value 10 cs

/-- The parts of a name between its dots, without an empty last part. -/
def labels (name : List Char) : List (List Char) :=
  let parts := name.splitOn '.'
  if parts.getLast? = some [] then parts.dropLast else parts

/-- Whether the last label is a number, so that the whole must be an IPv4 address. -/
def endsInNumber (name : List Char) : Bool :=
  match (labels name).getLast? with
  | none => false
  | some last => (!last.isEmpty && last.all Char.isDigit) || (ipv4Part? last).isSome

/-- The weight of a byte that so many bytes follow. -/
def byteWeight (following : Nat) : Nat :=
  Nat.pow 256 following

/-- The value of an IPv4 address: every number but the last is one byte, and the last fills what
remains. -/
def ipv4? (name : List Char) : Option Nat := do
  let parts := labels name
  if parts.length > 4 then none
  else
    let numbers ← parts.mapM ipv4Part?
    let last ← numbers.getLast?
    let bytes := numbers.dropLast
    if last ≥ byteWeight (4 - bytes.length) ∨ bytes.any (· > 255) then none
    else some (bytes.zipIdx.foldl (fun sum (b, i) => sum + b * byteWeight (3 - i)) last)

/-- An IPv4 address with four decimal numbers. -/
def ipv4Chars (address : Nat) : List Char :=
  Text.joinWith ['.'] <|
    [3, 2, 1, 0].map fun i => Text.decimal (address / byteWeight i % 256)

/-! ### IPv6 -/

/-- A piece of an IPv6 address: one to four hexadecimal digits. -/
def ipv6Piece? (part : List Char) : Option Nat :=
  if part.isEmpty ∨ part.length > 4 then none
  else part.foldl (fun n c => do (← n) * 16 + (← Text.hexValue? c)) (some 0)

/-- A byte of an IPv4 address at the end of an IPv6 address: decimal without leading zero. -/
def plainByte? (part : List Char) : Option Nat :=
  if part.head? = some '0' ∧ part.length > 1 then none else Text.natBelow? 256 part

/-- The pieces of a run without `::`; the last part may be an IPv4 address. -/
def ipv6Run? (run : List Char) : Option (List Nat) :=
  if run.isEmpty then some []
  else
    let parts := run.splitOn ':'
    match parts.getLast? with
    | none => none
    | some last =>
      if last.contains '.' then do
        let pieces ← parts.dropLast.mapM ipv6Piece?
        match ← (last.splitOn '.').mapM plainByte? with
        | [a, b, c, d] => some (pieces ++ [a * 256 + b, c * 256 + d])
        | _ => none
      else parts.mapM ipv6Piece?

/-- The text at both sides of the first `::`, if there is one. -/
def splitGap : List Char → Option (List Char × List Char)
  | ':' :: ':' :: rest => some ([], rest)
  | c :: rest => (splitGap rest).map fun (before, after) => (c :: before, after)
  | [] => none

/-- The eight pieces of an IPv6 address; `::` stands for at least one piece of zero. -/
def ipv6? (cs : List Char) : Option (List Nat) :=
  match splitGap cs with
  | none => (ipv6Run? cs).filter (·.length = 8)
  | some (before, after) => do
    -- An IPv4 address stands at the very end only.
    let left ← if before.contains '.' then none else ipv6Run? before
    let right ← ipv6Run? after
    if left.length + right.length ≤ 7 then
      some (left ++ List.replicate (8 - (left.length + right.length)) 0 ++ right)
    else none

/-- The length of the run of zeros at the start of the pieces. -/
def zeroRun (pieces : List Nat) : Nat :=
  (pieces.takeWhile (· = 0)).length

/-- Where the longest run of at least two zeros starts, and its length; the first such run. -/
def longestGap (pieces : List Nat) : Option (Nat × Nat) :=
  (List.range 8).foldl
    (fun best i =>
      let run := zeroRun (pieces.drop i)
      if run ≥ 2 ∧ best.all (fun (_, length) => run > length) then some (i, run) else best)
    none

/-- An IPv6 address with its longest run of zeros cut out, in brackets. -/
def ipv6Chars (pieces : List Nat) : List Char :=
  let text (run : List Nat) : List Char :=
    Text.joinWith [':'] (run.map fun n => (Nat.toDigits 16 n))
  match longestGap pieces with
  | some (start, length) =>
    ['['] ++ text (pieces.take start) ++ [':', ':'] ++ text (pieces.drop (start + length)) ++ [']']
  | none => ['['] ++ text pieces ++ [']']

/-- The canonical form of an IPv6 address that starts with its opening bracket. -/
def bracketed (cs : List Char) : Except UriFault (List Char) :=
  if cs.getLast? = some ']' then
    match ipv6? (cs.drop 1).dropLast with
    | some pieces => .ok (ipv6Chars pieces)
    | none => .error .badIpv6
  else .error .badIpv6

/-! ### The whole -/

/-- The ASCII form of a domain name given as bytes. -/
def domain (bytes : List UInt8) : Except UriFault (List Char) :=
  match (Text.decode? bytes).bind Domain.ascii? with
  | some name => .ok name
  | none => .error .badDomain

/-- The canonical host of a web or file URI. -/
def parse (cs : List Char) : Except UriFault (List Char) :=
  if cs.head? = some '[' then bracketed cs
  else do
    let name ← domain (Text.percentDecode cs)
    if name.isEmpty then .error .emptyHost
    else if endsInNumber name then
      match ipv4? name with
      | some address => .ok (ipv4Chars address)
      | none => .error .badIpv4
    else .ok name

/-- Characters that no opaque host may hold. -/
def isOpaqueForbidden (c : Char) : Bool :=
  "\x00\t\n\r #/:<>?@[\\]^|".toList.contains c

/-- The written form of an opaque host. -/
def parseOpaque (cs : List Char) : Except UriFault (List Char) :=
  if cs.head? = some '[' then bracketed cs
  else if cs.any isOpaqueForbidden then .error .badHostCharacter
  else .ok (Text.percentEncode Uri.isPrintable (Text.utf8 cs))

end AsmExplorer.Host
