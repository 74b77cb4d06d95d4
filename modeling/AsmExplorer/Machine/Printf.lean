import AsmExplorer.Machine.Process
import AsmExplorer.Text.Percent
import AsmExplorer.Text.Word

/-!
# Formatted output

The commands `echo` and `printf` of a plain shell.  Escapes with octal digits give bytes, so the
output is a list of bytes.
-/

namespace AsmExplorer.Printf

/-- The byte of a letter after a backslash. -/
def letter? (c : Char) : Option UInt8 :=
  match c with
  | 'a' => some 7
  | 'b' => some 8
  | 'f' => some 12
  | 'n' => some 10
  | 'r' => some 13
  | 't' => some 9
  | 'v' => some 11
  | '\\' => some 92
  | _ => none

/-- Whether the character is an octal digit. -/
def isOctal (c : Char) : Bool :=
  '0' ≤ c && c ≤ '7'

/-- The byte of octal digits. -/
def octalByte (digits : List Char) : UInt8 :=
  UInt8.ofNat (digits.foldl (fun n c => n * 8 + (c.toNat - '0'.toNat)) 0)

/-- Up to `most` octal digits at the start of a text. -/
def octalDigits (most : Nat) (s : List Char) : List Char :=
  (s.take most).takeWhile isOctal

/-- The bytes of a text with escapes as `echo` reads them, where octal digits follow a zero; the
second part tells whether an escape cut the output off.  Every step takes a character, so `fuel` is
the length of the text. -/
def echoBytes : (fuel : Nat) → List Char → List UInt8 × Bool
  | 0, _ => ([], false)
  | _, [] => ([], false)
  | fuel + 1, '\\' :: c :: rest =>
    let andThen (bytes : List UInt8) (rest : List Char) :=
      let (more, cut) := echoBytes fuel rest
      (bytes ++ more, cut)
    match c, letter? c with
    | 'c', _ => ([], true)
    | '0', _ =>
      let digits := octalDigits 3 rest
      andThen [octalByte digits] (rest.drop digits.length)
    | _, some b => andThen [b] rest
    | _, none => andThen (Text.utf8 ['\\', c]) rest
  | fuel + 1, c :: rest =>
    let (more, cut) := echoBytes fuel rest
    (Text.utf8 [c] ++ more, cut)

/-- What `echo` writes for its arguments. -/
def echo (args : List String) : List UInt8 :=
  let (lineEnd, args) : List UInt8 × List String :=
    match args with
    | "-n" :: rest => ([], rest)
    | args => ([10], args)
  let text := (" ".intercalate args).toList
  let (bytes, cut) := echoBytes text.length text
  if cut then bytes else bytes ++ lineEnd

/-! ### Formats -/

/-- A conversion: its flags, width, precision and letter. -/
structure Conversion where
  /-- Whether the text stands to the left in its field. -/
  left : Bool
  /-- Whether the field is filled with zeros. -/
  zeros : Bool
  /-- The least width. -/
  width : Nat
  /-- The precision. -/
  precision : Option Nat
  /-- The letter. -/
  letter : Char
deriving Inhabited

/-- Reads a conversion after its percent sign. -/
def conversion? (s : List Char) : Option (Conversion × List Char) :=
  let isFlag (c : Char) : Bool := c == '-' || c == '0' || c == '+' || c == ' ' || c == '#'
  let flags := s.takeWhile isFlag
  let s := s.dropWhile isFlag
  let width := (Text.nat? (s.takeWhile Char.isDigit)).getD 0
  let s := s.dropWhile Char.isDigit
  let (precision, s) :=
    match s with
    | '.' :: rest =>
      (some ((Text.nat? (rest.takeWhile Char.isDigit)).getD 0), rest.dropWhile Char.isDigit)
    | s => (none, s)
  match s with
  | letter :: rest =>
    some ({ left := flags.contains '-', zeros := flags.contains '0', width, precision, letter },
      rest)
  | [] => none

/-- Fills a text up to the width of its field. -/
def Conversion.fill (v : Conversion) (text : List Char) : List Char :=
  let missing := v.width - text.length
  if v.left then text ++ List.replicate missing ' '
  else if v.zeros && v.letter != 's' then List.replicate missing '0' ++ text
  else List.replicate missing ' ' ++ text

/-- The number that an argument stands for. -/
def number (arg : String) : Int :=
  match arg.toList with
  | '-' :: ds => -(((Text.nat? (ds.takeWhile Char.isDigit)).getD 0 : Nat) : Int)
  | '+' :: ds => ((Text.nat? (ds.takeWhile Char.isDigit)).getD 0 : Nat)
  | '0' :: 'x' :: ds => ((Text.hexNumber? ds).getD 0 : Nat)
  | '\'' :: c :: _ => c.toNat
  | '"' :: c :: _ => c.toNat
  | ds => ((Text.nat? (ds.takeWhile Char.isDigit)).getD 0 : Nat)

/-- The bytes of an argument under a conversion. -/
def Conversion.bytes (v : Conversion) (arg : String) : List UInt8 :=
  let cut (s : List Char) : List Char :=
    match v.precision with
    | some n => s.take n
    | none => s
  let base (b : Nat) : List Char := Nat.toDigits b (number arg).toNat
  match v.letter with
  | 's' => Text.utf8 (v.fill (cut arg.toList))
  | 'c' => Text.utf8 (v.fill (arg.toList.take 1))
  | 'b' => (echoBytes arg.length arg.toList).1
  | 'd' => Text.utf8 (v.fill (toString (number arg)).toList)
  | 'i' => Text.utf8 (v.fill (toString (number arg)).toList)
  | 'u' => Text.utf8 (v.fill (toString (number arg)).toList)
  | 'x' => Text.utf8 (v.fill (base 16))
  | 'X' => Text.utf8 (v.fill ((base 16).map Char.toUpper))
  | 'o' => Text.utf8 (v.fill (base 8))
  | _ => []

/-- Runs through a format once.  Gives the bytes, the arguments that are left, and whether the
format took any. -/
def once : (fuel : Nat) → (format : List Char) → (args : List String) →
    List UInt8 × List String × Bool
  | 0, _, args => ([], args, false)
  | _, [], args => ([], args, false)
  | fuel + 1, c :: rest, args =>
    let andThen (bytes : List UInt8) (rest : List Char) (args : List String) (took : Bool) :=
      let (more, args, tookMore) := once fuel rest args
      (bytes ++ more, args, took || tookMore)
    match c, rest with
    | '\\', d :: more =>
      if isOctal d then
        let digits := octalDigits 3 rest
        andThen [octalByte digits] (rest.drop digits.length) args false
      else
        match letter? d with
        | some b => andThen [b] more args false
        | none => andThen (Text.utf8 ['\\', d]) more args false
    | '%', '%' :: more => andThen [37] more args false
    | '%', _ =>
      match conversion? rest with
      | some (v, more) => andThen (v.bytes (args.headD "")) more args.tail true
      | none => andThen [37] rest args false
    | _, _ => andThen (Text.utf8 [c]) rest args false

/-- Runs through a format until all arguments are used. -/
def repeated (format : List Char) : (fuel : Nat) → List String → List UInt8
  | 0, _ => []
  | fuel + 1, args =>
    let (bytes, left, took) := once format.length format args
    if left.isEmpty || !took then bytes else bytes ++ repeated format fuel left

/-- What `printf` writes for its arguments. -/
def printf (args : List String) : List UInt8 :=
  match args with
  | [] => []
  | format :: args => repeated format.toList (args.length + 1) args

end AsmExplorer.Printf
