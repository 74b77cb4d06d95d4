import AsmExplorer.Data.Toml.Moment
import AsmExplorer.Data.Value
import AsmExplorer.Text.Percent

/-!
# TOML strings and bare values

The values of TOML that have no parts.  Strings are *basic* with escapes or *literal* without, and
each may stand in triple quotes and then run over several lines.  Integers may be written in four
bases with underscores between digits.  Floating-point numbers are recognised and kept as written,
and so are integers that their base has no digits for.  A date or time is a record with its
canonical text.
-/

namespace AsmExplorer.Toml

/-- Blanks within a line. -/
def isSpace (c : Char) : Bool :=
  c == ' ' || c == '\t'

/-- Characters that may stand in comments and strings. -/
def isPlain (c : Char) : Bool :=
  c == '\t' || (0x20 ≤ c.toNat && c.toNat != 0x7F)

/-- The rest after the end of a line. -/
def newline? : List Char → Option (List Char)
  | '\n' :: rest => some rest
  | '\r' :: '\n' :: rest => some rest
  | _ => none

/-! ### Strings -/

/-- The character of a short escape. -/
def shortEscape? (c : Char) : Option Char :=
  match c with
  | 'b' => some '\x08'
  | 't' => some '\t'
  | 'n' => some '\n'
  | 'f' => some '\x0c'
  | 'r' => some '\r'
  | 'e' => some '\x1b'
  | '"' => some '"'
  | '\\' => some '\\'
  | _ => none

/-- The character with the code that hexadecimal digits give. -/
def codeChar? (digits : List Char) : Option Char := do
  let n ← Text.hexNumber? digits
  if n.isValidChar then some (Char.ofNat n) else none

/-- Whether a character at the start of a text may stand in a string over several lines though not
in other strings. -/
def isLineBreak (c : Char) (rest : List Char) : Bool :=
  c == '\n' || (c == '\r' && rest.head? == some '\n')

/-- What a closing run of quotes after the first one gives: quotes that belong to the string, and
the rest.  Up to two quotes may stand before the closing three. -/
def closing? (quote : Char) : List Char → Option (List Char × List Char)
  | a :: b :: c :: d :: rest =>
    if a = quote ∧ b = quote then
      if c = quote then
        if d = quote then some ([quote, quote], rest) else some ([quote], d :: rest)
      else some ([], c :: d :: rest)
    else none
  | [a, b, c] =>
    if a = quote ∧ b = quote then
      if c = quote then some ([quote], []) else some ([], [c])
    else none
  | [a, b] => if a = quote ∧ b = quote then some ([], []) else none
  | _ => none

/-- Puts a character before what was read. -/
def push (c : Char) (r : Option (List Char × List Char)) : Option (List Char × List Char) :=
  r.map fun (s, rest) => (c :: s, rest)

/-- The characters of a basic string after its opening, and what follows it.  After a backslash at
the end of a line blanks and line ends are passed over up to the next character; `trimming` tells
that this is going on. -/
def basic? (multiline : Bool) : (trimming : Bool) → List Char → Option (List Char × List Char)
  | _, [] => none
  | _, '\\' :: rest =>
    match rest with
    | 'x' :: a :: b :: more => do push (← codeChar? [a, b]) (basic? multiline false more)
    | 'u' :: a :: b :: c :: d :: more => do
      push (← codeChar? [a, b, c, d]) (basic? multiline false more)
    | 'U' :: a :: b :: c :: d :: e :: f :: g :: h :: more => do
      push (← codeChar? [a, b, c, d, e, f, g, h]) (basic? multiline false more)
    | c :: more =>
      match shortEscape? c with
      | some e => push e (basic? multiline false more)
      | none =>
        if multiline ∧ (newline? ((c :: more).dropWhile isSpace)).isSome then
          basic? multiline true more
        else none
    | [] => none
  | trimming, c :: rest =>
    if c = '"' then
      if multiline then
        match closing? '"' rest with
        | some found => some found
        | none => push c (basic? multiline false rest)
      else some ([], rest)
    else if trimming ∧ (isSpace c ∨ isLineBreak c rest) then basic? multiline true rest
    else if isPlain c ∨ (multiline ∧ isLineBreak c rest) then
      push c (basic? multiline false rest)
    else none

/-- The characters of a literal string after its opening, and what follows it. -/
def literal? (multiline : Bool) : List Char → Option (List Char × List Char)
  | [] => none
  | c :: rest =>
    if c = '\'' then
      if multiline then
        match closing? '\'' rest with
        | some found => some found
        | none => push c (literal? multiline rest)
      else some ([], rest)
    else if isPlain c ∨ (multiline ∧ isLineBreak c rest) then push c (literal? multiline rest)
    else none

/-- The text without a line end at its start. -/
def dropNewline (s : List Char) : List Char :=
  (newline? s).getD s

/-- A string on one line, and what follows it. -/
def lineString? : List Char → Option (List Char × List Char)
  | '"' :: rest => basic? false false rest
  | '\'' :: rest => literal? false rest
  | _ => none

/-- A string of any form, and what follows it. -/
def string? : List Char → Option (List Char × List Char)
  | '"' :: '"' :: '"' :: rest => basic? true false (dropNewline rest)
  | '\'' :: '\'' :: '\'' :: rest => literal? true (dropNewline rest)
  | s => lineString? s

/-! ### Integers -/

/-- The integer that an optional sign and digits write. -/
def integer? (base : Nat) (cs : List Char) : Option Int :=
  let value (digits : List Char) : Option Nat :=
    if digits.isEmpty then none
    else
      digits.foldlM
        (fun n c => ((Text.hexValue? c).filter (· < base)).map (n * base + ·)) 0
  match cs with
  | '-' :: digits => (value digits).map fun n => -(n : Int)
  | '+' :: digits => (value digits).map Int.ofNat
  | digits => (value digits).map Int.ofNat

/-- Whether every underscore stands between two digits; `before` is the character before the
text. -/
def underscoresFit (isDigit : Char → Bool) : (before : Option Char) → List Char → Bool
  | _, [] => true
  | before, c :: rest =>
    (c != '_' || (before.any isDigit && rest.head?.any isDigit)) &&
      underscoresFit isDigit (some c) rest

/-- Whether a character is a digit in some base. -/
def isHexDigit (c : Char) : Bool :=
  (Text.hexValue? c).isSome

/-- The value of a number whose digits may have underscores between them.  A number is worked out
only as far as it is an integer; any other text keeps its spelling. -/
def numberData (base : Nat) (cs : List Char) : Data :=
  match integer? base (cs.filter (· != '_')) with
  | some n => .integer n
  | none => .scalar (String.ofList cs)

/-- The value of what follows the mark of a base.  Only the underscores are looked at. -/
def based? (base : Nat) (cs : List Char) : Option Data :=
  if cs.contains '_' ∧ !(cs.head?.any isHexDigit && underscoresFit isHexDigit none cs) then none
  else some (numberData base cs)

/-! ### Floating-point numbers -/

/-- Characters of digit groups. -/
def isGroupChar (c : Char) : Bool :=
  c.isDigit || c == '_'

/-- The rest after digits and underscores with at least one digit; `zeros` tells that several digits
may start with a zero. -/
def passDigits? (zeros : Bool) (cs : List Char) : Option (List Char) :=
  let group := cs.takeWhile isGroupChar
  let count := group.countP Char.isDigit
  if count = 0 ∨ (count ≥ 2 ∧ !zeros ∧ group.head? = some '0') then none
  else some (cs.dropWhile isGroupChar)

/-- The rest after a fraction, if there is one. -/
def passFraction? : List Char → Option (List Char)
  | '.' :: rest => passDigits? true rest
  | rest => some rest

/-- The rest after an exponent, if there is one. -/
def passExponent? : List Char → Option (List Char)
  | e :: rest =>
    if e = 'e' ∨ e = 'E' then
      match rest with
      | '+' :: rest => passDigits? true rest
      | '-' :: rest => passDigits? true rest
      | rest => passDigits? true rest
    else some (e :: rest)
  | [] => some []

/-- Whether the text is a floating-point number without sign, underscores aside. -/
def isFloat (cs : List Char) : Bool :=
  (do passExponent? (← passFraction? (← passDigits? false cs))) == some []

/-! ### Bare values -/

/-- Characters that end a value without quotes. -/
def endsBare (c : Char) : Bool :=
  isSpace c || "\n\r,[]=#\x7b\x7d".toList.contains c

/-- The record in which readers find a moment. -/
def momentData (m : Moment) : Data :=
  .record [("$__toml_private_datetime", .text (String.ofList m.chars))]

/-- The value of a text without quotes that starts with a digit, perhaps after a sign or after a
sign and an underscore. -/
def decimal? (cs : List Char) : Option Data :=
  let (unsigned, body) :=
    match cs with
    | '+' :: '_' :: rest => ('_' :: rest, rest)
    | '-' :: '_' :: rest => ('_' :: rest, rest)
    | '+' :: rest => (rest, rest)
    | '-' :: rest => (rest, rest)
    | _ => (cs, cs)
  let rest := unsigned.dropWhile Char.isDigit
  if !body.head?.any Char.isDigit then none
  else if rest.head? = some '-' ∨ rest.head? = some ':' then (Moment.read? cs).map momentData
  else if rest.any fun c => c == '.' || c == 'e' || c == 'E' then
    if isFloat unsigned ∧ underscoresFit Char.isDigit none body then
      some (.scalar (String.ofList cs))
    else none
  else if rest.isEmpty ∨ rest.head? = some '_' then
    if (unsigned.head? = some '0' ∧ unsigned.length > 1) ∨ !underscoresFit isHexDigit none body then
      none
    else some (numberData 10 cs)
  else none

/-- The value of a text without quotes. -/
def bare? (cs : List Char) : Option Data :=
  if cs = "true".toList then some (.bool true)
  else if cs = "false".toList then some (.bool false)
  else if ["inf", "+inf", "-inf", "nan", "+nan", "-nan"].any (·.toList == cs) then
    some (.scalar (String.ofList cs))
  else
    match cs with
    | '0' :: 'x' :: rest => based? 16 rest
    | '0' :: 'o' :: rest => based? 8 rest
    | '0' :: 'b' :: rest => based? 2 rest
    | _ => decimal? cs

/-- The characters of a value without quotes, and the rest.  A blank may stand between a date and a
time. -/
def bareSpan (s : List Char) : List Char × List Char :=
  let part (s : List Char) := (s.takeWhile fun c => !endsBare c, s.dropWhile fun c => !endsBare c)
  let (first, rest) := part s
  match date? first, rest with
  | some (_, []), ' ' :: d :: more =>
    if d.isDigit then
      let (second, rest) := part (d :: more)
      (first ++ ' ' :: second, rest)
    else (first, rest)
  | _, _ => (first, rest)

end AsmExplorer.Toml
