import AsmExplorer.Text.Canonical
import AsmExplorer.Uri.Domain.Label
import AsmExplorer.Uri.Domain.Table
import AsmExplorer.Uri.Punycode

/-!
# Domain names

A domain name is compared and sent in ASCII.  `Domain.ascii?` gives that form: every character is
brought to its plain lower case form (`Domain.plain?`), the text is composed, and each of its labels
with a character outside ASCII is written in Punycode after `xn--`.  A label that is already written
so must stand for a label in the same form, and all labels must obey the rules of
`AsmExplorer.Uri.Domain.Label`.

An ASCII name without such labels is only brought to lower case.
-/

namespace AsmExplorer.Domain

open Text

/-! ### Characters -/

/-- Whether all characters are ASCII. -/
def isAscii (cs : List Char) : Bool :=
  cs.all (·.toNat < 128)

/-- What a span of `replacedSpans` puts in the place of a code point. -/
def replacement (span : Span) (n : Nat) : List Char :=
  if span.first = span.last then span.values.map Char.ofNat
  else [Char.ofNat (span.values.headD 0 + (n - span.first))]

/-- What stands for a character in the plain form of a name, `none` if no name may hold it. -/
def plain? (c : Char) : Option (List Char) :=
  let n := c.toNat
  if n < 128 then some [c.toLower]
  else if ignoredSpans.contains n then some []
  else if refusedSpans.contains n then none
  else
    match replacedSpans.find? n with
    | some span => some (replacement span n)
    | none => some [c]

/-- ASCII characters that no domain name may hold. -/
def isForbidden (c : Char) : Bool :=
  c.toNat ≤ 0x20 || c.toNat == 0x7F || "#%/:<>?@[\\]^|".toList.contains c

/-- Whether a character is a mark. -/
def isMark (c : Char) : Bool :=
  if c.toNat < 0x300 then false else markSpans.contains c.toNat

/-! ### Labels -/

/-- A label in both forms. -/
structure Label where
  /-- The label as people read it. -/
  text : List Char
  /-- The label in ASCII. -/
  ascii : List Char
deriving DecidableEq, Inhabited

namespace Label

/-- What a label in Punycode starts with. -/
def lead : List Char := "xn--".toList

/-- The longest text written in Punycode. -/
def maxText : Nat := 1000

/-- The longest Punycode form read. -/
def maxForm : Nat := 2000

/-- Whether a text is the plain form of a label that ASCII cannot hold. -/
def isPlain (text : List Char) : Bool :=
  !isAscii text && text.all (fun c => c != '.' && plain? c == some [c]) &&
    composed text == text && !lead.isPrefixOf text

/-- The label that a text in plain form is. -/
def ofPlain? (text : List Char) : Option Label :=
  match dropLead? lead text with
  | some form =>
    if isAscii form ∧ form.length ≤ maxForm then
      ((Punycode.decode? form).filter isPlain).map fun decoded => { text := decoded, ascii := text }
    else none
  | none =>
    if isAscii text then some { text, ascii := text }
    else if text.length > maxText then none
    else some { text, ascii := lead ++ Punycode.encode text }

/-- Whether a label starts with no mark and obeys the joiner rule. -/
def isWellFormed (label : Label) : Bool :=
  !label.text.head?.any isMark && joinersFit [] label.text

end Label

/-- The ASCII form of a domain name. -/
def ascii? (name : List Char) : Option (List Char) := do
  let plain := composed (← name.mapM plain?).flatten
  if plain.any isForbidden then none
  else
    let labels ← (plain.splitOn '.').mapM Label.ofPlain?
    if labels.all Label.isWellFormed ∧ obeyDirection (labels.map (·.text)) then
      some (joinWith ['.'] (labels.map (·.ascii)))
    else none

end AsmExplorer.Domain
