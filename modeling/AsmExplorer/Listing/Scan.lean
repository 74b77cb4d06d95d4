import AsmExplorer.Listing.Filters
import AsmExplorer.Listing.Line
import AsmExplorer.Text.Columns
import AsmExplorer.Text.Squash
import AsmExplorer.Text.Word

/-!
# Reading the parts of an assembly line

The recognisers that both listing formats are built from: each takes the characters of a line and
either fails or gives what it read and the rest.  A *symbol* is a run of word characters and of the
punctuation that assemblers allow in names.
-/

namespace AsmExplorer.Scan

open Text

/-- Characters of a symbol in any listing. -/
def isSymbolChar (c : Char) : Bool :=
  isWord c || c == '$' || c == '.' || c == '@' || c == '?'

/-- The rest after the given text. -/
def literal? (text : String) (s : List Char) : Option (List Char) :=
  dropLead? text.toList s

/-- The rest after a nonempty run of blanks. -/
def blanks? (s : List Char) : Option (List Char) :=
  if s.head?.any isBlank then some (trimStart s) else none

/-- A nonempty run of characters of a class, and the rest. -/
def run? (class_ : Char → Bool) (s : List Char) : Option (List Char × List Char) :=
  if s.head?.any class_ then some (s.takeWhile class_, s.dropWhile class_) else none

/-- A run of digits, and the rest. -/
def digits? (s : List Char) : Option (List Char × List Char) :=
  run? isDigit s

/-- What stands between quotes, and the rest. -/
def quoted? : List Char → Option (List Char × List Char)
  | '"' :: rest => splitFirst '"' rest
  | _ => none

/-- Whether a whole word of the list stands here. -/
def startsWithWord (words : List String) (s : List Char) : Bool :=
  let word := s.takeWhile isWord
  words.any fun w => w.toList == word

/-- A number of 32 bits. -/
def number? (digits : List Char) : Option UInt32 :=
  (natBelow? bound32 digits).map UInt32.ofNat

/-- The symbols of a text: its maximal runs of symbol characters. -/
def symbols (s : List Char) : List (List Char) :=
  (s.splitOnP fun c => !isSymbolChar c).filter fun token => !token.isEmpty

/-- The names a symbol refers to: itself and, if it has a suffix after `@`, the name before. -/
def symbolNames (token : List Char) : List (List Char) :=
  match splitFirst '@' token with
  | some (bare, _) => if bare.isEmpty then [token] else [bare, token]
  | none => [token]

/-- All names that a text refers to. -/
def names (s : List Char) : List (List Char) :=
  (symbols s).flatMap symbolNames

/-- The text of a line as it is shown. -/
def shown (trim : Bool) (line : List Char) : String :=
  String.ofList (if trim then squash (expandTabs line) true else expandTabs line)

end AsmExplorer.Scan
