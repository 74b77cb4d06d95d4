import AsmExplorer.Text.Blank

/-!
# Bracket expressions

The sets of characters that file name patterns and regular expressions write in brackets: single
characters, ranges, and named classes, perhaps negated.
-/

namespace AsmExplorer

/-- A set of characters. -/
structure CharSet where
  /-- Whether the set holds all characters but the given ones. -/
  negated : Bool
  /-- The ranges, with both ends. -/
  ranges : List (Char × Char)
deriving DecidableEq, Inhabited

namespace CharSet

/-- Whether a character belongs to the set. -/
def contains (s : CharSet) (c : Char) : Bool :=
  s.ranges.any (fun (low, high) => low ≤ c && c ≤ high) != s.negated

/-- The named classes. -/
def classes : List (String × List (Char × Char)) :=
  [("alpha", [('a', 'z'), ('A', 'Z')]), ("digit", [('0', '9')]),
    ("alnum", [('a', 'z'), ('A', 'Z'), ('0', '9')]), ("upper", [('A', 'Z')]),
    ("lower", [('a', 'z')]), ("space", [('\t', '\r'), (' ', ' ')]),
    ("blank", [('\t', '\t'), (' ', ' ')]), ("punct", [('!', '/'), (':', '@'), ('[', '\x60'),
      ('\x7b', '~')]), ("xdigit", [('0', '9'), ('a', 'f'), ('A', 'F')]),
    ("print", [(' ', '~')]), ("graph", [('!', '~')]),
    ("cntrl", [('\x00', '\x1f'), ('\x7f', '\x7f')])]

/-- The ranges of a named class that stands here, and the rest. -/
def class? (s : List Char) : Option (List (Char × Char) × List Char) :=
  classes.findSome? fun (name, ranges) =>
    (Text.dropLead? ("[:" ++ name ++ ":]").toList s).map fun rest => (ranges, rest)

/-- The ranges up to the closing bracket, and the rest.  A bracket that comes first stands for
itself.  Every step takes a character, so `fuel` is the length of the text. -/
def ranges? : (fuel : Nat) → (first : Bool) → List Char →
    Option (List (Char × Char) × List Char)
  | 0, _, _ => none
  | fuel + 1, first, s =>
    let more (ranges : List (Char × Char)) (rest : List Char) :=
      (ranges? fuel false rest).map fun (others, rest) => (ranges ++ others, rest)
    match class? s, s with
    | some (ranges, rest), _ => more ranges rest
    | none, [] => none
    | none, ']' :: rest => if first then more [(']', ']')] rest else some ([], rest)
    | none, a :: '-' :: b :: rest =>
      if b = ']' then more [(a, a), ('-', '-')] (']' :: rest) else more [(a, b)] rest
    | none, a :: rest => more [(a, a)] rest

/-- The set after an opening bracket, and the rest; a set that starts with `!` or `^` is negated. -/
def ofChars? (s : List Char) : Option (CharSet × List Char) :=
  let (negated, s) :=
    match s with
    | '!' :: rest => (true, rest)
    | '^' :: rest => (true, rest)
    | rest => (false, rest)
  (ranges? (s.length + 1) true s).map fun (ranges, rest) => ({ negated, ranges }, rest)

end CharSet

end AsmExplorer
