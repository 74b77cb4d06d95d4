/-!
# Tab stops

`Text.expandTabs` puts spaces in the place of tabs, up to the next column that is a multiple of
eight.  Columns count characters.
-/

namespace AsmExplorer.Text

/-- The distance between tab stops. -/
def tabWidth : Nat := 8

/-- Replaces the tabs of a text that starts in the given column. -/
def expandFrom (column : Nat) : List Char → List Char
  | [] => []
  | c :: rest =>
    if c = '\t' then
      let pad := tabWidth - column % tabWidth
      List.replicate pad ' ' ++ expandFrom (column + pad) rest
    else c :: expandFrom (column + 1) rest

/-- Replaces tabs by spaces; a text without tabs is returned at once. -/
def expandTabs (s : List Char) : List Char :=
  if s.contains '\t' then expandFrom 0 s else s

end AsmExplorer.Text
