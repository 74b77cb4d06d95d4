import AsmExplorer.Text.Percent

/-!
# Tables of code points

A property of characters is a table of ascending spans of code points, each of which may carry
values.  Tables are written as words of hexadecimal numbers:

* `5D0` : one code point; `5D0-5EA` : all from the first to the last, both included;
* `100-12E/2` : every second one;
* `300-314>E6` : the span carries the value `E6`; `FB01>66.69` carries two values.

`Spans.ofText` reads such words and `Spans.find?` finds the span of a code point by halving the
table.
-/

namespace AsmExplorer.Text

/-- Code points at equal distances, and the values that go with them. -/
structure Span where
  /-- The first code point. -/
  first : Nat
  /-- The last code point. -/
  last : Nat
  /-- The distance from one code point to the next. -/
  step : Nat := 1
  /-- The values that the span carries. -/
  values : List Nat := []
deriving DecidableEq, Inhabited

namespace Span

/-- Whether a code point belongs to the span. -/
def contains (s : Span) (n : Nat) : Bool :=
  s.first ≤ n && n ≤ s.last && (n - s.first) % s.step == 0

/-- The number that hexadecimal digits stand for, zero for any other text. -/
def number (digits : List Char) : Nat :=
  (hexNumber? digits).getD 0

/-- The span that a word describes. -/
def ofWord (word : List Char) : Span :=
  let (range, values) := (splitFirst '>' word).getD (word, [])
  let (ends, step) := (splitFirst '/' range).getD (range, ['1'])
  let (first, last) := (splitFirst '-' ends).getD (ends, ends)
  { first := number first, last := number last, step := number step
    values := if values.isEmpty then [] else (values.splitOn '.').map number }

end Span

/-- A table of spans. -/
structure Spans where
  /-- The spans, ascending and without overlap. -/
  spans : Array Span
deriving Inhabited

namespace Spans

/-- The table that a text of words describes. -/
def ofText (text : String) : Spans :=
  ⟨((words text.toList).map Span.ofWord).toArray⟩

/-- The place of the last span that starts at or before `n`, given that it lies from `low` on and
before `high`. -/
def place (table : Spans) (n low high : Nat) : Nat :=
  if low + 1 < high then
    let middle := (low + high) / 2
    if table.spans[middle]?.all (·.first ≤ n) then place table n middle high
    else place table n low middle
  else low
termination_by high - low

/-- The span that a code point belongs to. -/
def find? (table : Spans) (n : Nat) : Option Span :=
  table.spans[place table n 0 table.spans.size]?.filter (·.contains n)

/-- Whether a code point belongs to the table. -/
def contains (table : Spans) (n : Nat) : Bool :=
  (find? table n).isSome

end Spans

end AsmExplorer.Text
