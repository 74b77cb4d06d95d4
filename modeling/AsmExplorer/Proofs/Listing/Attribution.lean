import AsmExplorer.Proofs.Listing.Hiding
import Mathlib.Data.List.Forall2
import Mathlib.Data.List.Induction

/-!
# Where the instructions of a GNU listing come from

A `.loc` directive says where the instructions after it come from, until the next one, or until a
directive that ends a function or starts a section.  It names the file by a number, and the last
`.file` directive with that number says which file that is, wherever in the listing it stands.

* `Gas.file?_survey` : the file table of a listing.
* `Gas.foldl_placeAfter` : the place in force after some lines.
* `Gas.exists_positions` : the entries that are shown are those at some positions, in order.

Filters choose among the lines and change nothing else.  Each line that is shown has the place that
it has in the whole listing (`Gas.source_attribution`), also where the directive that sets it is
hidden itself.
-/

namespace AsmExplorer

namespace Gas

variable {lines : List (List Char)} {mark : List Char} {loc : SourceLocation} {s : Survey} {i : Nat}

/-! ### The file table -/

/-- The path that a line gives to a number in the file table. -/
def pathOf? (number : UInt32) (line : List Char) : Option Path := do
  let (digits, path) ← fileEntry? line
  if Scan.number? digits = some number then some path else none

theorem file?_addLine (s : Survey) (inDebug : Bool) (line : List Char) (number : UInt32) :
    (s.addLine inDebug line).file? number = (pathOf? number line).or (s.file? number) := by
  unfold Survey.addLine
  cases hentry : fileEntry? line with
  | some entry =>
    obtain ⟨digits, path⟩ := entry
    cases hdigits : Scan.number? digits with
    | none => simp [pathOf?, hentry, hdigits]
    | some n =>
      by_cases hn : n = number
      · simp [pathOf?, hentry, hdigits, hn, Survey.file?]
      · have hne : (number == n) = false := beq_eq_false_iff_ne.2 (Ne.symm hn)
        simp [pathOf?, hentry, hdigits, hn, Survey.file?, List.lookup_cons, hne]
  | none =>
    have hnone : pathOf? number line = none := by simp [pathOf?, hentry]
    rw [hnone, Option.none_or]
    -- No other kind of line touches the table.
    dsimp only
    repeat' split
    all_goals rfl

theorem file?_surveyFrom (s : Survey) (inDebug : Bool) (lines : List (List Char))
    (number : UInt32) :
    (surveyFrom s inDebug lines).file? number =
      (lines.findSomeRev? (pathOf? number)).or (s.file? number) := by
  induction lines generalizing s inDebug with
  | nil => simp [surveyFrom]
  | cons line lines ih =>
    rw [surveyFrom, ih, file?_addLine, ← Option.or_assoc]
    simp [List.findSomeRev?_eq_findSome?_reverse, List.findSome?_append]

/-- **The file table of a listing.**  A number stands for the path of the last numbered `.file`
directive with that number. -/
theorem file?_survey (lines : List (List Char)) (number : UInt32) :
    (survey lines).file? number = lines.findSomeRev? (pathOf? number) := by
  rw [survey, file?_surveyFrom]
  exact Option.or_none

/-! ### The place in force -/

/-- Whether a line sets the place in force, or ends it. -/
def setsPlace (line : List Char) : Bool :=
  (loc? line).isSome || resetsSource line

/-- The place that a line leaves in force, if it sets it. -/
def placeSet (s : Survey) (line : List Char) : Option SourceLocation := do
  let (file, number, column) ← loc? line
  placeOf s file number column

theorem placeAfter_of_setsPlace (place : Option SourceLocation) {line : List Char}
    (h : setsPlace line = true) : placeAfter s place line = placeSet s line := by
  unfold placeAfter placeSet
  cases hloc : loc? line with
  | some numbers => rfl
  | none =>
    have hreset : resetsSource line = true := by simpa [setsPlace, hloc] using h
    simp [hreset]

theorem placeAfter_of_not_setsPlace (place : Option SourceLocation) {line : List Char}
    (h : setsPlace line = false) : placeAfter s place line = place := by
  obtain ⟨hloc, hreset⟩ : loc? line = none ∧ resetsSource line = false := by
    simpa [setsPlace] using h
  simp [placeAfter, hloc, hreset]

theorem foldl_placeAfter (s : Survey) (lines : List (List Char)) :
    lines.foldl (placeAfter s) none = (lines.findRev? setsPlace).bind (placeSet s) := by
  induction lines using List.reverseRecOn with
  | nil => rfl
  | append_singleton lines line ih =>
    rw [List.foldl_append, ih, List.foldl_cons, List.foldl_nil]
    cases hline : setsPlace line with
    | true =>
      rw [placeAfter_of_setsPlace _ hline]
      simp [List.findRev?_eq_find?_reverse, hline]
    | false =>
      rw [placeAfter_of_not_setsPlace _ hline]
      simp [List.findRev?_eq_find?_reverse, hline]

/-- A line is a `.loc` directive that names a place: its file number stands for the file in the
listing, and its line is a number other than 0.  A column is named if the third number is one other
than 0. -/
def Locates (lines : List (List Char)) (mark : List Char) (loc : SourceLocation) : Prop :=
  ∃ file number column, loc? mark = some (file, number, column) ∧
    (∃ n, Scan.number? file = some n ∧ lines.findSomeRev? (pathOf? n) = some loc.file) ∧
    Scan.number? number = some loc.line ∧ loc.line ≠ 0 ∧
    ∀ c, loc.column = some c ↔ c ≠ 0 ∧ ∃ digits, column = some digits ∧ Scan.number? digits = some c

theorem placeOf_survey_eq_some_iff {file number : List Char} {column : Option (List Char)} :
    placeOf (survey lines) file number column = some loc ↔
      (∃ n, Scan.number? file = some n ∧ lines.findSomeRev? (pathOf? n) = some loc.file) ∧
        Scan.number? number = some loc.line ∧ loc.line ≠ 0 ∧
        ∀ c, loc.column = some c ↔
          c ≠ 0 ∧ ∃ digits, column = some digits ∧ Scan.number? digits = some c := by
  have hcolumn : ((column >>= Scan.number?).filter (· != 0) = loc.column) ↔
      ∀ c, loc.column = some c ↔
        c ≠ 0 ∧ ∃ digits, column = some digits ∧ Scan.number? digits = some c := by
    rw [eq_comm, Option.ext_iff]
    simp [Option.filter_eq_some_iff, Option.bind_eq_some_iff, and_comm]
  rw [← hcolumn]
  simp only [placeOf, Option.bind_eq_bind, Option.bind_eq_some_iff, Option.some.injEq,
    Option.filter_eq_some_iff, bne_iff_ne, ne_eq, file?_survey]
  constructor
  · rintro ⟨path, ⟨n, hn, hpath⟩, number', ⟨hnumber, hzero⟩, rfl⟩
    exact ⟨⟨n, hn, hpath⟩, hnumber, hzero, rfl⟩
  · rintro ⟨⟨n, hn, hpath⟩, hnumber, hzero, hcol⟩
    exact ⟨loc.file, ⟨n, hn, hpath⟩, loc.line, ⟨hnumber, hzero⟩, by rw [hcol]⟩

theorem placeSet_survey_eq_some_iff :
    placeSet (survey lines) mark = some loc ↔ Locates lines mark loc := by
  simp only [placeSet, Option.bind_eq_bind, Option.bind_eq_some_iff, Prod.exists,
    placeOf_survey_eq_some_iff, Locates]

/-! ### Entries -/

/-- The entry at a position is that of the line there, with the place that is in force after it. -/
theorem of_getElem?_entriesFrom {place : Option SourceLocation} {inDebug : Bool} {e : Entry}
    (h : (entriesFrom s place inDebug lines)[i]? = some e) :
    lines[i]? = some e.line ∧ e.kind = classify e.line ∧
      e.place = (lines.take (i + 1)).foldl (placeAfter s) place := by
  induction lines generalizing place inDebug i with
  | nil => simp [entriesFrom] at h
  | cons line lines ih =>
    rw [entriesFrom] at h
    cases i with
    | zero =>
      obtain rfl := by simpa using h
      exact ⟨rfl, rfl, rfl⟩
    | succ i =>
      rw [List.getElem?_cons_succ] at h
      exact ih h

/-- A line of a listing is attributed to a place: it is an instruction, and the last line up to it
that sets the place in force, or ends it, is a `.loc` directive that names the place. -/
structure Attributed (lines : List (List Char)) (i : Nat) (loc : SourceLocation) : Prop where
  instruction : lines[i]?.map classify = some .instruction
  mark : ∃ mark, (lines.take (i + 1)).findRev? setsPlace = some mark ∧ Locates lines mark loc

theorem source_eq_some_iff {e : Entry} (h : (entries (survey lines) lines)[i]? = some e) :
    e.source = some loc ↔ Attributed lines i loc := by
  obtain ⟨hline, hkind, hplace⟩ := of_getElem?_entriesFrom h
  have hinstruction : e.kind = .instruction ↔ lines[i]?.map classify = some .instruction := by
    rw [hline, hkind, Option.map_some, Option.some.injEq]
  rw [foldl_placeAfter] at hplace
  have hmark : e.place = some loc ↔
      ∃ mark, (lines.take (i + 1)).findRev? setsPlace = some mark ∧ Locates lines mark loc := by
    simp only [hplace, Option.bind_eq_some_iff, placeSet_survey_eq_some_iff]
  rw [Entry.source, Option.ite_none_right_eq_some, hinstruction, hmark]
  exact ⟨fun ⟨h, hm⟩ => ⟨h, hm⟩, fun ⟨h, hm⟩ => ⟨h, hm⟩⟩

/-! ### Lines shown -/

/-- A line shown comes from the line of the listing at a position: it has its text, and its place
if there is any. -/
structure ComesFrom (filters : FilterOptions) (lines : List (List Char)) (i : Nat)
    (shown : ParsedLine) : Prop where
  text : lines[i]?.map (Scan.shown filters.trim) = some shown.text
  source (loc : SourceLocation) : shown.source = some loc ↔ Attributed lines i loc

theorem comesFrom_shown (filters : FilterOptions) {e : Entry}
    (h : (entries (survey lines) lines)[i]? = some e) :
    ComesFrom filters lines i (e.shown filters) where
  text := by
    rw [(of_getElem?_entriesFrom h).1]
    rfl
  source _ := source_eq_some_iff h

theorem exists_positions {α : Type} {xs ys : List α} (h : xs.Sublist ys) :
    ∃ kept : List Nat, kept.Pairwise (· < ·) ∧
      List.Forall₂ (fun i x => ys[i]? = some x) kept xs := by
  obtain ⟨kept, rfl, hkept⟩ := List.sublist_eq_map_getElem h
  refine ⟨kept.map Fin.val, hkept.map Fin.val fun _ _ hlt => hlt, ?_⟩
  rw [List.forall₂_map_left_iff, List.forall₂_map_right_iff, List.forall₂_same]
  exact fun i _ => List.getElem?_eq_getElem i.isLt

theorem length_entries (s : Survey) (lines : List (List Char)) :
    (entries s lines).length = lines.length := by
  rw [← List.length_map Entry.line, entries, map_line_entriesFrom]

/-- **Where the lines of a GNU listing come from.**  Under any filters, the lines shown are those at
some ascending positions of the text, and with nothing hidden those at all positions.  A line shown
for a position has the source `loc` exactly if the line there is an instruction, and the last line
up to it that is a `.loc` directive or ends the place in force is a `.loc` directive that names
`loc`; so every other line has no source. -/
theorem source_attribution (text : List Char) (filters : FilterOptions) :
    (∃ kept : List Nat, kept.Pairwise (· < ·) ∧
        List.Forall₂ (ComesFrom filters (Text.lines text)) kept (parse text filters)) ∧
      List.Forall₂ (ComesFrom filters (Text.lines text)) (List.range (Text.lines text).length)
        (parse text filters.unfiltered) := by
  have hshown {kept : List Nat} {es : List Entry}
      (h : List.Forall₂ (fun i e =>
        (entries (survey (Text.lines text)) (Text.lines text))[i]? = some e) kept es) :
      List.Forall₂ (ComesFrom filters (Text.lines text)) kept (es.map (Entry.shown filters)) :=
    List.forall₂_map_right_iff.2 (h.imp fun _ _ => comesFrom_shown filters)
  constructor
  · obtain ⟨kept, hascending, hkept⟩ := exists_positions
      (visible_sublist filters (survey (Text.lines text))
        (entries (survey (Text.lines text)) (Text.lines text)))
    exact ⟨kept, hascending, hshown hkept⟩
  · simp only [parse, visible_unfiltered]
    refine hshown (List.forall₂_iff_get.2 ⟨?_, fun i hi hi' => ?_⟩)
    · rw [List.length_range, length_entries]
    · simp

/-- The directives are hidden, and what they say is not: the last file with the number counts, and
nothing is attributed to it after `.text`. -/
example :
    parse ".file 1 \"a\"\n.loc 1 2\n nop\n.text\n nop\n.file 1 \"d\" \"b\"".toList {} =
      [{ text := " nop", source := some { file := .ofText "d/b", line := 2, column := none } },
        { text := " nop", source := none }] := by
  decide +kernel

end Gas

end AsmExplorer
