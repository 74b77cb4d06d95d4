import AsmExplorer.Compiler.Kind
import Mathlib.Data.List.Basic
import Mathlib.Data.List.Flatten

/-!
# Filters only hide

What a line of a listing shows, and the place in the sources that it is attributed to, is settled
before any filter is applied.  Both parsers first make an entry of every line, whatever the filters
are, and the filters then choose among the entries.

* `CompilerKind.places` : the places that the lines of a listing are attributed to.
* `CompilerKind.parse_unfiltered` : with nothing hidden, every line of the text is shown, at its
  place.
* `CompilerKind.filters_only_hide` : **other filters show some of these lines**, in their order, and
  to hide library code hides no line of the main file.
-/

namespace AsmExplorer

/-- The filters that hide nothing and show every line in the same way. -/
def FilterOptions.unfiltered (filters : FilterOptions) : FilterOptions :=
  { FilterOptions.off with trim := filters.trim, debugCalls := true }

/-! ### GNU listings -/

namespace Gas

variable {s : Survey}

theorem map_line_entriesFrom (place : Option SourceLocation) (inDebug : Bool)
    (lines : List (List Char)) : (entriesFrom s place inDebug lines).map Entry.line = lines := by
  induction lines generalizing place inDebug with
  | nil => rfl
  | cons line lines ih => rw [entriesFrom, List.map_cons, ih]

theorem flatten_blocks (es : List Entry) : (blocks es).flatten = es := by
  induction es with
  | nil => rfl
  | cons e es ih =>
    unfold blocks
    split
    · rename_i block more hblocks
      have hrest : block ++ more.flatten = es := by rw [← ih, hblocks, List.flatten_cons]
      split
      · rw [List.flatten_cons, List.flatten_cons, List.nil_append, List.cons_append, hrest]
      · rw [List.flatten_cons, List.cons_append, hrest]
    · rename_i hblocks
      rw [← ih, hblocks]
      rfl

theorem filter_isMainCode_of_isLibrary {block : List Entry} (h : isLibrary s block = true) :
    block.filter (·.isMainCode s) = [] := by
  rw [isLibrary, Bool.and_eq_true, Bool.not_eq_true', List.any_eq_false] at h
  exact List.filter_eq_nil_iff.2 h.2

/-- Leaving out the blocks of library code leaves all code of the main file. -/
theorem filter_isMainCode_flatten (bs : List (List Entry)) :
    (bs.filter fun b => !isLibrary s b).flatten.filter (·.isMainCode s) =
      bs.flatten.filter (·.isMainCode s) := by
  induction bs with
  | nil => rfl
  | cons b bs ih =>
    rw [List.flatten_cons, List.filter_append, ← ih]
    cases hb : isLibrary s b with
    | true => rw [List.filter_cons_of_neg (by simp [hb]), filter_isMainCode_of_isLibrary hb,
        List.nil_append]
    | false => rw [List.filter_cons_of_pos (by simp [hb]), List.flatten_cons, List.filter_append]

/-! #### The lines shown -/

/-- Leaving out blocks only hides entries. -/
theorem flatten_filter_blocks_sublist (p : List Entry → Bool) (es : List Entry) :
    ((blocks es).filter p).flatten.Sublist es := by
  have h := (List.filter_sublist (p := p) (l := blocks es)).flatten
  rwa [flatten_blocks] at h

theorem visible_sublist (filters : FilterOptions) (s : Survey) (es : List Entry) :
    (visible filters s es).Sublist es := by
  refine List.filter_sublist.trans ?_
  split
  · exact (flatten_filter_blocks_sublist _ _).trans List.filter_sublist
  · exact List.filter_sublist

theorem visible_unfiltered (filters : FilterOptions) (s : Survey) (es : List Entry) :
    visible filters.unfiltered s es = es := by
  have hscope : ∀ e : Entry, e.inScope filters.unfiltered = true := fun e => rfl
  have hkind : ∀ kind, Entry.keepsKind filters.unfiltered s.used kind = true := by
    intro kind
    cases kind <;> rfl
  have hlibrary : filters.unfiltered.libraryCode = false := rfl
  simp [visible, hscope, hkind, hlibrary]

theorem visible_libraryCode_sublist (filters : FilterOptions) (s : Survey) (es : List Entry) :
    (visible { filters with libraryCode := true } s es).Sublist
      (visible { filters with libraryCode := false } s es) :=
  (flatten_filter_blocks_sublist _ _).filter _

theorem filter_isMainCode_visible (filters : FilterOptions) (s : Survey) (es : List Entry) :
    (visible { filters with libraryCode := true } s es).filter (·.isMainCode s) =
      (visible { filters with libraryCode := false } s es).filter (·.isMainCode s) := by
  have hkept := filter_isMainCode_flatten (s := s) (blocks (es.filter (Entry.inScope filters)))
  rw [flatten_blocks] at hkept
  simp only [visible, if_true, Bool.false_eq_true, if_false]
  rw [List.filter_comm, List.filter_comm (fun e : Entry => e.isMainCode s)]
  exact congrArg (List.filter _) hkept

/-- The places that the lines of a listing are attributed to. -/
def places (text : List Char) : List (Option SourceLocation) :=
  (entries (survey (Text.lines text)) (Text.lines text)).map Entry.source

theorem length_places (text : List Char) : (places text).length = (Text.lines text).length := by
  rw [places, List.length_map, ← List.length_map Entry.line, entries, map_line_entriesFrom]

theorem parse_unfiltered (text : List Char) (filters : FilterOptions) :
    parse text filters.unfiltered =
      (Text.lines text).zipWith
        (fun line place => { text := Scan.shown filters.trim line, source := place })
        (places text) := by
  have hlines := map_line_entriesFrom (s := survey (Text.lines text)) none false (Text.lines text)
  rw [← entries] at hlines
  generalize hes : entries (survey (Text.lines text)) (Text.lines text) = es at hlines
  rw [parse, visible_unfiltered, places, hes, ← hlines, List.zipWith_map, List.zipWith_self]
  rfl

theorem parse_sublist_unfiltered (text : List Char) (filters : FilterOptions) :
    (parse text filters).Sublist (parse text filters.unfiltered) := by
  simp only [parse, visible_unfiltered]
  exact (visible_sublist filters _ _).map (Entry.shown filters)

/-- Whether a line shown for a listing is attributed to the main file. -/
def isMainLine (text : List Char) (line : ParsedLine) : Bool :=
  line.source.any fun loc => (survey (Text.lines text)).isMain loc.file

theorem filter_isMainLine_parse (text : List Char) (filters : FilterOptions) :
    (parse text filters).filter (isMainLine text) =
      ((visible filters (survey (Text.lines text))
        (entries (survey (Text.lines text)) (Text.lines text))).filter
          (·.isMainCode (survey (Text.lines text)))).map (Entry.shown filters) :=
  List.filter_map

end Gas

/-! ### Microsoft listings -/

namespace Masm

theorem map_line_entriesFrom (place : Place) (lines : List (List Char)) :
    (entriesFrom place lines).map Entry.line = lines := by
  induction lines generalizing place with
  | nil => rfl
  | cons line lines ih => rw [entriesFrom, List.map_cons, ih]

theorem keepsKind_unfiltered (filters : FilterOptions) (used : List (List Char)) (kind : LineKind) :
    keepsKind filters.unfiltered used kind = true := by
  cases kind <;> rfl

/-- The places that the lines of a listing are attributed to. -/
def places (text : List Char) : List (Option SourceLocation) :=
  (entries (Text.lines text)).map Entry.source

theorem length_places (text : List Char) : (places text).length = (Text.lines text).length := by
  rw [places, List.length_map, ← List.length_map Entry.line, entries, map_line_entriesFrom]

theorem parse_unfiltered (text : List Char) (filters : FilterOptions) :
    parse text filters.unfiltered =
      (Text.lines text).zipWith
        (fun line place => { text := Scan.shown filters.trim line, source := place })
        (places text) := by
  have hlines := map_line_entriesFrom {} (Text.lines text)
  rw [← entries] at hlines
  generalize hes : entries (Text.lines text) = es at hlines
  simp only [parse, keepsKind_unfiltered, List.filter_true]
  rw [places, hes, ← hlines, List.zipWith_map, List.zipWith_self]
  rfl

theorem parse_sublist_unfiltered (text : List Char) (filters : FilterOptions) :
    (parse text filters).Sublist (parse text filters.unfiltered) := by
  simp only [parse, keepsKind_unfiltered, List.filter_true]
  exact List.filter_sublist.map (Entry.shown filters)

end Masm

/-! ### Both -/

namespace CompilerKind

/-- The places that the lines of a listing are attributed to, which no filter changes. -/
def places (kind : CompilerKind) (text : List Char) : List (Option SourceLocation) :=
  match kind with
  | gcc => Gas.places text
  | clangCl => Gas.places text
  | msvc => Masm.places text

theorem length_places (kind : CompilerKind) (text : List Char) :
    (kind.places text).length = (Text.lines text).length := by
  cases kind with
  | gcc | clangCl => exact Gas.length_places text
  | msvc => exact Masm.length_places text

/-- With nothing hidden, every line of the text is shown at its place. -/
theorem parse_unfiltered (kind : CompilerKind) (text : List Char) (filters : FilterOptions) :
    kind.parse text filters.unfiltered =
      (Text.lines text).zipWith
        (fun line place => { text := Scan.shown filters.trim line, source := place })
        (kind.places text) := by
  cases kind with
  | gcc | clangCl => exact Gas.parse_unfiltered text filters
  | msvc => exact Masm.parse_unfiltered text filters

/-- What filters show is some of what is shown with nothing hidden, in its order. -/
theorem parse_sublist_unfiltered (kind : CompilerKind) (text : List Char)
    (filters : FilterOptions) :
    (kind.parse text filters).Sublist (kind.parse text filters.unfiltered) := by
  cases kind with
  | gcc | clangCl => exact Gas.parse_sublist_unfiltered text filters
  | msvc => exact Masm.parse_sublist_unfiltered text filters

/-- **Filters only hide.**  What is shown under any filters is a part, in the order of the listing,
of what is shown with nothing hidden, and that is exactly one line for each line of the text: its
text depends on the line and on `trim` only, and its place on no filter.  And to hide library code
takes away some lines of a GNU listing, none of which is attributed to the main file. -/
theorem filters_only_hide (kind : CompilerKind) (text : List Char) (filters : FilterOptions) :
    (kind.parse text filters).Sublist (kind.parse text filters.unfiltered) ∧
      (kind.parse text filters.unfiltered).length = (Text.lines text).length ∧
      kind.parse text filters.unfiltered =
        (Text.lines text).zipWith
          (fun line place => { text := Scan.shown filters.trim line, source := place })
          (kind.places text) ∧
      (Gas.parse text { filters with libraryCode := true }).Sublist
        (Gas.parse text { filters with libraryCode := false }) ∧
      (Gas.parse text { filters with libraryCode := true }).filter (Gas.isMainLine text) =
        (Gas.parse text { filters with libraryCode := false }).filter (Gas.isMainLine text) := by
  refine ⟨kind.parse_sublist_unfiltered text filters, ?_, kind.parse_unfiltered text filters, ?_,
    ?_⟩
  · rw [parse_unfiltered, List.length_zipWith, length_places, Nat.min_self]
  · exact (Gas.visible_libraryCode_sublist filters _ _).map _
  · rw [Gas.filter_isMainLine_parse, Gas.filter_isMainLine_parse, Gas.filter_isMainCode_visible]
    rfl

end CompilerKind

end AsmExplorer
