import AsmExplorer.Proofs.Listing.Attribution
import AsmExplorer.Proofs.Listing.References
import Mathlib.Data.List.Forall2
import Mathlib.Data.List.Induction

/-!
# Where the code of a Microsoft listing comes from

Comments mark the place of the code that follows.  A `; File` marker names a file and ends the line
in force, a `; Line` marker names a line, and the end of a procedure ends the line in force too.

* `Masm.LastBefore` : the last line before a position that has a property.
* `Masm.Attributed` : what it takes for the line at a position to come from a place.
* `Masm.marker_attribution` : **under any filters, the lines shown are those at the positions that
  the filters keep, each with the place that it has in the whole listing.**

Markers are comments, so the default filters hide them.  They are read before any line is hidden.
-/

namespace AsmExplorer

/-! ### The last write counts -/

section LastWrite

variable {α β σ : Type}

/-- What a run leaves in a cell is what was written last, if each step either writes the cell or
leaves it alone. -/
theorem get_foldl_eq_findSomeRev? {step : σ → α → σ} {get : σ → β} {write : α → Option β}
    (h : ∀ s a, get (step s a) = (write a).getD (get s)) (s : σ) (xs : List α) :
    get (xs.foldl step s) = (xs.findSomeRev? write).getD (get s) := by
  induction xs using List.reverseRecOn with
  | nil => rfl
  | append_singleton xs x ih =>
    rw [List.foldl_append, List.foldl_cons, List.foldl_nil, h, ih]
    cases hx : write x <;> simp [List.findSomeRev?_eq_findSome?_reverse, hx]

theorem findSomeRev?_take_succ (f : α → Option β) (xs : List α) (i : Nat) :
    (xs.take (i + 1)).findSomeRev? f = (xs[i]?.bind f).or ((xs.take i).findSomeRev? f) := by
  rw [List.take_add_one]
  cases xs[i]? with
  | none => simp [List.findSomeRev?_eq_findSome?_reverse]
  | some x =>
    cases hx : f x <;> simp [List.findSomeRev?_eq_findSome?_reverse, hx]

/-- The last value among the first elements: it is read off one of them, and nothing is read off
those after it. -/
theorem findSomeRev?_take_eq_some_iff {f : α → Option β} {xs : List α} {i : Nat} {b : β} :
    (xs.take i).findSomeRev? f = some b ↔ ∃ m x, m < i ∧ xs[m]? = some x ∧ f x = some b ∧
      ∀ j, m < j → j < i → ∀ y, xs[j]? = some y → f y = none := by
  induction i with
  | zero => simp
  | succ i ih =>
    rw [findSomeRev?_take_succ, Option.or_eq_some_iff, ih]
    -- Either the element at `i` gives the value, or it gives none and the ones before it decide.
    constructor
    · rintro (hlast | ⟨hnone, m, x, hm, hx, hfx, hafter⟩)
      · obtain ⟨x, hx, hfx⟩ := Option.bind_eq_some_iff.1 hlast
        exact ⟨i, x, by omega, hx, hfx, fun j hj hj' => absurd hj' (by omega)⟩
      · refine ⟨m, x, by omega, hx, hfx, fun j hj hj' y hy => ?_⟩
        obtain rfl | hlt := Nat.eq_or_lt_of_le (Nat.le_of_lt_succ hj')
        · exact Option.bind_eq_none_iff.1 hnone y hy
        · exact hafter j hj hlt y hy
    · rintro ⟨m, x, hm, hx, hfx, hafter⟩
      obtain rfl | hlt := Nat.eq_or_lt_of_le (Nat.le_of_lt_succ hm)
      · exact .inl (Option.bind_eq_some_iff.2 ⟨x, hx, hfx⟩)
      · exact .inr ⟨Option.bind_eq_none_iff.2 (hafter i hlt (by omega)), m, x, hlt, hx, hfx,
          fun j hj hj' => hafter j hj (by omega)⟩

/-- The elements that pass a test stand at ascending positions, which are those of the elements that
pass it. -/
theorem exists_filter_positions (p : α → Bool) (xs : List α) :
    ∃ kept : List Nat, kept.Pairwise (· < ·) ∧
      List.Forall₂ (fun i x => xs[i]? = some x) kept (xs.filter p) ∧
      ∀ i, i ∈ kept ↔ ∃ x, xs[i]? = some x ∧ p x = true := by
  refine ⟨(xs.zipIdx.filter fun x => p x.1).map Prod.snd, ?_, ?_, fun i => ?_⟩
  · have hrange : (xs.zipIdx.map Prod.snd).Pairwise (· < ·) := by
      rw [List.zipIdx_map_snd]
      exact List.pairwise_lt_range'
    exact List.pairwise_map.2 ((List.pairwise_map.1 hrange).sublist List.filter_sublist)
  · conv => rhs; rw [← List.zipIdx_map_fst 0 xs, List.filter_map]
    rw [List.forall₂_map_left_iff, List.forall₂_map_right_iff]
    exact List.forall₂_same.2 fun x hx =>
      List.mem_zipIdx_iff_getElem?.1 (List.mem_of_mem_filter hx)
  · rw [List.mem_map]
    constructor
    · rintro ⟨x, hx, rfl⟩
      obtain ⟨hmem, hpass⟩ := List.mem_filter.1 hx
      exact ⟨x.1, List.mem_zipIdx_iff_getElem?.1 hmem, hpass⟩
    · rintro ⟨x, hx, hpass⟩
      exact ⟨(x, i), List.mem_filter.2 ⟨List.mem_zipIdx_iff_getElem?.2 hx, hpass⟩, rfl⟩

end LastWrite

namespace Masm

variable {lines : List (List Char)} {line : List Char} {loc : SourceLocation} {i m : Nat}

/-! ### Markers -/

theorem classify_of_literal? {text : String} {rest : List Char}
    (htext : text.toList.head? = some ';') (h : Scan.literal? text line = some rest) :
    classify line = .comment := by
  obtain ⟨more, hmore⟩ := List.head?_eq_some_iff.1 htext
  have hline : line = ';' :: (more ++ rest) := by
    rw [Scan.eq_of_literal? h, hmore, List.cons_append]
  have hcomment : isComment line = true := by
    rw [hline]
    rfl
  rw [classify, if_pos hcomment]

theorem classify_of_fileMarker? {file : Path} (h : fileMarker? line = some file) :
    classify line = .comment := by
  simp only [fileMarker?, Option.bind_eq_bind, Option.bind_eq_some_iff] at h
  obtain ⟨rest, hliteral, -⟩ := h
  exact classify_of_literal? (by decide) hliteral

theorem classify_of_lineMarker? {digits : List Char} (h : lineMarker? line = some digits) :
    classify line = .comment := by
  simp only [lineMarker?, Option.bind_eq_bind, Option.bind_eq_some_iff] at h
  obtain ⟨rest, hliteral, -⟩ := h
  exact classify_of_literal? (by decide) hliteral

theorem fileMarker?_of_lineMarker? {digits : List Char} (h : lineMarker? line = some digits) :
    fileMarker? line = none := by
  simp only [lineMarker?, Option.bind_eq_bind, Option.bind_eq_some_iff] at h
  obtain ⟨rest, hliteral, -⟩ := h
  rw [Scan.eq_of_literal? hliteral]
  rfl

/-! ### The place in force -/

/-- What a line does to the file in force. -/
def fileWrite (line : List Char) : Option (Option Path) :=
  (fileMarker? line).map some

/-- What a line does to the line in force: a marker sets it, a new file and the end of a procedure
end it. -/
def lineWrite (line : List Char) : Option (Option UInt32) :=
  if (fileMarker? line).isSome ∨ classify line = .procedureEnd then some none
  else (lineMarker? line).map fun digits => (Scan.number? digits).filter (· != 0)

theorem file_after (place : Place) (line : List Char) :
    (place.after line).file = (fileWrite line).getD place.file := by
  have hmarker : (place.afterMarker line).file = (fileWrite line).getD place.file := by
    unfold Place.afterMarker fileWrite
    cases fileMarker? line with
    | some file => rfl
    | none => cases lineMarker? line <;> rfl
  rw [← hmarker, Place.after]
  split <;> rfl

theorem line_after (place : Place) (line : List Char) :
    (place.after line).line = (lineWrite line).getD place.line := by
  unfold Place.after Place.afterMarker lineWrite
  cases hend : decide (classify line = .procedureEnd) with
  | true =>
    have hend' := of_decide_eq_true hend
    simp [hend']
  | false =>
    have hend' := of_decide_eq_false hend
    cases fileMarker? line with
    | some file => simp [hend']
    | none => cases lineMarker? line <;> simp [hend']

theorem after_of_code (place : Place) (h : classify line = .code) : place.after line = place := by
  have hfile : fileMarker? line = none := by
    cases hmark : fileMarker? line with
    | none => rfl
    | some file => exact absurd (h.symm.trans (classify_of_fileMarker? hmark)) nofun
  have hline : lineMarker? line = none := by
    cases hmark : lineMarker? line with
    | none => rfl
    | some digits => exact absurd (h.symm.trans (classify_of_lineMarker? hmark)) nofun
  simp [Place.after, Place.afterMarker, hfile, hline, h]

/-- The line at position `m` is the last one before position `i` that has a property. -/
structure LastBefore (p : List Char → Prop) (lines : List (List Char)) (i m : Nat)
    (line : List Char) : Prop where
  lt : m < i
  at_eq : lines[m]? = some line
  holds : p line
  none_after (j : Nat) (hm : m < j) (hi : j < i) (other : List Char)
    (h : lines[j]? = some other) : ¬ p other

/-- The line at a position is attributed to a place.  It is code; the last `; File` marker before it
names the file; the last `; Line` marker before it carries the line, a number other than 0, and
neither a `; File` marker nor the end of a procedure stands between that marker and the code. -/
structure Attributed (lines : List (List Char)) (i : Nat) (loc : SourceLocation) : Prop where
  code : lines[i]?.map classify = some .code
  file : ∃ m mark, LastBefore (fun line => (fileMarker? line).isSome = true) lines i m mark ∧
    fileMarker? mark = some loc.file
  line : ∃ m mark digits,
    LastBefore (fun line => (lineMarker? line).isSome = true) lines i m mark ∧
      lineMarker? mark = some digits ∧ Scan.number? digits = some loc.line ∧ loc.line ≠ 0 ∧
      ∀ j, m < j → j < i → ∀ other, lines[j]? = some other →
        fileMarker? other = none ∧ classify other ≠ .procedureEnd
  column : loc.column = none

/-- The place in force before a position. -/
def placeBefore (lines : List (List Char)) (i : Nat) : Place :=
  (lines.take i).foldl Place.after {}

theorem file_placeBefore_eq_some_iff {file : Path} : (placeBefore lines i).file = some file ↔
    ∃ m mark, LastBefore (fun line => (fileMarker? line).isSome = true) lines i m mark ∧
      fileMarker? mark = some file := by
  have hnone : ∀ line, fileWrite line = none ↔ ¬ (fileMarker? line).isSome = true := by
    simp [fileWrite]
  rw [placeBefore, get_foldl_eq_findSomeRev? file_after, Option.getD_eq_iff]
  simp only [reduceCtorEq, and_false, or_false, findSomeRev?_take_eq_some_iff, hnone]
  constructor
  · rintro ⟨m, mark, hm, hat, hwrite, hafter⟩
    have hfile : fileMarker? mark = some file := by simpa [fileWrite] using hwrite
    exact ⟨m, mark, ⟨hm, hat, by simp [hfile], hafter⟩, hfile⟩
  · rintro ⟨m, mark, hlast, hfile⟩
    exact ⟨m, mark, hlast.lt, hlast.at_eq, by simp [fileWrite, hfile], hlast.none_after⟩

/-- A line does not touch the line in force if it is no marker and ends no procedure. -/
theorem lineWrite_eq_none_iff : lineWrite line = none ↔
    ¬ (lineMarker? line).isSome = true ∧ fileMarker? line = none ∧
      classify line ≠ .procedureEnd := by
  rw [lineWrite]
  split
  · rename_i h
    obtain hfile | hend := h
    · simp [Option.ne_none_iff_isSome.2 hfile]
    · simp [hend]
  · rename_i h
    rw [not_or, Option.not_isSome_iff_eq_none] at h
    simp [h]

theorem lineWrite_eq_some_some_iff {n : UInt32} : lineWrite line = some (some n) ↔
    ∃ digits, lineMarker? line = some digits ∧ Scan.number? digits = some n ∧ n ≠ 0 := by
  constructor
  · intro h
    rw [lineWrite] at h
    split at h
    · cases h
    · simpa [Option.filter_eq_some_iff] using h
  · rintro ⟨digits, hmark, hnumber, hzero⟩
    have hfile := fileMarker?_of_lineMarker? hmark
    have hcomment := classify_of_lineMarker? hmark
    simp [lineWrite, hfile, hcomment, hmark, hnumber, hzero]

theorem line_placeBefore_eq_some_iff {n : UInt32} : (placeBefore lines i).line = some n ↔
    ∃ m mark digits, LastBefore (fun line => (lineMarker? line).isSome = true) lines i m mark ∧
      lineMarker? mark = some digits ∧ Scan.number? digits = some n ∧ n ≠ 0 ∧
      ∀ j, m < j → j < i → ∀ other, lines[j]? = some other →
        fileMarker? other = none ∧ classify other ≠ .procedureEnd := by
  rw [placeBefore, get_foldl_eq_findSomeRev? line_after, Option.getD_eq_iff]
  simp only [reduceCtorEq, and_false, or_false, findSomeRev?_take_eq_some_iff,
    lineWrite_eq_some_some_iff, lineWrite_eq_none_iff]
  constructor
  · rintro ⟨m, mark, hm, hat, ⟨digits, hmark, hnumber, hzero⟩, hafter⟩
    refine ⟨m, mark, digits, ⟨hm, hat, by simp [hmark], fun j hj hi other hother => ?_⟩, hmark,
      hnumber, hzero, fun j hj hi other hother => (hafter j hj hi other hother).2⟩
    exact (hafter j hj hi other hother).1
  · rintro ⟨m, mark, digits, hlast, hmark, hnumber, hzero, hafter⟩
    refine ⟨m, mark, hlast.lt, hlast.at_eq, ⟨digits, hmark, hnumber, hzero⟩, ?_⟩
    intro j hj hi other hother
    exact ⟨hlast.none_after j hj hi other hother, hafter j hj hi other hother⟩

/-! ### Lines shown -/

/-- The entry at a position is that of the line there; code has the location in force before it. -/
theorem of_getElem?_entriesFrom {place : Place} {e : Entry}
    (h : (entriesFrom place lines)[i]? = some e) :
    lines[i]? = some e.line ∧ e.kind = classify e.line ∧
      e.source = if e.kind = .code then ((lines.take i).foldl Place.after place).location?
        else none := by
  induction lines generalizing place i with
  | nil => simp [entriesFrom] at h
  | cons line lines ih =>
    rw [entriesFrom] at h
    cases i with
    | zero =>
      obtain rfl := by simpa using h
      refine ⟨rfl, rfl, ?_⟩
      dsimp only
      split
      · rename_i hcode
        rw [after_of_code place hcode]
        rfl
      · rfl
    | succ i =>
      rw [List.getElem?_cons_succ] at h
      exact ih h

theorem location?_eq_some_iff {place : Place} : place.location? = some loc ↔
    place.file = some loc.file ∧ place.line = some loc.line ∧ loc.column = none := by
  obtain ⟨file, line, column⟩ := loc
  simp only [Place.location?, Option.bind_eq_bind, Option.bind_eq_some_iff, Option.some.injEq,
    SourceLocation.mk.injEq]
  constructor
  · rintro ⟨_, hfile, _, hline, rfl, rfl, rfl⟩
    exact ⟨hfile, hline, rfl⟩
  · rintro ⟨hfile, hline, rfl⟩
    exact ⟨_, hfile, _, hline, rfl, rfl, rfl⟩

theorem source_eq_some_iff {e : Entry} (h : (entries lines)[i]? = some e) :
    e.source = some loc ↔ Attributed lines i loc := by
  obtain ⟨hline, hkind, hsource⟩ := of_getElem?_entriesFrom h
  have hcode : e.kind = .code ↔ lines[i]?.map classify = some .code := by
    rw [hline, hkind, Option.map_some, Option.some.injEq]
  rw [hsource, Option.ite_none_right_eq_some, hcode, location?_eq_some_iff, ← placeBefore,
    file_placeBefore_eq_some_iff, line_placeBefore_eq_some_iff]
  exact ⟨fun ⟨hcode, hfile, hmark, hcolumn⟩ => ⟨hcode, hfile, hmark, hcolumn⟩,
    fun ⟨hcode, hfile, hmark, hcolumn⟩ => ⟨hcode, hfile, hmark, hcolumn⟩⟩

/-- A line shown comes from the line of the listing at a position: it has its text, and its place
if there is any. -/
structure ComesFrom (filters : FilterOptions) (lines : List (List Char)) (i : Nat)
    (shown : ParsedLine) : Prop where
  text : lines[i]?.map (Scan.shown filters.trim) = some shown.text
  source (loc : SourceLocation) : shown.source = some loc ↔ Attributed lines i loc

/-- **Where the lines of a Microsoft listing come from.**  Under any filters, the lines shown are
those at the positions of which the filters keep the kind, in order.  A line shown for a position
has the source `loc` exactly if the listing attributes the line there to `loc`, whatever is hidden;
so every line that is no code has no source. -/
theorem marker_attribution (text : List Char) (filters : FilterOptions) :
    ∃ kept : List Nat, kept.Pairwise (· < ·) ∧
      List.Forall₂ (ComesFrom filters (Text.lines text)) kept (parse text filters) ∧
      ∀ i, i ∈ kept ↔ ∃ line, (Text.lines text)[i]? = some line ∧
        keepsKind filters (used (Text.lines text)) (classify line) = true := by
  obtain ⟨kept, hascending, hentries, hkept⟩ := exists_filter_positions
    (fun e : Entry => keepsKind filters (used (Text.lines text)) e.kind)
    (entries (Text.lines text))
  refine ⟨kept, hascending, ?_, fun i => ?_⟩
  · rw [parse, List.forall₂_map_right_iff]
    refine hentries.imp fun i e h => ⟨?_, fun _ => source_eq_some_iff h⟩
    rw [(of_getElem?_entriesFrom h).1]
    rfl
  · rw [hkept]
    constructor
    · rintro ⟨e, hat, hkeeps⟩
      obtain ⟨hline, hkind, -⟩ := of_getElem?_entriesFrom hat
      exact ⟨e.line, hline, hkind ▸ hkeeps⟩
    · rintro ⟨line, hline, hkeeps⟩
      have hlines := hline
      rw [← map_line_entriesFrom {} (Text.lines text), List.getElem?_map] at hlines
      obtain ⟨e, hat, rfl⟩ := Option.map_eq_some_iff.1 hlines
      exact ⟨e, hat, (of_getElem?_entriesFrom hat).2.1 ▸ hkeeps⟩

/-- The markers are hidden, and what they say is not; a new file and the end of a procedure end the
line in force. -/
example :
    parse "; File a\n; Line 3\n nop\n; File b\n nop\n; Line 4\n nop\nf ENDP\n nop".toList {} =
      [{ text := " nop", source := some { file := .ofText "a", line := 3, column := none } },
        { text := " nop", source := none },
        { text := " nop", source := some { file := .ofText "b", line := 4, column := none } },
        { text := " nop", source := none }] := by
  decide +kernel

end Masm

end AsmExplorer
