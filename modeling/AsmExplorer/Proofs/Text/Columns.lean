import AsmExplorer.Text.Columns
import Mathlib.Data.List.Induction
import Mathlib.Order.Bounds.Basic

/-!
# Columns stay

A character stands in a column that depends on what is before it in its line: a tab leads to the
next tab stop, every other character to the next column (`Text.columnOf`).

* `Text.Expands` : a text shows a line without tabs, each of its other characters in its column and
  spaces everywhere else.
* `Text.Expands.append` : one more character of the line is one more *cell* of the text, the
  character itself or the spaces up to the next tab stop.
* `Text.expandTabs_keeps_columns` : **expanding the tabs of a line gives the one text that shows
  it.**
-/

namespace AsmExplorer.Text

variable {s t : List Char} {c : Char}

/-! ### Columns -/

/-- The column after a character that stands in the given one. -/
def advance (column : Nat) (c : Char) : Nat :=
  if c = '\t' then (column / tabWidth + 1) * tabWidth else column + 1

/-- The column after a text. -/
def columnAfter (s : List Char) : Nat :=
  s.foldl advance 0

/-- The column in which the character with the given number stands. -/
def columnOf (s : List Char) (i : Nat) : Nat :=
  columnAfter (s.take i)

theorem isLeast_advance_tab (column : Nat) :
    IsLeast {stop | column < stop ∧ tabWidth ∣ stop} (advance column '\t') := by
  rw [advance, if_pos rfl, tabWidth]
  refine ⟨⟨by omega, Nat.dvd_mul_left _ _⟩, ?_⟩
  rintro _ ⟨hlt, k, rfl⟩
  omega

theorem advance_of_ne (h : c ≠ '\t') (column : Nat) : advance column c = column + 1 :=
  if_neg h

theorem lt_advance (column : Nat) (c : Char) : column < advance column c := by
  by_cases hc : c = '\t'
  · rw [hc]
    exact (isLeast_advance_tab column).1.1
  · rw [advance_of_ne hc]
    exact Nat.lt_succ_self column

@[simp] theorem columnAfter_append_singleton (s : List Char) (c : Char) :
    columnAfter (s ++ [c]) = advance (columnAfter s) c :=
  List.foldl_append

theorem columnOf_length (s : List Char) : columnOf s s.length = columnAfter s := by
  rw [columnOf, List.take_length]

theorem columnOf_lt_succ {i : Nat} (h : i < s.length) : columnOf s i < columnOf s (i + 1) := by
  rw [columnOf, columnOf, ← List.take_append_getElem h, columnAfter_append_singleton]
  exact lt_advance _ _

theorem columnOf_lt {i j : Nat} (hij : i < j) (hj : j ≤ s.length) :
    columnOf s i < columnOf s j := by
  induction j, hij using Nat.le_induction with
  | base => exact columnOf_lt_succ hj
  | succ j hij ih => exact (ih (by omega)).trans (columnOf_lt_succ hj)

/-! ### Cells -/

/-- What a character in a column is replaced by. -/
def cell (column : Nat) (c : Char) : List Char :=
  if c = '\t' then List.replicate (tabWidth - column % tabWidth) ' ' else [c]

theorem add_length_cell (column : Nat) (c : Char) :
    column + (cell column c).length = advance column c := by
  unfold cell advance
  split
  · rw [List.length_replicate, tabWidth]
    omega
  · rfl

theorem expandFrom_cons (column : Nat) (c : Char) (s : List Char) :
    expandFrom column (c :: s) = cell column c ++ expandFrom (advance column c) s := by
  rw [← add_length_cell, expandFrom, cell]
  split
  · rw [List.length_replicate]
  · rfl

theorem expandFrom_append_singleton (column : Nat) (s : List Char) (c : Char) :
    expandFrom column (s ++ [c]) = expandFrom column s ++ cell (s.foldl advance column) c := by
  induction s generalizing column with
  | nil => simp [expandFrom_cons, expandFrom]
  | cons d s ih => rw [List.cons_append, expandFrom_cons, ih, expandFrom_cons, List.append_assoc,
      List.foldl_cons]

theorem expandFrom_eq_self (h : '\t' ∉ s) (column : Nat) : expandFrom column s = s := by
  induction s generalizing column with
  | nil => rfl
  | cons c s ih =>
    obtain ⟨hc, hs⟩ := not_or.1 (mt List.mem_cons.2 h)
    rw [expandFrom, if_neg (Ne.symm hc), ih hs]

/-- It makes no difference that a text without tabs is returned at once. -/
theorem expandTabs_eq (s : List Char) : expandTabs s = expandFrom 0 s := by
  unfold expandTabs
  split
  · rfl
  · rename_i h
    exact (expandFrom_eq_self (by simpa using h) 0).symm

/-! ### Lines shown without tabs -/

/-- Whether a character that is no tab stands in a column. -/
def Occupied (s : List Char) (column : Nat) : Prop :=
  ∃ i c, s[i]? = some c ∧ c ≠ '\t' ∧ columnOf s i = column

/-- The text `t` shows the line `s`: every character but the tabs in its column, and spaces
everywhere else. -/
structure Expands (s t : List Char) : Prop where
  tab_not_mem : '\t' ∉ t
  length_eq : t.length = columnAfter s
  getElem?_columnOf : ∀ i c, s[i]? = some c → c ≠ '\t' → t[columnOf s i]? = some c
  getElem?_of_not_occupied : ∀ k < t.length, ¬Occupied s k → t[k]? = some ' '

namespace Expands

theorem nil : Expands [] [] where
  tab_not_mem := List.not_mem_nil
  length_eq := rfl
  getElem?_columnOf _ _ h := by simp at h
  getElem?_of_not_occupied _ h := by simp at h

theorem eq_or_mem (h : Expands s t) (hc : c ∈ t) : c = ' ' ∨ c ∈ s := by
  obtain ⟨k, hk⟩ := List.getElem?_of_mem hc
  by_cases hoccupied : Occupied s k
  · obtain ⟨i, d, hi, hd, rfl⟩ := hoccupied
    obtain rfl : d = c := Option.some.inj ((h.getElem?_columnOf i d hi hd).symm.trans hk)
    exact .inr (List.mem_of_getElem? hi)
  · have hspace := h.getElem?_of_not_occupied k (List.getElem?_eq_some_iff.1 hk).1 hoccupied
    exact .inl (Option.some.inj (hk.symm.trans hspace))

theorem append (h : Expands s t) (c : Char) :
    Expands (s ++ [c]) (t ++ cell (columnAfter s) c) where
  tab_not_mem := by
    rw [List.mem_append, not_or]
    refine ⟨h.tab_not_mem, ?_⟩
    unfold cell
    split
    · simp
    · rename_i hc
      simpa using Ne.symm hc
  length_eq := by
    rw [List.length_append, h.length_eq, add_length_cell, columnAfter_append_singleton]
  getElem?_columnOf i d hi hd := by
    obtain hlt | rfl | hgt := Nat.lt_trichotomy i s.length
    · rw [List.getElem?_append_left hlt] at hi
      have hcolumn : columnOf s i < t.length := by
        rw [h.length_eq, ← columnOf_length]
        exact columnOf_lt hlt (Nat.le_refl _)
      rw [columnOf, List.take_append_of_le_length hlt.le, ← columnOf,
        List.getElem?_append_left hcolumn]
      exact h.getElem?_columnOf i d hi hd
    · obtain rfl : c = d := by simpa using hi
      rw [columnOf, List.take_left, ← h.length_eq, List.getElem?_append_right (Nat.le_refl _), cell,
        if_neg hd]
      simp
    · rw [List.getElem?_eq_none (by rwa [List.length_append, List.length_singleton])] at hi
      cases hi
  getElem?_of_not_occupied k hk hfree := by
    by_cases hlt : k < t.length
    · rw [List.getElem?_append_left hlt]
      refine h.getElem?_of_not_occupied k hlt ?_
      rintro ⟨i, d, hi, hd, hcolumn⟩
      have his : i < s.length := (List.getElem?_eq_some_iff.1 hi).1
      refine hfree ⟨i, d, by rwa [List.getElem?_append_left his], hd, ?_⟩
      rwa [columnOf, List.take_append_of_le_length his.le]
    · rw [List.getElem?_append_right (by omega)]
      rw [List.length_append] at hk
      by_cases hc : c = '\t'
      · rw [cell, if_pos hc] at hk ⊢
        rw [List.length_replicate] at hk
        exact List.getElem?_replicate_of_lt (by omega)
      · -- the one position of the cell is the column of the character
        rw [cell, if_neg hc, List.length_singleton] at hk
        refine absurd ⟨s.length, c, by simp, hc, ?_⟩ hfree
        rw [columnOf, List.take_left, ← h.length_eq]
        omega

theorem unique {t' : List Char} (h : Expands s t) (h' : Expands s t') : t' = t := by
  have hlength : t'.length = t.length := h'.length_eq.trans h.length_eq.symm
  refine List.ext_getElem? fun k => ?_
  by_cases hk : k < t.length
  · by_cases hoccupied : Occupied s k
    · obtain ⟨i, c, hi, hc, rfl⟩ := hoccupied
      rw [h.getElem?_columnOf i c hi hc, h'.getElem?_columnOf i c hi hc]
    · rw [h.getElem?_of_not_occupied k hk hoccupied,
        h'.getElem?_of_not_occupied k (by omega) hoccupied]
  · rw [List.getElem?_eq_none (by omega), List.getElem?_eq_none (by omega)]

end Expands

theorem expands_expandTabs (s : List Char) : Expands s (expandTabs s) := by
  rw [expandTabs_eq]
  induction s using List.reverseRecOn with
  | nil => exact .nil
  | append_singleton s c ih =>
    rw [expandFrom_append_singleton]
    exact ih.append c

/-- **Expanding tabs keeps the columns.**  With tab stops every eight characters, the result has no
tab, holds every other character of the line in its column, and spaces everywhere else; no other
text does.  The columns ascend, so the characters keep their order.  A line without tabs stays as it
is, whether it is returned at once or expanded character by character. -/
theorem expandTabs_keeps_columns (s : List Char) :
    Expands s (expandTabs s) ∧ (∀ t, Expands s t → t = expandTabs s) ∧
      (∀ column, IsLeast {stop | column < stop ∧ 8 ∣ stop} (advance column '\t')) ∧
      (∀ c column, c ≠ '\t' → advance column c = column + 1) ∧
      (∀ i j, i < j → j < s.length → columnOf s i < columnOf s j) ∧
      ('\t' ∉ s → expandTabs s = s ∧ expandFrom 0 s = s) := by
  refine ⟨expands_expandTabs s, fun t ht => (expands_expandTabs s).unique ht, isLeast_advance_tab,
    fun c column hc => advance_of_ne hc column, fun i j hij hj => columnOf_lt hij hj.le,
    fun h => ⟨?_, expandFrom_eq_self h 0⟩⟩
  rw [expandTabs_eq, expandFrom_eq_self h]

/-- Columns count characters, whatever their size in bytes. -/
example : expandTabs "é\tb\t\t日本\tc".toList =
    "é       b               日本      c".toList := by
  decide

end AsmExplorer.Text
