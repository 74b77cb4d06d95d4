import AsmExplorer.Proofs.Listing.Attribution

/-!
# Which lines of a GNU listing are shown

Whether a line is shown is settled by what the line is, and, where library code is hidden, by the
block that it stands in.  The blocks are cut at the labels that are not local, among the lines that
the filters look at.  Two of these lines stand in the same block exactly if none after the first of
them, up to the second, starts a block (`Gas.Cut.mem_iff`).

* `Gas.Shows` : the lines shown are those at some positions.
* `Gas.ShownAt` : what it takes for the line at a position to be shown.
* `Gas.exists_shows` : **the lines shown are those at the positions for which that holds.**
-/

namespace AsmExplorer

namespace Gas

variable {filters : FilterOptions} {lines : List (List Char)} {s : Survey} {es : List Entry}
  {i : Nat}

/-! ### Blocks of numbered entries -/

/-- An entry with its number in the listing. -/
abbrev Numbered := Entry × Nat

variable {T : List Numbered} {first : List Numbered} {more : List (List Numbered)} {x y : Numbered}

/-- Numbered entries cut into blocks: every block but the first begins with an entry that starts
one, and no other entry starts one. -/
structure Cut (T : List Numbered) (first : List Numbered) (more : List (List Numbered)) : Prop where
  blocks_eq : blocks (T.map Prod.fst) = (first :: more).map (List.map Prod.fst)
  flatten_eq : (first :: more).flatten = T
  quiet : ∀ x ∈ first, x.1.startsBlock = false
  begun : ∀ block ∈ more, ∃ x rest, block = x :: rest ∧ x.1.startsBlock = true ∧
    ∀ y ∈ rest, y.1.startsBlock = false

theorem exists_cut (T : List Numbered) : ∃ first more, Cut T first more := by
  induction T with
  | nil => exact ⟨[], [], rfl, rfl, by simp, by simp⟩
  | cons x T ih =>
    obtain ⟨first, more, hcut⟩ := ih
    have hflatten : first ++ more.flatten = T := hcut.flatten_eq
    cases hstarts : x.1.startsBlock with
    | true =>
      refine ⟨[], (x :: first) :: more, ?_, ?_, by simp, ?_⟩
      · rw [List.map_cons, blocks, hcut.blocks_eq]
        simp [hstarts]
      · simp [hflatten]
      · intro block hblock
        obtain rfl | hblock := List.mem_cons.1 hblock
        · exact ⟨x, first, rfl, hstarts, hcut.quiet⟩
        · exact hcut.begun block hblock
    | false =>
      refine ⟨x :: first, more, ?_, ?_, ?_, hcut.begun⟩
      · rw [List.map_cons, blocks, hcut.blocks_eq]
        simp [hstarts]
      · simp [hflatten]
      · intro y hy
        obtain rfl | hy := List.mem_cons.1 hy
        · exact hstarts
        · exact hcut.quiet y hy

/-- No entry after number `i`, up to number `j`, starts a block. -/
def Unbroken (T : List Numbered) (i j : Nat) : Prop :=
  ∀ x ∈ T, x.1.startsBlock = true → ¬ (i < x.2 ∧ x.2 ≤ j)

/-- Numbers ascend. -/
def Ascending (T : List Numbered) : Prop :=
  T.Pairwise fun x y => x.2 < y.2

namespace Cut

theorem ascending_iff (hcut : Cut T first more) : Ascending T ↔
    (∀ block ∈ first :: more, Ascending block) ∧
      (first :: more).Pairwise fun b c => ∀ x ∈ b, ∀ y ∈ c, x.2 < y.2 := by
  rw [← hcut.flatten_eq, Ascending, List.pairwise_flatten]
  rfl

theorem lt_of_lt (hcut : Cut T first more) (hT : Ascending T) {a b : Nat}
    {block other : List Numbered} (ha : (first :: more)[a]? = some block)
    (hb : (first :: more)[b]? = some other) (hlt : a < b) (hx : x ∈ block) (hy : y ∈ other) :
    x.2 < y.2 := by
  obtain ⟨ha', rfl⟩ := List.getElem?_eq_some_iff.1 ha
  obtain ⟨hb', rfl⟩ := List.getElem?_eq_some_iff.1 hb
  exact List.pairwise_iff_getElem.1 (hcut.ascending_iff.1 hT).2 a b ha' hb' hlt x hx y hy

theorem le_of_startsBlock (hcut : Cut T first more) (hT : Ascending T) {block : List Numbered}
    (hblock : block ∈ first :: more) (hx : x ∈ block) (hstarts : x.1.startsBlock = true)
    (hy : y ∈ block) : x.2 ≤ y.2 := by
  have hascending := (hcut.ascending_iff.1 hT).1 block hblock
  obtain rfl | hmore := List.mem_cons.1 hblock
  · rw [hcut.quiet x hx] at hstarts
    cases hstarts
  · obtain ⟨z, rest, rfl, -, hrest⟩ := hcut.begun block hmore
    obtain rfl | hx := List.mem_cons.1 hx
    · obtain rfl | hy := List.mem_cons.1 hy
      · exact Nat.le_refl _
      · exact Nat.le_of_lt ((List.pairwise_cons.1 hascending).1 y hy)
    · rw [hrest x hx] at hstarts
      cases hstarts

/-- Between blocks an entry starts one. -/
theorem not_unbroken (hcut : Cut T first more) (hT : Ascending T) {a b : Nat}
    {block other : List Numbered} (ha : (first :: more)[a]? = some block)
    (hb : (first :: more)[b]? = some other) (hlt : a < b) (hx : x ∈ block) (hy : y ∈ other) :
    ¬ Unbroken T x.2 y.2 := by
  have hmem : other ∈ first :: more := List.mem_of_getElem? hb
  have hmore : other ∈ more := by
    cases b with
    | zero => omega
    | succ b => exact List.mem_of_getElem? (by simpa using hb)
  obtain ⟨z, rest, rfl, hstarts, -⟩ := hcut.begun other hmore
  have hz : z ∈ z :: rest := List.mem_cons_self
  have hzT : z ∈ T := by
    rw [← hcut.flatten_eq]
    exact List.mem_flatten.2 ⟨_, hmem, hz⟩
  intro hunbroken
  exact hunbroken z hzT hstarts
    ⟨hcut.lt_of_lt hT ha hb hlt hx hz, hcut.le_of_startsBlock hT hmem hz hstarts hy⟩

/-- Within a block no entry but the first starts one. -/
theorem unbroken (hcut : Cut T first more) (hT : Ascending T) {a : Nat} {block : List Numbered}
    (ha : (first :: more)[a]? = some block) (hx : x ∈ block) (hy : y ∈ block) :
    Unbroken T x.2 y.2 := by
  rintro z hz hstarts ⟨hlt, hle⟩
  rw [← hcut.flatten_eq] at hz
  obtain ⟨other, hother, hzmem⟩ := List.mem_flatten.1 hz
  obtain ⟨c, hc⟩ := List.mem_iff_getElem?.1 hother
  obtain hca | rfl | hac := Nat.lt_trichotomy c a
  · have := hcut.lt_of_lt hT hc ha hca hzmem hx
    omega
  · obtain rfl : other = block := Option.some.inj (hc.symm.trans ha)
    have := hcut.le_of_startsBlock hT hother hzmem hstarts hx
    omega
  · have := hcut.lt_of_lt hT ha hc hac hy hzmem
    omega

/-- Numbered entries stand in the same block if no entry between them starts one. -/
theorem mem_iff (hcut : Cut T first more) (hT : Ascending T) {block : List Numbered}
    (hblock : block ∈ first :: more) (hx : x ∈ block) :
    y ∈ block ↔ y ∈ T ∧ Unbroken T x.2 y.2 ∧ Unbroken T y.2 x.2 := by
  obtain ⟨a, ha⟩ := List.mem_iff_getElem?.1 hblock
  constructor
  · intro hy
    refine ⟨?_, hcut.unbroken hT ha hx hy, hcut.unbroken hT ha hy hx⟩
    rw [← hcut.flatten_eq]
    exact List.mem_flatten.2 ⟨block, hblock, hy⟩
  · rintro ⟨hy, hxy, hyx⟩
    rw [← hcut.flatten_eq] at hy
    obtain ⟨other, hother, hy⟩ := List.mem_flatten.1 hy
    obtain ⟨b, hb⟩ := List.mem_iff_getElem?.1 hother
    obtain hab | rfl | hba := Nat.lt_trichotomy a b
    · exact absurd hxy (hcut.not_unbroken hT ha hb hab hx hy)
    · rwa [Option.some.inj (ha.symm.trans hb)]
    · exact absurd hyx (hcut.not_unbroken hT hb ha hba hy hx)

end Cut

/-! ### Positions shown -/

/-- The entries that the filters look at, with their positions. -/
def scope (filters : FilterOptions) (es : List Entry) : List Numbered :=
  es.zipIdx.filter fun x => x.1.inScope filters

theorem mem_scope_iff :
    x ∈ scope filters es ↔ es[x.2]? = some x.1 ∧ x.1.inScope filters = true := by
  rw [scope, List.mem_filter, List.mem_zipIdx_iff_getElem?]

theorem map_fst_scope (filters : FilterOptions) (es : List Entry) :
    (scope filters es).map Prod.fst = es.filter (Entry.inScope filters) := by
  conv => rhs; rw [← List.zipIdx_map_fst 0 es, List.filter_map]
  rfl

theorem ascending_scope (filters : FilterOptions) (es : List Entry) :
    Ascending (scope filters es) := by
  have hrange : (es.zipIdx.map Prod.snd).Pairwise (· < ·) := by
    rw [List.zipIdx_map_snd]
    exact List.pairwise_lt_range'
  exact (List.pairwise_map.1 hrange).sublist List.filter_sublist

/-- Two positions are in the same block. -/
def SameBlock (filters : FilterOptions) (es : List Entry) (i j : Nat) : Prop :=
  Unbroken (scope filters es) i j ∧ Unbroken (scope filters es) j i

/-- The block at a position is library code: it has instructions, and none of the main file. -/
structure InLibrary (filters : FilterOptions) (s : Survey) (es : List Entry) (i : Nat) : Prop where
  instruction : ∃ x ∈ scope filters es, SameBlock filters es i x.2 ∧ x.1.kind = .instruction
  not_main : ∀ x ∈ scope filters es, SameBlock filters es i x.2 → x.1.isMainCode s = false

/-- The entry at a position is shown: the filters look at it and keep its kind, and it is no library
code that they hide. -/
structure ShownAt (filters : FilterOptions) (s : Survey) (es : List Entry) (i : Nat) : Prop where
  kept : ∃ e, es[i]? = some e ∧ e.inScope filters = true ∧
    Entry.keepsKind filters s.used e.kind = true
  not_library : filters.libraryCode = true → ¬ InLibrary filters s es i

/-- Where no library code is hidden, an entry is shown if the filters look at it and keep its
kind. -/
theorem shownAt_iff (hlibrary : filters.libraryCode = false) {e : Entry} (hat : es[i]? = some e) :
    ShownAt filters s es i ↔
      e.inScope filters = true ∧ Entry.keepsKind filters s.used e.kind = true := by
  constructor
  · rintro ⟨⟨other, hother, hscope, hkept⟩, -⟩
    obtain rfl := Option.some.inj (hat.symm.trans hother)
    exact ⟨hscope, hkept⟩
  · rintro ⟨hscope, hkept⟩
    refine ⟨⟨e, hat, hscope, hkept⟩, fun h => ?_⟩
    rw [hlibrary] at h
    cases h

/-- A block is library code exactly if the position of any of its entries is in library code. -/
theorem Cut.isLibrary_iff (hcut : Cut (scope filters es) first more) {block : List Numbered}
    (hblock : block ∈ first :: more) (hx : x ∈ block) :
    isLibrary s (block.map Prod.fst) = true ↔ InLibrary filters s es x.2 := by
  have hmem : ∀ y, y ∈ block ↔ y ∈ scope filters es ∧ SameBlock filters es x.2 y.2 :=
    fun _ => hcut.mem_iff (ascending_scope filters es) hblock hx
  have hlibrary : isLibrary s (block.map Prod.fst) = true ↔
      (∃ y ∈ block, y.1.kind = .instruction) ∧ ∀ y ∈ block, y.1.isMainCode s = false := by
    simp [isLibrary]
  rw [hlibrary]
  simp only [hmem, and_imp]
  constructor
  · rintro ⟨⟨y, ⟨hy, hsame⟩, hkind⟩, hmain⟩
    exact ⟨⟨y, hy, hsame, hkind⟩, hmain⟩
  · rintro ⟨⟨y, hy, hsame, hkind⟩, hmain⟩
    exact ⟨⟨y, ⟨hy, hsame⟩, hkind⟩, hmain⟩

/-- The entries left when library code is hidden, if it is. -/
theorem exists_kept (filters : FilterOptions) (s : Survey) (es : List Entry) :
    ∃ kept : List Numbered, kept.Sublist (scope filters es) ∧
      visible filters s es =
        (kept.map Prod.fst).filter (fun e => Entry.keepsKind filters s.used e.kind) ∧
      ∀ x ∈ scope filters es,
        x ∈ kept ↔ filters.libraryCode = true → ¬ InLibrary filters s es x.2 := by
  cases hlibrary : filters.libraryCode with
  | false =>
    refine ⟨scope filters es, List.Sublist.refl _, ?_, fun x hx => by simp [hx]⟩
    simp [visible, hlibrary, map_fst_scope]
  | true =>
    obtain ⟨first, more, hcut⟩ := exists_cut (scope filters es)
    refine ⟨((first :: more).filter fun b => !isLibrary s (b.map Prod.fst)).flatten, ?_, ?_, ?_⟩
    · conv => rhs; rw [← hcut.flatten_eq]
      exact List.filter_sublist.flatten
    · rw [visible, if_pos hlibrary, ← map_fst_scope, hcut.blocks_eq, List.filter_map,
        ← List.map_flatten]
      rfl
    · -- Blocks stay or go as a whole, so an entry is left if a block that it stands in is left.
      intro x hx
      rw [← hcut.flatten_eq] at hx
      obtain ⟨block, hmem, hx⟩ := List.mem_flatten.1 hx
      simp only [List.mem_flatten, List.mem_filter, Bool.not_eq_true', forall_const]
      constructor
      · rintro ⟨other, ⟨hother, hnot⟩, hxo⟩ hlib
        rw [(hcut.isLibrary_iff hother hxo).2 hlib] at hnot
        cases hnot
      · intro hnot
        refine ⟨block, ⟨hmem, ?_⟩, hx⟩
        rwa [← Bool.not_eq_true, hcut.isLibrary_iff hmem hx]

/-- The entries shown are those at the positions for which `ShownAt` holds. -/
theorem exists_shownAt (filters : FilterOptions) (s : Survey) (es : List Entry) :
    ∃ kept : List Nat, kept.Pairwise (· < ·) ∧
      List.Forall₂ (fun i e => es[i]? = some e) kept (visible filters s es) ∧
      ∀ i, i ∈ kept ↔ ShownAt filters s es i := by
  obtain ⟨kept, hsublist, hvisible, hkept⟩ := exists_kept filters s es
  have hmem : ∀ x ∈ kept, x ∈ scope filters es := fun x hx => hsublist.subset hx
  refine ⟨(kept.filter fun x => Entry.keepsKind filters s.used x.1.kind).map Prod.snd, ?_, ?_, ?_⟩
  · exact List.pairwise_map.2
      ((ascending_scope filters es).sublist (List.filter_sublist.trans hsublist))
  · rw [hvisible, List.filter_map, List.forall₂_map_left_iff, List.forall₂_map_right_iff]
    exact List.forall₂_same.2 fun x hx => (mem_scope_iff.1 (hmem x (List.mem_of_mem_filter hx))).1
  · intro i
    rw [List.mem_map]
    constructor
    · rintro ⟨x, hx, rfl⟩
      obtain ⟨hx, hkind⟩ := List.mem_filter.1 hx
      obtain ⟨hat, hscope⟩ := mem_scope_iff.1 (hmem x hx)
      exact ⟨⟨x.1, hat, hscope, hkind⟩, (hkept x (hmem x hx)).1 hx⟩
    · rintro ⟨⟨e, hat, hscope, hkind⟩, hlibrary⟩
      have hx : (e, i) ∈ scope filters es := mem_scope_iff.2 ⟨hat, hscope⟩
      exact ⟨(e, i), List.mem_filter.2 ⟨(hkept (e, i) hx).2 hlibrary, hkind⟩, rfl⟩

/-- There is an entry for each line. -/
theorem exists_entry {line : List Char} (h : lines[i]? = some line) :
    ∃ e, (entries (survey lines) lines)[i]? = some e ∧ e.line = line ∧ e.kind = classify line := by
  have hlines := h
  rw [← map_line_entriesFrom (s := survey lines) none false lines, List.getElem?_map] at hlines
  obtain ⟨e, hat, hline⟩ := Option.map_eq_some_iff.1 hlines
  exact ⟨e, hat, hline, hline ▸ (of_getElem?_entriesFrom hat).2.1⟩

theorem ShownAt.exists_line (h : ShownAt filters (survey lines) (entries (survey lines) lines) i) :
    ∃ line, lines[i]? = some line := by
  obtain ⟨e, hat, -⟩ := h.kept
  exact ⟨e.line, (of_getElem?_entriesFrom hat).1⟩

/-- The lines shown for a text are those at the given positions, in order. -/
structure Shows (filters : FilterOptions) (text : List Char) (kept : List Nat) : Prop where
  ascending : kept.Pairwise (· < ·)
  comesFrom : List.Forall₂ (ComesFrom filters (Text.lines text)) kept (parse text filters)

/-- **Which lines are shown.**  The lines shown for a text are those at the positions for which
`ShownAt` holds. -/
theorem exists_shows (filters : FilterOptions) (text : List Char) :
    ∃ kept, Shows filters text kept ∧ ∀ i, i ∈ kept ↔
      ShownAt filters (survey (Text.lines text))
        (entries (survey (Text.lines text)) (Text.lines text)) i := by
  obtain ⟨kept, hascending, hentries, hmem⟩ := exists_shownAt filters
    (survey (Text.lines text)) (entries (survey (Text.lines text)) (Text.lines text))
  refine ⟨kept, ⟨hascending, ?_⟩, hmem⟩
  exact List.forall₂_map_right_iff.2 (hentries.imp fun _ _ => comesFrom_shown filters)

end Gas

end AsmExplorer
