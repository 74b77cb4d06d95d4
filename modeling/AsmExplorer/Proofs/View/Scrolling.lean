import AsmExplorer.Proofs.View.Navigation
import Mathlib.Order.Bounds.Basic

/-!
# Where a selection in a source scrolls to

A line selected in a source highlights the listing lines that came from it, and after them those
that came from the cursor lines of the other visible sources.  The listing is scrolled to the first
of all these (`Synced.Attends.scroll_to_first`).

So the listing follows the selection if some listing line came from the selected line.  If none did,
it goes to where the cursor of another source leads (`Scene.scroll_leaves_selection`).
-/

namespace AsmExplorer

/-- The listing lines, of the first `limit`, that came from a line of a document. -/
def CompiledUnit.linesFrom (u : CompiledUnit) (limit : Nat) (document : Uri) (line : Nat) :
    Set Nat :=
  {k | k < limit ∧ ∃ target, u.definitionAt? k = some target ∧ target.file = document ∧
    target.line = line}

theorem CompiledUnit.mem_linesFrom_iff {u : CompiledUnit} {limit line k : Nat} {document : Uri} :
    k ∈ u.linesFrom limit document line ↔ k < limit ∧
      ∃ target, u.definitionAt? k = some target ∧ target.file = document ∧ target.line = line :=
  Iff.rfl

theorem head?_eq_some_iff_isLeast {l : List Nat} (h : l.Pairwise (· < ·)) {k : Nat} :
    l.head? = some k ↔ IsLeast {j | j ∈ l} k := by
  cases l with
  | nil => simp [IsLeast]
  | cons first rest =>
    have hleast : IsLeast {j | j ∈ first :: rest} first := by
      refine ⟨List.mem_cons_self, fun j hj => ?_⟩
      obtain rfl | hj := List.mem_cons.1 hj
      · exact le_rfl
      · exact (List.rel_of_pairwise_cons h hj).le
    rw [List.head?_cons, Option.some.injEq]
    exact ⟨fun heq => heq ▸ hleast, hleast.unique⟩

namespace Synced

variable {s : Synced} {v : VisibleSet} {unit : CompiledUnit} {limit line k : Nat} {document : Uri}

theorem mem_mappedLines_iff :
    k ∈ mappedLines unit limit document line ↔ k ∈ unit.linesFrom limit document line := by
  have hindex : k ∈ (unit.index.assemblyLines? document line).getD [] ↔
      ∃ ks, unit.index.assemblyLines? document line = some ks ∧ k ∈ ks := by
    cases unit.index.assemblyLines? document line <;> simp
  rw [mappedLines, List.mem_filter, hindex, unit.index_eq, LineIndex.mem_assemblyLines?_build]
  rw [CompiledUnit.mem_linesFrom_iff, CompiledUnit.definitionAt?, unit.index_eq, decide_eq_true_eq]
  exact and_comm

theorem pairwise_mappedLines : (mappedLines unit limit document line).Pairwise (· < ·) := by
  refine List.Pairwise.filter _ ?_
  rw [unit.index_eq, LineIndex.assemblyLines?_build]
  split
  · exact List.Pairwise.nil
  · exact LineIndex.pairwise_positions _ _ _

theorem head?_mappedLines_eq_some_iff : (mappedLines unit limit document line).head? = some k ↔
    IsLeast (unit.linesFrom limit document line) k := by
  have hset : {j | j ∈ mappedLines unit limit document line} = unit.linesFrom limit document line :=
    Set.ext fun _ => mem_mappedLines_iff
  rw [head?_eq_some_iff_isLeast pairwise_mappedLines, hset]

theorem head?_mappedLines_eq_none_iff : (mappedLines unit limit document line).head? = none ↔
    unit.linesFrom limit document line = ∅ := by
  rw [List.head?_eq_none_iff, List.eq_nil_iff_forall_not_mem, Set.eq_empty_iff_forall_notMem]
  simp only [mem_mappedLines_iff]

end Synced

/-- Where the listing is scrolled to on account of a selected line of a source. -/
inductive VisibleSet.ScrollsTo (v : VisibleSet) (unit : CompiledUnit) (limit : Nat)
    (document : Uri) (line : Nat) : Option Nat → Prop
  /-- To the first listing line that came from the selected line. -/
  | selected {k : Nat} (hfirst : IsLeast (unit.linesFrom limit document line) k) :
      ScrollsTo v unit limit document line (some k)
  /-- None did, and it is the first one that came from the cursor line of another source, the first
  whose cursor line has one. -/
  | cursor {k : Nat} {e : Editor} {before after : List Editor}
      (hnone : unit.linesFrom limit document line = ∅)
      (hothers : v.sources.filter (·.document != document) = before ++ e :: after)
      (hbefore : ∀ e ∈ before, unit.linesFrom limit e.document e.cursor = ∅)
      (hfirst : IsLeast (unit.linesFrom limit e.document e.cursor) k) :
      ScrollsTo v unit limit document line (some k)
  /-- No listing line came from the selected line or the cursor line of another source. -/
  | nowhere (hnone : unit.linesFrom limit document line = ∅)
      (hothers : ∀ e ∈ v.sources, e.document ≠ document →
        unit.linesFrom limit e.document e.cursor = ∅) :
      ScrollsTo v unit limit document line none

namespace Synced

variable {s : Synced} {v : VisibleSet} {unit : CompiledUnit} {limit line : Nat} {e : Editor}
  {change : SelectionChange}

theorem head?_highlightedLines : (highlightedLines unit v limit e line).head? =
    (mappedLines unit limit e.document line).head?.or
      ((v.sources.filter (·.document != e.document)).findSome? fun other =>
        (mappedLines unit limit other.document other.cursor).head?) := by
  have herase : ∀ l : List Nat, l.eraseDups.head? = l.head? := by
    intro l
    cases l with
    | nil => rfl
    | cons first rest => rw [List.eraseDups_cons, List.head?_cons, List.head?_cons]
  rw [highlightedLines, herase, List.head?_append, List.head?_flatMap]

theorem scrollsTo_head?_highlightedLines :
    v.ScrollsTo unit limit e.document line (highlightedLines unit v limit e line).head? := by
  rw [head?_highlightedLines]
  cases hown : (mappedLines unit limit e.document line).head? with
  | some k => exact .selected (head?_mappedLines_eq_some_iff.1 hown)
  | none =>
    have hnone := head?_mappedLines_eq_none_iff.1 hown
    rw [Option.none_or]
    cases hothers : (v.sources.filter (·.document != e.document)).findSome? fun other =>
        (mappedLines unit limit other.document other.cursor).head? with
    | some k =>
      obtain ⟨before, other, after, hsplit, hk, hbefore⟩ := List.findSome?_eq_some_iff.1 hothers
      exact .cursor hnone hsplit (fun e he => head?_mappedLines_eq_none_iff.1 (hbefore e he))
        (head?_mappedLines_eq_some_iff.1 hk)
    | none =>
      refine .nowhere hnone fun other hother hne => ?_
      have hmem : other ∈ v.sources.filter (·.document != e.document) :=
        List.mem_filter.2 ⟨hother, by simpa using hne⟩
      exact head?_mappedLines_eq_none_iff.1 (List.findSome?_eq_none_iff.1 hothers other hmem)

end Synced

/-- The listing follows the selection exactly if some listing line came from the selected line, or
none from the cursor line of another source. -/
theorem VisibleSet.ScrollsTo.follows_iff {v : VisibleSet} {unit : CompiledUnit} {limit line : Nat}
    {document : Uri} {reached : Option Nat} (h : v.ScrollsTo unit limit document line reached) :
    (∀ k ∈ reached, IsLeast (unit.linesFrom limit document line) k) ↔
      (unit.linesFrom limit document line).Nonempty ∨
        ∀ e ∈ v.sources, e.document ≠ document →
          unit.linesFrom limit e.document e.cursor = ∅ := by
  cases h with
  | selected hfirst =>
    refine ⟨fun _ => .inl ⟨_, hfirst.1⟩, ?_⟩
    rintro - k ⟨⟩
    exact hfirst
  | @cursor k e before after hnone hothers _ hfirst =>
    have hmem : e ∈ v.sources.filter (·.document != document) := by
      rw [hothers]
      simp
    obtain ⟨hsource, hdocument⟩ := List.mem_filter.1 hmem
    constructor
    · intro hleast
      have hk := (hleast k rfl).1
      rw [hnone] at hk
      cases hk
    · rintro (hsome | hempty)
      · rw [hnone] at hsome
        cases hsome.ne_empty rfl
      · have hk := hfirst.1
        rw [hempty e hsource (by simpa using hdocument)] at hk
        cases hk
  | nowhere _ hothers => exact ⟨fun _ => .inr hothers, fun _ _ hk => nomatch hk⟩

namespace Synced

variable {s : Synced} {unit : CompiledUnit} {change : SelectionChange}

theorem navigation_revealAll {reveals : List (Editor × Nat)} :
    (s.revealAll reveals).host.navigation =
      (reveals.map fun r => HostCall.reveal r.1.id r.2 .centerIfOutside).reverse ++
        s.host.navigation := by
  induction reveals generalizing s with
  | nil => rfl
  | cons r reveals ih =>
    change ((s.reveal r.1 r.2).revealAll reveals).host.navigation = _
    rw [ih, List.map_cons, List.reverse_cons, List.append_assoc]
    rfl

/-- **A line selected in a source scrolls the listing to the first line that it highlights**, and
nothing else is scrolled or opened.  That line came from the selected line, and is the first that
did, exactly if some listing line that the editor has came from the selected line, or none came from
the cursor line of a visible editor of another source. -/
theorem Attends.scroll_to_first (h : s.Attends change unit)
    (hsource : unit.references change.editor.document = true) :
    let t := s.onSelectionChanged change
    (s.visible.assembly = none → t.host.navigation = s.host.navigation) ∧
      ∀ a, s.visible.assembly = some a →
        let own := unit.linesFrom a.lineCount change.editor.document change.line
        ∃ reached, s.visible.ScrollsTo unit a.lineCount change.editor.document change.line reached ∧
          t.host.navigation =
            reached.toList.map (.reveal a.id · .centerIfOutside) ++ s.host.navigation ∧
          ((∀ k ∈ reached, IsLeast own k) ↔ own.Nonempty ∨
            ∀ e ∈ s.visible.sources, e.document ≠ change.editor.document →
              unit.linesFrom a.lineCount e.document e.cursor = ∅) := by
  intro t
  have ht : t.host.navigation =
      ((sourceReveals unit s.visible change.editor change.line).map
        fun r => HostCall.reveal r.1.id r.2 .centerIfOutside).reverse ++ s.host.navigation := by
    simp only [t, h.onSelectionChanged_source hsource, selectSource_eq, if_true,
      navigation_revealAll, navigation_putAll]
  constructor
  · intro ha
    rw [ht, sourceReveals, ha]
    rfl
  · intro a ha own
    have hscrolls :
        s.visible.ScrollsTo unit a.lineCount change.editor.document change.line
          (highlightedLines unit s.visible a.lineCount change.editor change.line).head? :=
      scrollsTo_head?_highlightedLines
    refine ⟨_, hscrolls, ?_, hscrolls.follows_iff⟩
    rw [ht, sourceReveals, ha]
    dsimp only
    cases (highlightedLines unit s.visible a.lineCount change.editor change.line).head? <;> rfl

end Synced

namespace Scene

/-- The view of `file:///a.c` with its listing, while all editors are visible. -/
def compiledView : Synced :=
  ((initial exampleDocs {} allShown).afterAll compiledRun).view

theorem attends_compiledView (line : Nat) :
    compiledView.Attends ⟨sourceEditor, line, some .mouse⟩ exampleUnit :=
  ⟨rfl, attends_sourceChange.active, attends_sourceChange.compiled⟩

/-- A line of the source scrolls the listing to the line that came from it. -/
theorem source_line_reached :
    ∃ k, (compiledView.onSelectionChanged ⟨sourceEditor, 1, some .mouse⟩).host.navigation =
        [.reveal "listing" k .centerIfOutside] ∧
      IsLeast (exampleUnit.linesFrom 2 exampleSource 1) k := by
  have hfrom : 0 ∈ exampleUnit.linesFrom 2 exampleSource 1 := ⟨by decide, _, rfl, rfl, rfl⟩
  have hassembly : compiledView.visible.assembly = some listingEditor := by decide +kernel
  have hbefore : compiledView.host.navigation = [] := by decide +kernel
  obtain ⟨-, hscrolls⟩ := (attends_compiledView 1).scroll_to_first (by decide +kernel)
  obtain ⟨reached, hreached, hnavigation, hfollows⟩ := hscrolls listingEditor hassembly
  have hleast := hfollows.2 (.inl ⟨0, hfrom⟩)
  cases reached with
  | none =>
    cases hreached with
    | nowhere hnone _ => exact absurd hnone (Set.nonempty_of_mem hfrom).ne_empty
  | some k => exact ⟨k, by rw [hnavigation, hbefore]; rfl, hleast k rfl⟩

/-- **A listing that does not follow the selection.**  No line of the listing came from the selected
line of the source, and yet the listing is scrolled to its second line, which came from the line of
the header where the cursor is. -/
theorem scroll_leaves_selection :
    let change : SelectionChange := ⟨sourceEditor, 2, some .mouse⟩
    compiledView.Attends change exampleUnit ∧
      exampleUnit.references exampleSource = true ∧
      compiledView.visible.assembly = some listingEditor ∧
      (compiledView.onSelectionChanged change).host.navigation =
        [.reveal "listing" 1 .centerIfOutside] ∧
      exampleUnit.linesFrom listingEditor.lineCount exampleSource 2 = ∅ ∧
      exampleUnit.definitionAt? 1 = some ⟨exampleHeader, headerEditor.cursor, none⟩ := by
  refine ⟨attends_compiledView 2, by decide +kernel, by decide +kernel, by decide +kernel, ?_, rfl⟩
  refine Set.eq_empty_iff_forall_notMem.2 ?_
  rintro k ⟨-, target, htarget, hfile, hline⟩
  obtain _ | _ | k := k
  · obtain rfl := Option.some.inj htarget
    cases hline
  · obtain rfl := Option.some.inj htarget
    cases hfile
  · cases htarget

end Scene

end AsmExplorer
