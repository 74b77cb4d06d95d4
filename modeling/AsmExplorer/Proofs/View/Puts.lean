import AsmExplorer.View.Synchronizer

/-!
# What a view puts on its editors

Every reaction of a view puts decorations in place one after the other, and scrolls to some lines
afterwards.  Which decorations these are depends only on the visible editors, the settings, the unit
and the last selection, and not on what is in place already.  Here each part of a reaction is
written as the list of what it puts: `VisibleSet.blanks` when everything is removed,
`VisibleSet.decorations` when everything is put in place, and `VisibleSet.sourcePuts` and
`VisibleSet.assemblyPuts` for a selection.

`Synced.putAll` puts such a list in place; `Synced.clear_eq`, `Synced.decorate_eq` and their likes
say that the parts of the reactions do just that.
-/

namespace AsmExplorer

/-- The lines of one kind on an editor. -/
structure Put where
  /-- The editor. -/
  editor : Editor
  /-- The kind of decoration. -/
  kind : DecorationKind
  /-- The lines. -/
  lines : List Nat
deriving DecidableEq

namespace VisibleSet

/-! ### Decorations -/

/-- No decorations on any editor. -/
def blanks (v : VisibleSet) : List Put :=
  v.editors.flatMap fun e => DecorationKind.all.map fun kind => ⟨e, kind, []⟩

/-- The sign that a compile is under way. -/
def loadingPuts (v : VisibleSet) : List Put :=
  v.assembly.toList.map fun e => ⟨e, .loading, [0]⟩

/-- The unused lines of the sources, if they are dimmed. -/
def dimPuts (v : VisibleSet) (settings : SyncSettings) (unit : CompiledUnit) : List Put :=
  if settings.dimUnusedSourceLines then
    v.sources.map fun e => ⟨e, .unused, unit.index.unusedLines e.document e.lineCount⟩
  else []

/-! ### Selections -/

/-- A selected line of a source, and the listing lines that correspond. -/
def sourcePuts (v : VisibleSet) (unit : CompiledUnit) (e : Editor) (line : Nat) : List Put :=
  match v.assembly with
  | none => []
  | some assembly =>
    [⟨e, .selected, [line]⟩,
      ⟨assembly, .selected, Synced.highlightedLines unit v assembly.lineCount e line⟩]

/-- A selected line of the listing, and no selection in the sources if it came from none. -/
def assemblyPuts (v : VisibleSet) (unit : CompiledUnit) (assembly : Editor) (line : Nat) :
    List Put :=
  ⟨assembly, .selected, [line]⟩ ::
    match unit.definitionAt? line with
    | some _ => []
    | none => v.sources.map fun e => ⟨e, .selected, []⟩

/-- The source line that a selected line of the listing came from, if the editor has it. -/
def targetPuts (e : Editor) (target : SourceLine) : List Put :=
  if target.line ≥ e.lineCount then [] else [⟨e, .selected, [target.line]⟩]

/-- The cursor line of the first source. -/
def cursorPuts (v : VisibleSet) (unit : CompiledUnit) : List Put :=
  match v.sources.head? with
  | some first => v.sourcePuts unit first first.cursor
  | none => []

/-- The last selection, shown again. -/
def replayPuts (v : VisibleSet) (unit : CompiledUnit) : Option Selection → List Put
  | some (.source document line) =>
    match v.sourceFor? document with
    | some e => v.sourcePuts unit e line
    | none => v.cursorPuts unit
  | some (.assembly line) =>
    match v.assembly with
    | some assembly =>
      v.assemblyPuts unit assembly line ++
        match unit.definitionAt? line with
        | none => []
        | some target =>
          match v.sourceFor? target.file with
          | some e => targetPuts e target
          | none => []
    | none => v.cursorPuts unit
  | none => v.cursorPuts unit

/-- All decorations of a view that becomes active. -/
def decorations (v : VisibleSet) (settings : SyncSettings) (last : Option Selection) :
    Option UnitState → List Put
  | none => v.loadingPuts
  | some (.failed _) => []
  | some (.compiled unit) =>
    v.dimPuts settings unit ++ if unit.lines.isEmpty then [] else v.replayPuts unit last

variable {v : VisibleSet} {e : Editor} {unit : CompiledUnit} {p : Put}

/-! ### The editors of the decorations -/

theorem mem_editors_of_mem_sources (h : e ∈ v.sources) : e ∈ v.editors :=
  List.mem_append_left _ h

theorem mem_editors_of_assembly (h : v.assembly = some e) : e ∈ v.editors :=
  List.mem_append_right _ (by simp [h])

theorem mem_sources_of_sourceFor? {document : Uri} (h : v.sourceFor? document = some e) :
    e ∈ v.sources ∧ e.document = document :=
  ⟨List.mem_of_find?_eq_some h, by simpa using List.find?_some h⟩

theorem mem_blanks_iff : p ∈ v.blanks ↔ p.editor ∈ v.editors ∧ p.lines = [] := by
  simp only [blanks, List.mem_flatMap, List.mem_map]
  constructor
  · rintro ⟨e, he, kind, -, rfl⟩
    exact ⟨he, rfl⟩
  · intro ⟨he, hlines⟩
    refine ⟨p.editor, he, p.kind, by cases p.kind <;> decide, ?_⟩
    cases p
    exact congrArg _ hlines.symm

theorem of_mem_sourcePuts {line : Nat} (h : p ∈ v.sourcePuts unit e line) :
    p.kind = .selected ∧ (p.editor = e ∨ p.editor ∈ v.editors) := by
  unfold sourcePuts at h
  cases ha : v.assembly with
  | none => simp [ha] at h
  | some assembly =>
    simp only [ha, List.mem_cons, List.not_mem_nil, or_false] at h
    obtain rfl | rfl := h
    · exact ⟨rfl, .inl rfl⟩
    · exact ⟨rfl, .inr (mem_editors_of_assembly ha)⟩

/-- A selection in the listing is put on its editor; what is put on sources is empty. -/
theorem of_mem_assemblyPuts {line : Nat} (h : p ∈ v.assemblyPuts unit e line) :
    p.kind = .selected ∧
      (p.editor = e ∧ p.lines = [line] ∨
        p.editor ∈ v.sources ∧ p.lines = [] ∧ unit.definitionAt? line = none) := by
  obtain rfl | h := List.mem_cons.1 h
  · exact ⟨rfl, .inl ⟨rfl, rfl⟩⟩
  · cases hd : unit.definitionAt? line with
    | some _ => simp [hd] at h
    | none =>
      simp only [hd, List.mem_map] at h
      obtain ⟨e, he, rfl⟩ := h
      exact ⟨rfl, .inr ⟨he, rfl, rfl⟩⟩

theorem mem_targetPuts_iff {target : SourceLine} : p ∈ targetPuts e target ↔
    target.line < e.lineCount ∧ p = ⟨e, .selected, [target.line]⟩ := by
  unfold targetPuts
  split
  · simp; omega
  · simp; omega

theorem of_mem_cursorPuts (h : p ∈ v.cursorPuts unit) :
    p.kind = .selected ∧ p.editor ∈ v.editors := by
  unfold cursorPuts at h
  cases hhead : v.sources.head? with
  | none => simp [hhead] at h
  | some first =>
    rw [hhead] at h
    obtain ⟨hkind, rfl | he⟩ := of_mem_sourcePuts h
    · exact ⟨hkind, mem_editors_of_mem_sources (List.mem_of_head? hhead)⟩
    · exact ⟨hkind, he⟩

theorem of_mem_replayPuts {last : Option Selection} (h : p ∈ v.replayPuts unit last) :
    p.kind = .selected ∧ p.editor ∈ v.editors := by
  unfold replayPuts at h
  cases last with
  | none => exact of_mem_cursorPuts h
  | some selection =>
    cases selection with
    | source document line =>
      dsimp only at h
      cases hfor : v.sourceFor? document with
      | none => exact of_mem_cursorPuts (by simpa [hfor] using h)
      | some e =>
        rw [hfor] at h
        obtain ⟨hkind, rfl | he⟩ := of_mem_sourcePuts h
        · exact ⟨hkind, mem_editors_of_mem_sources (mem_sources_of_sourceFor? hfor).1⟩
        · exact ⟨hkind, he⟩
    | assembly line =>
      dsimp only at h
      cases ha : v.assembly with
      | none => exact of_mem_cursorPuts (by simpa [ha] using h)
      | some assembly =>
        simp only [ha] at h
        obtain h | h := List.mem_append.1 h
        · obtain ⟨hkind, ⟨rfl, -⟩ | ⟨he, -⟩⟩ := of_mem_assemblyPuts h
          · exact ⟨hkind, mem_editors_of_assembly ha⟩
          · exact ⟨hkind, mem_editors_of_mem_sources he⟩
        · cases hd : unit.definitionAt? line with
          | none => simp [hd] at h
          | some target =>
            simp only [hd] at h
            cases hfor : v.sourceFor? target.file with
            | none => simp [hfor] at h
            | some e =>
              rw [hfor] at h
              obtain ⟨-, rfl⟩ := mem_targetPuts_iff.1 h
              exact ⟨rfl, mem_editors_of_mem_sources (mem_sources_of_sourceFor? hfor).1⟩

/-- **What a view that becomes active shows.**  Without a unit, the sign on the first line of the
listing; with a listing, the unused lines of the sources if they are dimmed, and selected lines. -/
theorem of_mem_decorations {settings : SyncSettings} {last : Option Selection}
    {state : Option UnitState} (h : p ∈ v.decorations settings last state) :
    (state = none ∧ v.assembly = some p.editor ∧ p.kind = .loading ∧ p.lines = [0]) ∨
    ∃ unit, state = some (.compiled unit) ∧
      ((settings.dimUnusedSourceLines = true ∧ p.editor ∈ v.sources ∧ p.kind = .unused ∧
          p.lines = unit.index.unusedLines p.editor.document p.editor.lineCount) ∨
        (unit.lines ≠ [] ∧ p.editor ∈ v.editors ∧ p.kind = .selected)) := by
  cases state with
  | none =>
    obtain ⟨e, he, rfl⟩ := List.mem_map.1 h
    exact .inl ⟨rfl, Option.mem_toList.1 he, rfl, rfl⟩
  | some state =>
    cases state with
    | failed _ => cases h
    | compiled unit =>
      refine .inr ⟨unit, rfl, ?_⟩
      obtain h | h := List.mem_append.1 h
      · unfold dimPuts at h
        split at h
        · obtain ⟨e, he, rfl⟩ := List.mem_map.1 h
          exact .inl ⟨‹_›, he, rfl, rfl⟩
        · cases h
      · split at h
        · cases h
        · rename_i hlines
          obtain ⟨hkind, he⟩ := of_mem_replayPuts h
          exact .inr ⟨by simpa using hlines, he, hkind⟩

theorem mem_editors_of_mem_decorations {settings : SyncSettings} {last : Option Selection}
    {state : Option UnitState} (h : p ∈ v.decorations settings last state) :
    p.editor ∈ v.editors := by
  obtain ⟨-, ha, -⟩ | ⟨_, -, ⟨-, he, -⟩ | ⟨-, he, -⟩⟩ := of_mem_decorations h
  · exact mem_editors_of_assembly ha
  · exact mem_editors_of_mem_sources he
  · exact he

end VisibleSet

namespace Synced

variable {s : Synced} {v : VisibleSet} {e : Editor} {unit : CompiledUnit}

/-- Puts decorations in place. -/
def putAll (s : Synced) (puts : List Put) : Synced :=
  puts.foldl (fun s p => s.apply p.editor p.kind p.lines) s

/-- Scrolls editors to lines. -/
def revealAll (s : Synced) (reveals : List (Editor × Nat)) : Synced :=
  reveals.foldl (fun s r => s.reveal r.1 r.2) s

@[simp] theorem putAll_nil : s.putAll [] = s := rfl

@[simp] theorem putAll_cons (p : Put) (puts : List Put) :
    s.putAll (p :: puts) = (s.apply p.editor p.kind p.lines).putAll puts := rfl

theorem putAll_append (puts more : List Put) :
    s.putAll (puts ++ more) = (s.putAll puts).putAll more :=
  List.foldl_append

@[simp] theorem revealAll_nil : s.revealAll [] = s := rfl

/-- Putting decorations for each of some things in turn. -/
theorem putAll_flatMap {α : Type} (f : α → List Put) (l : List α) (s : Synced) :
    s.putAll (l.flatMap f) = l.foldl (fun s a => s.putAll (f a)) s := by
  induction l generalizing s with
  | nil => rfl
  | cons a l ih => rw [List.flatMap_cons, putAll_append, ih, List.foldl_cons]

theorem putAll_map {α : Type} (f : α → Put) (l : List α) (s : Synced) :
    s.putAll (l.map f) = l.foldl (fun s a => s.apply (f a).editor (f a).kind (f a).lines) s :=
  List.foldl_map

/-! ### What putting leaves alone -/

/-- A view apart from its ledger, with its host apart from the calls made. -/
def rest (s : Synced) : Synced :=
  { sync := { s.sync with ledger := {} }, host := { s.host with calls := [] } }

@[simp] theorem rest_apply (kind : DecorationKind) (lines : List Nat) :
    (s.apply e kind lines).rest = s.rest := by
  unfold apply
  split <;> rfl

@[simp] theorem rest_putAll (puts : List Put) : (s.putAll puts).rest = s.rest := by
  induction puts generalizing s with
  | nil => rfl
  | cons p puts ih => rw [putAll_cons, ih, rest_apply]

@[simp] theorem rest_revealAll (reveals : List (Editor × Nat)) :
    (s.revealAll reveals).rest = s.rest := by
  induction reveals generalizing s with
  | nil => rfl
  | cons r reveals ih => exact ih

@[simp] theorem unit_putAll (puts : List Put) : (s.putAll puts).sync.unit = s.sync.unit :=
  congrArg (·.sync.unit) (rest_putAll puts)

@[simp] theorem settings_putAll (puts : List Put) :
    (s.putAll puts).sync.settings = s.sync.settings :=
  congrArg (·.sync.settings) (rest_putAll puts)

@[simp] theorem last_putAll (puts : List Put) : (s.putAll puts).sync.last = s.sync.last :=
  congrArg (·.sync.last) (rest_putAll puts)

@[simp] theorem phase_putAll (puts : List Put) : (s.putAll puts).sync.phase = s.sync.phase :=
  congrArg (·.sync.phase) (rest_putAll puts)

/-! ### The parts of the reactions -/

theorem clear_eq : s.clear v = s.putAll v.blanks := by
  rw [VisibleSet.blanks, putAll_flatMap]
  rfl

theorem showLoading_eq : s.showLoading v = s.putAll v.loadingPuts := by
  unfold showLoading VisibleSet.loadingPuts
  cases v.assembly <;> rfl

theorem dimUnused_eq : s.dimUnused unit v = s.putAll (v.dimPuts s.sync.settings unit) := by
  unfold dimUnused VisibleSet.dimPuts
  split
  · rw [putAll_map]
  · rfl

/-- The listing line to scroll to when a line of a source is selected. -/
def sourceReveals (unit : CompiledUnit) (v : VisibleSet) (e : Editor) (line : Nat) :
    List (Editor × Nat) :=
  match v.assembly with
  | none => []
  | some assembly =>
    (highlightedLines unit v assembly.lineCount e line).head?.toList.map fun first =>
      (assembly, first)

theorem selectSource_eq (line : Nat) (scroll : Bool) : s.selectSource unit v e line scroll =
    (s.putAll (v.sourcePuts unit e line)).revealAll
      (if scroll then sourceReveals unit v e line else []) := by
  unfold selectSource VisibleSet.sourcePuts sourceReveals
  cases v.assembly with
  | none => cases scroll <;> rfl
  | some assembly =>
    dsimp only
    cases (highlightedLines unit v assembly.lineCount e line).head? <;> cases scroll <;> rfl

theorem highlightAssembly_eq (line : Nat) :
    s.highlightAssembly unit v e line = s.putAll (v.assemblyPuts unit e line) := by
  unfold highlightAssembly VisibleSet.assemblyPuts
  rw [putAll_cons]
  cases unit.definitionAt? line with
  | some _ => rfl
  | none => rw [putAll_map]

theorem highlightTarget_eq (target : SourceLine) (scroll : Bool) :
    s.highlightTarget e target scroll = (s.putAll (VisibleSet.targetPuts e target)).revealAll
      (if scroll = true ∧ target.line < e.lineCount then [(e, target.line)] else []) := by
  unfold highlightTarget VisibleSet.targetPuts
  by_cases h : target.line ≥ e.lineCount
  · simp [h, Nat.not_lt.2 h]
  · cases scroll <;> simp [h, Nat.not_le.1 h, revealAll]

@[simp] theorem rest_selectSource (line : Nat) (scroll : Bool) :
    (s.selectSource unit v e line scroll).rest = s.rest := by
  rw [selectSource_eq, rest_revealAll, rest_putAll]

@[simp] theorem rest_highlightTarget (target : SourceLine) (scroll : Bool) :
    (s.highlightTarget e target scroll).rest = s.rest := by
  rw [highlightTarget_eq, rest_revealAll, rest_putAll]

theorem selectSource_still (line : Nat) :
    s.selectSource unit v e line false = s.putAll (v.sourcePuts unit e line) := by
  simp [selectSource_eq]

theorem highlightTarget_still (target : SourceLine) :
    s.highlightTarget e target false = s.putAll (VisibleSet.targetPuts e target) := by
  simp [highlightTarget_eq]

theorem replayCursor_eq : s.replayCursor unit v = s.putAll (v.cursorPuts unit) := by
  unfold replayCursor VisibleSet.cursorPuts
  cases v.sources.head? with
  | some first => exact selectSource_still _
  | none => rfl

theorem replaySelection_eq :
    s.replaySelection unit v = s.putAll (v.replayPuts unit s.sync.last) := by
  unfold replaySelection VisibleSet.replayPuts
  cases s.sync.last with
  | none => exact replayCursor_eq
  | some selection =>
    cases selection with
    | source document line =>
      dsimp only
      cases v.sourceFor? document with
      | some e => exact selectSource_still _
      | none => exact replayCursor_eq
    | assembly line =>
      dsimp only
      cases v.assembly with
      | none => exact replayCursor_eq
      | some assembly =>
        dsimp only
        rw [putAll_append, ← highlightAssembly_eq]
        cases unit.definitionAt? line with
        | none => rfl
        | some target =>
          dsimp only
          cases v.sourceFor? target.file with
          | some e => exact highlightTarget_still _
          | none => rfl

theorem decorate_eq : s.decorate v =
    s.putAll (v.decorations s.sync.settings s.sync.last s.sync.unit) := by
  unfold decorate VisibleSet.decorations
  cases s.sync.unit with
  | none => exact showLoading_eq
  | some state =>
    cases state with
    | failed _ => rfl
    | compiled unit =>
      dsimp only
      rw [putAll_append, ← dimUnused_eq]
      cases unit.lines.isEmpty with
      | true => rfl
      | false =>
        simp only [Bool.false_eq_true, if_false, replaySelection_eq, dimUnused_eq, last_putAll]

end Synced

end AsmExplorer
