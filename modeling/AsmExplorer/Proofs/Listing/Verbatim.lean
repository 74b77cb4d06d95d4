import AsmExplorer.Proofs.Listing.Hiding

/-!
# Listings as they were written

`FilterOptions.off` is meant to keep a listing as the compiler wrote it.  For a Microsoft listing it
does: every line of the text is shown, with its tabs expanded and nothing else changed.  In a GNU
listing it still hides the calls of the debug intrinsics, since `debugCalls` is a choice to keep
them, and it is off with all others (`CompilerKind.parse_off`).  So a listing is kept line by line
exactly if it is a Microsoft listing or calls no debug intrinsic.
-/

namespace AsmExplorer

theorem Text.contains_iff {part s : List Char} : contains part s = true ↔ part <:+: s := by
  induction s with
  | nil => simp [contains]
  | cons c rest ih =>
    rw [contains, Bool.or_eq_true, ih, List.infix_cons_iff, List.isPrefixOf_iff_prefix]

/-! ### GNU listings -/

namespace Gas

theorem isDebugCall_iff {line : List Char} :
    isDebugCall line = true ↔ "@llvm.dbg.".toList <:+: line :=
  Text.contains_iff

theorem visible_off (s : Survey) (es : List Entry) :
    visible .off s es = es.filter fun e => !isDebugCall e.line := by
  have hscope : ∀ e : Entry, e.inScope .off = !isDebugCall e.line := by
    intro e
    simp [Entry.inScope, FilterOptions.off]
  have hkind : ∀ kind, Entry.keepsKind .off s.used kind = true := by
    intro kind
    cases kind <;> rfl
  have hlibrary : FilterOptions.off.libraryCode = false := rfl
  simp [visible, hscope, hkind, hlibrary]

theorem zip_places (text : List Char) :
    (Text.lines text).zip (places text) =
      (entries (survey (Text.lines text)) (Text.lines text)).map fun e => (e.line, e.source) := by
  have hlines := map_line_entriesFrom (s := survey (Text.lines text)) none false (Text.lines text)
  rw [← entries] at hlines
  rw [places]
  generalize entries (survey (Text.lines text)) (Text.lines text) = es at hlines ⊢
  rw [← hlines, List.zip_map']

theorem parse_off (text : List Char) :
    parse text .off =
      (((Text.lines text).zip (places text)).filter fun p => !isDebugCall p.1).map fun p =>
        { text := String.ofList (Text.expandTabs p.1), source := p.2 } := by
  rw [zip_places, List.filter_map, List.map_map, parse, visible_off]
  rfl

end Gas

/-! ### Microsoft listings -/

namespace Masm

theorem zip_places (text : List Char) :
    (Text.lines text).zip (places text) =
      (entries (Text.lines text)).map fun e => (e.line, e.source) := by
  have hlines := map_line_entriesFrom {} (Text.lines text)
  rw [← entries] at hlines
  rw [places]
  generalize entries (Text.lines text) = es at hlines ⊢
  rw [← hlines, List.zip_map']

theorem parse_off (text : List Char) :
    parse text .off =
      ((Text.lines text).zip (places text)).map fun p =>
        { text := String.ofList (Text.expandTabs p.1), source := p.2 } := by
  have hkind : ∀ kind, keepsKind .off (used (Text.lines text)) kind = true := by
    intro kind
    cases kind <;> rfl
  rw [zip_places, List.map_map, parse]
  simp only [hkind, List.filter_true]
  rfl

end Masm

/-! ### Both -/

namespace CompilerKind

/-- Whether a listing of this kind keeps a line when all choices are off. -/
def keepsOff (kind : CompilerKind) (line : List Char) : Bool :=
  kind = msvc || !Gas.isDebugCall line

theorem keepsOff_iff {kind : CompilerKind} {line : List Char} :
    kind.keepsOff line = true ↔ kind = msvc ∨ ¬ "@llvm.dbg.".toList <:+: line := by
  rw [keepsOff, Bool.or_eq_true, decide_eq_true_eq, Bool.not_eq_true', ← Gas.isDebugCall_iff,
    Bool.not_eq_true]

theorem parse_off (kind : CompilerKind) (text : List Char) :
    kind.parse text .off =
      (((Text.lines text).zip (kind.places text)).filter fun p => kind.keepsOff p.1).map fun p =>
        { text := String.ofList (Text.expandTabs p.1), source := p.2 } := by
  cases kind with
  | gcc | clangCl =>
    simp only [parse, places, keepsOff, reduceCtorEq, decide_false, Bool.false_or]
    exact Gas.parse_off text
  | msvc =>
    simp only [parse, places, keepsOff, decide_true, Bool.true_or, List.filter_true]
    exact Masm.parse_off text

/-- The texts that are shown with all choices off. -/
theorem map_text_parse_off (kind : CompilerKind) (text : List Char) :
    (kind.parse text .off).map ParsedLine.text =
      ((Text.lines text).filter kind.keepsOff).map fun line =>
        String.ofList (Text.expandTabs line) := by
  have hfst : ((Text.lines text).zip (kind.places text)).map Prod.fst = Text.lines text :=
    List.map_fst_zip (Nat.le_of_eq (length_places kind text).symm)
  rw [parse_off, List.map_map]
  conv => rhs; rw [← hfst, List.filter_map, List.map_map]
  rfl

/-- **All choices off.**  What is shown with all choices off are the lines of the text in order,
each with its tabs expanded and at its place, but for the calls of debug intrinsics in a GNU
listing.  So there is one line for each line of the text, its tabs expanded, exactly if the listing
is a Microsoft one or calls no debug intrinsic. -/
theorem off_keeps_lines (kind : CompilerKind) (text : List Char) :
    kind.parse text .off =
        (((Text.lines text).zip (kind.places text)).filter fun p => kind.keepsOff p.1).map
          (fun p => { text := String.ofList (Text.expandTabs p.1), source := p.2 }) ∧
      ((kind.parse text .off).map ParsedLine.text =
          (Text.lines text).map (fun line => String.ofList (Text.expandTabs line)) ↔
        kind = msvc ∨ ∀ line ∈ Text.lines text, ¬ "@llvm.dbg.".toList <:+: line) := by
  have hall : (∀ line ∈ Text.lines text, kind.keepsOff line = true) ↔
      kind = msvc ∨ ∀ line ∈ Text.lines text, ¬ "@llvm.dbg.".toList <:+: line := by
    simp only [keepsOff_iff, ← forall_or_left]
  refine ⟨kind.parse_off text, ?_⟩
  rw [map_text_parse_off, ← hall]
  constructor
  · intro heq
    have hlength := congrArg List.length heq
    rw [List.length_map, List.length_map] at hlength
    exact List.length_filter_eq_length_iff.1 hlength
  · intro hkeeps
    rw [List.filter_eq_self.2 hkeeps]

/-- With all choices off, the call of a debug intrinsic is missing. -/
theorem debug_call_hidden :
    (gcc.parse "\tcall\tvoid @llvm.dbg.value(i32 0)\n\tret\n".toList .off).map ParsedLine.text =
        ["        ret"] ∧
      (Text.lines "\tcall\tvoid @llvm.dbg.value(i32 0)\n\tret\n".toList).map
          (fun line => String.ofList (Text.expandTabs line)) =
        ["        call    void @llvm.dbg.value(i32 0)", "        ret"] := by
  decide +kernel

end CompilerKind

end AsmExplorer
