import AsmExplorer.Proofs.Listing.Labels

/-!
# Hiding library code

To hide library code is to hide the blocks that have instructions, but none of the main file.  A
block runs from one label to the next, and only the compiler's own labels do not cut it.  So the
instructions of a function stand and fall together as long as its labels are of that kind.  Any
other label inside it, such as a numeric label of inline assembly, cuts it in two.

* `Gas.Together` : two lines stand in the same block.
* `Gas.shownAt_instruction_iff` : an instruction is shown if one of its block is of the main file.
* `Gas.instructions_shown_iff` : **the same for what is shown of a text**, and for the instructions
  between two labels.
-/

namespace AsmExplorer

/-- The filters that hide library code and nothing else. -/
def FilterOptions.hidingLibrary (filters : FilterOptions) : FilterOptions :=
  { filters with
    labels := false, libraryCode := true, directives := false, commentOnly := false,
    debugCalls := true }

namespace Gas

variable {lines : List (List Char)} {filters : FilterOptions} {e : Entry} {i j k : Nat}

/-! ### Blocks of lines -/

/-- The line at a position cuts blocks: it starts with the definition of a label that is not one of
the compiler's own. -/
def CutsAt (lines : List (List Char)) (i : Nat) : Prop :=
  ∃ line name, lines[i]? = some line ∧ label? line = some name ∧ isLocal name = false

/-- No line cuts two positions apart. -/
def Together (lines : List (List Char)) (i j : Nat) : Prop :=
  ∀ k, CutsAt lines k → ¬ (i < k ∧ k ≤ j) ∧ ¬ (j < k ∧ k ≤ i)

/-- The line at a position is attributed to the main file. -/
def MainAt (lines : List (List Char)) (i : Nat) : Prop :=
  ∃ loc, Attributed lines i loc ∧ (survey lines).isMain loc.file = true

namespace Together

theorem refl (lines : List (List Char)) (i : Nat) : Together lines i i := by
  intro k _
  omega

theorem symm (h : Together lines i j) : Together lines j i :=
  fun k hk => (h k hk).symm

theorem trans (hij : Together lines i j) (hjk : Together lines j k) : Together lines i k := by
  intro cut hcut
  have hfirst := hij cut hcut
  have hsecond := hjk cut hcut
  omega

/-- Positions between two others are not cut apart if no line between those cuts. -/
theorem of_between {a b : Nat} (h : ∀ k, a < k → k < b → ¬ CutsAt lines k)
    (hi : a < i ∧ i < b) (hj : a < j ∧ j < b) : Together lines i j := by
  intro k hk
  have hout : ¬ (a < k ∧ k < b) := fun hin => h k hin.1 hin.2 hk
  omega

end Together

/-! ### Instructions shown -/

theorem startsBlock_iff (hat : (entries (survey lines) lines)[i]? = some e) :
    e.startsBlock = true ↔ CutsAt lines i := by
  obtain ⟨hline, hkind, -⟩ := of_getElem?_entriesFrom hat
  unfold Entry.startsBlock CutsAt
  simp only [hline, Option.some.injEq]
  cases hlabel : e.kind with
  | label name =>
    have hname : label? e.line = some name := classify_eq_label_iff.1 (hkind ▸ hlabel)
    simp [hname]
  | directive | data | comment | blank | instruction =>
    have hnone : label? e.line = none := label?_eq_none (by simp [← hkind, hlabel])
    simp [hnone]

theorem isMainCode_iff (hat : (entries (survey lines) lines)[i]? = some e) :
    e.isMainCode (survey lines) = true ↔ MainAt lines i := by
  simp only [Entry.isMainCode, Option.any_eq_true, source_eq_some_iff hat, MainAt]

theorem mem_scope_hidingLibrary {es : List Entry} {x : Numbered} :
    x ∈ scope filters.hidingLibrary es ↔ es[x.2]? = some x.1 := by
  rw [mem_scope_iff]
  exact and_iff_left rfl

theorem sameBlock_iff :
    SameBlock filters.hidingLibrary (entries (survey lines) lines) i j ↔ Together lines i j := by
  have hunbroken (i j : Nat) : Unbroken (scope filters.hidingLibrary
      (entries (survey lines) lines)) i j ↔ ∀ k, CutsAt lines k → ¬ (i < k ∧ k ≤ j) := by
    constructor
    · intro h k hk
      obtain ⟨line, name, hline, -⟩ := id hk
      obtain ⟨e, hat, -⟩ := exists_entry hline
      exact h (e, k) (mem_scope_hidingLibrary.2 hat) ((startsBlock_iff hat).2 hk)
    · intro h x hx hstarts
      exact h x.2 ((startsBlock_iff (mem_scope_hidingLibrary.1 hx)).1 hstarts)
  rw [SameBlock, hunbroken, hunbroken]
  constructor
  · rintro ⟨hforward, hback⟩ k hk
    exact ⟨hforward k hk, hback k hk⟩
  · intro h
    exact ⟨fun k hk => (h k hk).1, fun k hk => (h k hk).2⟩

/-- The block of an instruction is library code if none of it is attributed to the main file. -/
theorem inLibrary_iff (hinstruction : lines[i]?.map classify = some .instruction) :
    InLibrary filters.hidingLibrary (survey lines) (entries (survey lines) lines) i ↔
      ∀ j, Together lines i j → ¬ MainAt lines j := by
  constructor
  · rintro ⟨-, hnot⟩ j htogether hmain
    -- What is attributed to the main file is a line, so there is an entry for it.
    obtain ⟨loc, hattributed, -⟩ := id hmain
    obtain ⟨line, hline, -⟩ := Option.map_eq_some_iff.1 hattributed.instruction
    obtain ⟨e, hat, -⟩ := exists_entry hline
    have hfalse : e.isMainCode (survey lines) = false :=
      hnot (e, j) (mem_scope_hidingLibrary.2 hat) (sameBlock_iff.2 htogether)
    rw [(isMainCode_iff hat).2 hmain] at hfalse
    cases hfalse
  · intro hnone
    obtain ⟨line, hline, hkind⟩ := Option.map_eq_some_iff.1 hinstruction
    obtain ⟨e, hat, -, hentry⟩ := exists_entry hline
    refine ⟨⟨(e, i), mem_scope_hidingLibrary.2 hat, sameBlock_iff.2 (.refl lines i),
      hentry.trans hkind⟩, fun x hx hsame => ?_⟩
    rw [← Bool.not_eq_true, isMainCode_iff (mem_scope_hidingLibrary.1 hx)]
    exact hnone x.2 (sameBlock_iff.1 hsame)

/-- An instruction is shown if one of the same block is attributed to the main file. -/
theorem shownAt_instruction_iff (hinstruction : lines[i]?.map classify = some .instruction) :
    ShownAt filters.hidingLibrary (survey lines) (entries (survey lines) lines) i ↔
      ∃ j, Together lines i j ∧ MainAt lines j := by
  have hlibrary : ¬ InLibrary filters.hidingLibrary (survey lines)
      (entries (survey lines) lines) i ↔ ∃ j, Together lines i j ∧ MainAt lines j := by
    simp [inLibrary_iff hinstruction]
  rw [← hlibrary]
  constructor
  · intro hshown
    exact hshown.not_library rfl
  · intro hnot
    obtain ⟨line, hline, hkind⟩ := Option.map_eq_some_iff.1 hinstruction
    obtain ⟨e, hat, -, hentry⟩ := exists_entry hline
    refine ⟨⟨e, hat, rfl, ?_⟩, fun _ => hnot⟩
    rw [hentry, hkind]
    rfl

/-- **Library code is hidden by blocks.**  When library code is hidden, and nothing else, an
instruction is shown exactly if some instruction that no label but the compiler's own cuts off from
it is attributed to the main file.  So the instructions between any two lines, such as the labels of
a function and of the next, are all shown or all hidden if no such label stands between, and shown
if one of them is attributed to the main file. -/
theorem instructions_shown_iff (text : List Char) (filters : FilterOptions) :
    ∃ kept, Shows filters.hidingLibrary text kept ∧
      (∀ i, (Text.lines text)[i]?.map classify = some .instruction →
        (i ∈ kept ↔ ∃ j, Together (Text.lines text) i j ∧ MainAt (Text.lines text) j)) ∧
      ∀ a b, (∀ k, a < k → k < b → ¬ CutsAt (Text.lines text) k) →
        ∀ i, a < i ∧ i < b → (Text.lines text)[i]?.map classify = some .instruction →
          (∀ j, a < j ∧ j < b → (Text.lines text)[j]?.map classify = some .instruction →
            (i ∈ kept ↔ j ∈ kept)) ∧
          ∀ j, a < j ∧ j < b → MainAt (Text.lines text) j → i ∈ kept := by
  obtain ⟨kept, hshows, hkept⟩ := exists_shows filters.hidingLibrary text
  have hinstruction : ∀ i, (Text.lines text)[i]?.map classify = some .instruction →
      (i ∈ kept ↔ ∃ j, Together (Text.lines text) i j ∧ MainAt (Text.lines text) j) :=
    fun i hi => (hkept i).trans (shownAt_instruction_iff hi)
  refine ⟨kept, hshows, hinstruction, fun a b hbetween i hi hcode => ⟨?_, ?_⟩⟩
  · intro j hj hcode'
    have htogether : Together (Text.lines text) i j := .of_between hbetween hi hj
    rw [hinstruction i hcode, hinstruction j hcode']
    constructor
    · rintro ⟨k, hk, hmain⟩
      exact ⟨k, htogether.symm.trans hk, hmain⟩
    · rintro ⟨k, hk, hmain⟩
      exact ⟨k, htogether.trans hk, hmain⟩
  · intro j hj hmain
    exact (hinstruction i hcode).2 ⟨j, .of_between hbetween hi hj, hmain⟩

/-- A function of the main file, with a loop of inline assembly at a numeric label. -/
def spinWait : List Char :=
  ".file \"main.c\"\n.file 1 \"/src/main.c\"\n.file 2 \"/usr/include/lib.h\"\n".toList ++
    ".type main, @function\nmain:\n.loc 1 3 1\n movl $1, %eax\n".toList ++
    "1:\n.loc 2 10 1\n pause\n jmp 1b\n".toList ++
    ".type next, @function\nnext:\n.loc 1 9 1\n ret\n".toList

/-- A numeric label cuts a function: the loop is hidden, and the instruction before it, which came
from the main file, is shown. -/
theorem numeric_label_cuts :
    (Text.lines spinWait).filterMap functionType? = ["main".toList, "next".toList] ∧
      (Text.lines spinWait).filterMap label? = ["main".toList, ['1'], "next".toList] ∧
      (Text.lines spinWait).filter (fun line => classify line = .instruction) =
        [" movl $1, %eax", " pause", " jmp 1b", " ret"].map String.toList ∧
      (parse spinWait ({} : FilterOptions).hidingLibrary).filter (fun line => line.source.isSome) =
        [{ text := " movl $1, %eax", source := some ⟨.ofText "/src/main.c", 3, some 1⟩ },
          { text := " ret", source := some ⟨.ofText "/src/main.c", 9, some 1⟩ }] ∧
      (survey (Text.lines spinWait)).main = some (.ofText "main.c") := by
  decide +kernel

end Gas

end AsmExplorer
