import AsmExplorer.Proofs.Listing.References
import AsmExplorer.Proofs.Listing.Shown

/-!
# Which labels are hidden

The labels filter hides the lines that start with the definition of a label to which the listing
does not refer.

* `Gas.labels_shown_iff` : **a label is shown exactly if the listing refers to it**, where it stands
  as a symbol.  A label that is only named right after the `$` of an immediate operand is hidden,
  since the `$` is taken for the first character of its name.
* `Gas.labels_hide_iff` : **the lines that the filter hides are those that start with such a
  label**, whatever else they hold: an instruction or data after the label goes with it.
-/

namespace AsmExplorer

namespace Gas

variable {name line rest : List Char} {lines : List (List Char)} {i : Nat}

/-! ### Definitions of labels -/

/-- A run that is read is a nonempty piece of the text, all of the class. -/
theorem eq_of_run? {class_ : Char → Bool} {s run after : List Char}
    (h : Scan.run? class_ s = some (run, after)) :
    s = run ++ after ∧ run ≠ [] ∧ ∀ c ∈ run, class_ c = true := by
  rw [Scan.run?, Option.ite_none_right_eq_some] at h
  obtain ⟨hhead, heq⟩ := h
  obtain ⟨rfl, rfl⟩ := Prod.mk.inj (Option.some.inj heq)
  refine ⟨List.takeWhile_append_dropWhile.symm, ?_, fun c hc => List.mem_takeWhile_imp hc⟩
  obtain ⟨c, hc, hclass⟩ := (Option.any_eq_true _ _).1 hhead
  obtain ⟨rest, rfl⟩ := List.head?_eq_some_iff.1 hc
  simp [hclass]

theorem exists_of_blanks? {s rest : List Char} (h : Scan.blanks? s = some rest) :
    ∃ gap, s = gap ++ rest ∧ gap ≠ [] ∧ ∀ c ∈ gap, Text.isBlank c = true := by
  rw [Scan.blanks?, Option.ite_none_right_eq_some] at h
  obtain ⟨hhead, heq⟩ := h
  obtain rfl := Option.some.inj heq
  have hrun : Scan.run? Text.isBlank s = some (s.takeWhile Text.isBlank, Text.trimStart s) := by
    rw [Scan.run?, if_pos hhead]
    rfl
  exact ⟨_, eq_of_run? hrun⟩

theorem classify_eq_label_iff : classify line = .label name ↔ label? line = some name := by
  unfold classify
  split
  · rename_i hblank
    have hnil : Text.trimStart line = [] :=
      List.dropWhile_eq_nil_iff.2 (List.all_eq_true.1 hblank)
    simp [label?, hnil, nameBeforeColon?, Scan.run?, Scan.literal?, Text.dropLead?]
  · cases label? line with
    | some found => simp
    | none =>
      dsimp only
      repeat' split
      all_goals simp

theorem label?_eq_none (h : ∀ name, classify line ≠ .label name) : label? line = none :=
  Option.eq_none_iff_forall_ne_some.2 fun name hname => h name (classify_eq_label_iff.2 hname)

/-- What may stand before a label: blanks, and perhaps `.proc` with blanks after it. -/
inductive IsLead : List Char → Prop where
  | indent {blanks : List Char} (h : ∀ c ∈ blanks, Text.isBlank c = true) : IsLead blanks
  | proc {blanks gap : List Char} (h : ∀ c ∈ blanks, Text.isBlank c = true) (hne : gap ≠ [])
      (hgap : ∀ c ∈ gap, Text.isBlank c = true) : IsLead (blanks ++ ".proc".toList ++ gap)

/-- How a label is written: its name, plain or in quotes. -/
inductive IsMark (name : List Char) : List Char → Prop where
  | plain : IsMark name name
  | quoted : IsMark name ('"' :: name ++ ['"'])

/-- A line starts with the definition of a label, which a colon ends, and holds the rest after
it. -/
structure Defines (line name rest : List Char) : Prop where
  ne_nil : name ≠ []
  isNameChar : ∀ c ∈ name, isNameChar c = true
  split : ∃ lead mark, IsLead lead ∧ IsMark name mark ∧ line = lead ++ mark ++ ':' :: rest

theorem exists_of_nameBeforeColon? {s : List Char} (h : nameBeforeColon? s = some name) :
    name ≠ [] ∧ (∀ c ∈ name, isNameChar c = true) ∧
      ∃ mark rest, IsMark name mark ∧ s = mark ++ ':' :: rest := by
  unfold nameBeforeColon? at h
  split at h
  · simp only [Option.bind_eq_bind, Option.bind_eq_some_iff, Prod.exists] at h
    obtain ⟨run, after, hrun, h⟩ := h
    obtain ⟨rfl, hne, hall⟩ := eq_of_run? hrun
    split at h
    · rename_i rest
      obtain rfl := Option.some.inj h
      exact ⟨hne, hall, '"' :: run ++ ['"'], rest, .quoted, by simp⟩
    · cases h
  · simp only [Option.bind_eq_bind, Option.bind_eq_some_iff, Prod.exists,
      Option.ite_none_right_eq_some, Option.some.injEq] at h
    obtain ⟨run, after, hrun, hcolon, rfl⟩ := h
    obtain ⟨rfl, hne, hall⟩ := eq_of_run? hrun
    obtain ⟨rest, rfl⟩ := List.head?_eq_some_iff.1 hcolon
    exact ⟨hne, hall, _, _, .plain, rfl⟩

theorem exists_defines (h : label? line = some name) : ∃ rest, Defines line name rest := by
  have hindent : ∀ c ∈ line.takeWhile Text.isBlank, Text.isBlank c = true :=
    fun c hc => List.mem_takeWhile_imp hc
  have hline : line = line.takeWhile Text.isBlank ++ Text.trimStart line :=
    List.takeWhile_append_dropWhile.symm
  generalize line.takeWhile Text.isBlank = indent at hindent hline
  unfold label? at h
  dsimp only at h
  split at h
  · rename_i after hproc
    obtain ⟨rest', hliteral, hblanks⟩ := Option.bind_eq_some_iff.1 hproc
    obtain ⟨gap, rfl, hne, hgap⟩ := exists_of_blanks? hblanks
    obtain ⟨hname, hall, mark, rest, hmark, rfl⟩ := exists_of_nameBeforeColon? h
    refine ⟨rest, hname, hall, _, mark, .proc hindent hne hgap, hmark, ?_⟩
    rw [hline, Scan.eq_of_literal? hliteral]
    simp
  · obtain ⟨hname, hall, mark, rest, hmark, heq⟩ := exists_of_nameBeforeColon? h
    refine ⟨rest, hname, hall, indent, mark, .indent hindent, hmark, ?_⟩
    rw [hline, heq]
    simp

/-! ### Labels shown -/

theorem keepsKind_label_iff (filters : FilterOptions) :
    Entry.keepsKind filters (survey lines).used (.label name) = true ↔
      (filters.labels = true → Referenced lines name) := by
  rw [Entry.keepsKind, ← mem_used_survey]
  cases filters.labels <;> simp

/-- **Labels that are referred to are shown.**  With the labels filter on, and neither library code
nor directives nor debug calls hidden, a line that starts with the definition of a label is shown
exactly if the listing refers to the label: if it is declared, or stands as a symbol in an
instruction or in data outside the debug sections. -/
theorem labels_shown_iff (text : List Char) (filters : FilterOptions) :
    ∃ kept, Shows
        { filters with
          labels := true, libraryCode := false, directives := false, debugCalls := true }
        text kept ∧
      ∀ i line name, (Text.lines text)[i]? = some line → label? line = some name →
        (i ∈ kept ↔ Referenced (Text.lines text) name) := by
  obtain ⟨kept, hshows, hkept⟩ := exists_shows
    { filters with labels := true, libraryCode := false, directives := false, debugCalls := true }
    text
  refine ⟨kept, hshows, fun i line name hline hlabel => ?_⟩
  obtain ⟨e, hat, -, hkind⟩ := exists_entry hline
  rw [classify_eq_label_iff.2 hlabel] at hkind
  rw [hkept, shownAt_iff rfl hat, hkind, keepsKind_label_iff]
  simp [Entry.inScope]

/-- A label is hidden that only an immediate operand names. -/
theorem immediate_operand_missed :
    label? ".LC0:".toList = some ".LC0".toList ∧
      classify " movl $.LC0, %edi".toList = .instruction ∧
      (parse ".LC0:\n .string \"hi\"\nmain:\n movl $.LC0, %edi\n call main\n".toList
          { directives := false, debugCalls := true }).map ParsedLine.text =
        [" .string \"hi\"", "main:", " movl $.LC0, %edi", " call main"] := by
  decide +kernel

theorem shownAt_labels_iff (filters : FilterOptions) (hline : lines[i]? = some line) :
    ShownAt { filters with labels := true, libraryCode := false } (survey lines)
        (entries (survey lines) lines) i ↔
      ShownAt { filters with labels := false, libraryCode := false } (survey lines)
          (entries (survey lines) lines) i ∧
        ∀ name, label? line = some name → Referenced lines name := by
  obtain ⟨e, hat, -, hkind⟩ := exists_entry hline
  rw [shownAt_iff rfl hat, shownAt_iff rfl hat, and_assoc]
  refine and_congr Iff.rfl ?_
  -- The filters differ in what they keep of labels alone.
  cases hlabel : e.kind with
  | label name =>
    have hname : label? line = some name := classify_eq_label_iff.1 (hkind ▸ hlabel)
    simp [keepsKind_label_iff, hname]
  | directive | data | comment | blank | instruction =>
    have hnone : label? line = none := label?_eq_none (by simp [← hkind, hlabel])
    simp [hnone, Entry.keepsKind]

/-- **What the labels filter hides.**  The lines that it hides, of those that are shown without it,
are the lines that start with the definition of a label to which the listing does not refer,
whatever follows the label on the line. -/
theorem labels_hide_iff (text : List Char) (filters : FilterOptions) :
    ∃ off on, Shows { filters with labels := false, libraryCode := false } text off ∧
      Shows { filters with labels := true, libraryCode := false } text on ∧
      (∀ i ∈ on, i ∈ off) ∧
      ∀ i ∈ off, (i ∉ on ↔ ∃ line name rest, (Text.lines text)[i]? = some line ∧
        label? line = some name ∧ Defines line name rest ∧
          ¬ Referenced (Text.lines text) name) := by
  obtain ⟨off, hshowsOff, hoff⟩ := exists_shows
    { filters with labels := false, libraryCode := false } text
  obtain ⟨on, hshowsOn, hon⟩ := exists_shows
    { filters with labels := true, libraryCode := false } text
  refine ⟨off, on, hshowsOff, hshowsOn, ?_, ?_⟩
  · intro i hi
    obtain ⟨line, hat⟩ := ((hon i).1 hi).exists_line
    rw [hon, shownAt_labels_iff filters hat] at hi
    exact (hoff i).2 hi.1
  · intro i hi
    obtain ⟨line, hat⟩ := ((hoff i).1 hi).exists_line
    rw [hon, shownAt_labels_iff filters hat]
    rw [hoff] at hi
    constructor
    · intro hnot
      simp only [hi, true_and, not_forall] at hnot
      obtain ⟨name, hlabel, hunused⟩ := hnot
      obtain ⟨rest, hdefines⟩ := exists_defines hlabel
      exact ⟨line, name, rest, hat, hlabel, hdefines, hunused⟩
    · rintro ⟨other, name, rest, hother, hlabel, -, hunused⟩ ⟨-, hall⟩
      obtain rfl := Option.some.inj (hat.symm.trans hother)
      exact hunused (hall name hlabel)

/-- An instruction that shares its line with a label is hidden with it. -/
theorem labelled_instruction_hidden :
    (parse " .globl main\nmain:\n1: pause\n jmp 1b\n".toList { labels := false }).map
        ParsedLine.text = ["main:", "1: pause", " jmp 1b"] ∧
      (parse " .globl main\nmain:\n1: pause\n jmp 1b\n".toList { labels := true }).map
        ParsedLine.text = ["main:", " jmp 1b"] := by
  decide +kernel

end Gas

end AsmExplorer
