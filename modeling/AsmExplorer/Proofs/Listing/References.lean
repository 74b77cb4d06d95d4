import AsmExplorer.Listing.Gas
import AsmExplorer.Proofs.Text.Percent
import Mathlib.Data.List.Basic
import Mathlib.Data.List.Induction
import Mathlib.Data.List.TakeWhile

/-!
# Names that a listing refers to

A name is referred to where it stands as a symbol in an instruction, or in data outside the debug
sections, and where it is declared to be visible elsewhere or to be a function.  The symbols of a
line are its maximal runs of symbol characters, so a name is found with other punctuation around it,
and before the `@` of a suffix (`Scan.mem_names_iff`).  The `$` of an immediate operand is a symbol
character as well: it is taken for the first character of a name, and the name after it is not
found.

* `Scan.Occurs` : a name stands in a line as a symbol.
* `Gas.Referenced` : a listing refers to a name.
* `Gas.mem_used_survey` : **the names that the survey of a listing collects are those that the
  listing refers to.**
-/

namespace AsmExplorer

/-! ### Symbols -/

theorem exists_of_mem_splitOnP {α : Type} {p : α → Bool} {s t : List α} (h : t ∈ s.splitOnP p) :
    ∃ before after, s = before ++ t ++ after ∧ (∀ x ∈ t, p x = false) ∧
      (∀ x ∈ before.getLast?, p x = true) ∧ ∀ x ∈ after.head?, p x = true := by
  -- By induction on the length, since the text is cut at any separator and both sides are shorter.
  induction hn : s.length using Nat.strongRecOn generalizing s with
  | ind n ih =>
    by_cases hsep : ∃ x ∈ s, p x = true
    · obtain ⟨sep, hmem, hp⟩ := hsep
      obtain ⟨left, right, rfl⟩ := List.append_of_mem hmem
      rw [List.length_append, List.length_cons] at hn
      rw [List.splitOnP_append_cons _ _ hp, List.mem_append] at h
      obtain hleft | hright := h
      · obtain ⟨before, after, rfl, hpiece, hbefore, hafter⟩ :=
          ih left.length (by omega) hleft rfl
        refine ⟨before, after ++ sep :: right, by simp, hpiece, hbefore, ?_⟩
        cases after with
        | nil => simpa using hp
        | cons y after => exact hafter
      · obtain ⟨before, after, rfl, hpiece, hbefore, hafter⟩ :=
          ih right.length (by omega) hright rfl
        refine ⟨left ++ sep :: before, after, by simp, hpiece, ?_, hafter⟩
        cases before using List.reverseRecOn with
        | nil => simpa using hp
        | append_singleton before y =>
          rw [← List.cons_append, ← List.append_assoc, List.getLast?_concat]
          simpa using hbefore
    · have hall : ∀ x ∈ s, p x = false := by simpa using hsep
      rw [List.splitOnP_eq_singleton hall, List.mem_singleton] at h
      exact ⟨[], [], by simp [h], h ▸ hall, by simp, by simp⟩

theorem mem_splitOnP_append {α : Type} {p : α → Bool} {before t after : List α}
    (hpiece : ∀ x ∈ t, p x = false) (hbefore : ∀ x ∈ before.getLast?, p x = true)
    (hafter : ∀ x ∈ after.head?, p x = true) : t ∈ (before ++ t ++ after).splitOnP p := by
  have hlast : t ∈ (before ++ t).splitOnP p := by
    cases before using List.reverseRecOn with
    | nil => simp [List.splitOnP_eq_singleton hpiece]
    | append_singleton before x =>
      have hx : p x = true := hbefore x (by simp)
      rw [List.append_assoc, List.singleton_append, List.splitOnP_append_cons _ _ hx,
        List.splitOnP_eq_singleton hpiece]
      simp
  cases after with
  | nil => simpa using hlast
  | cons y after =>
    rw [List.splitOnP_append_cons _ _ (hafter y rfl)]
    exact List.mem_append_left _ hlast

/-- The pieces between separators: no separator stands in a piece, and none is missing around it. -/
theorem mem_splitOnP_iff {α : Type} {p : α → Bool} {s t : List α} :
    t ∈ s.splitOnP p ↔ ∃ before after, s = before ++ t ++ after ∧ (∀ x ∈ t, p x = false) ∧
      (∀ x ∈ before.getLast?, p x = true) ∧ ∀ x ∈ after.head?, p x = true := by
  constructor
  · exact exists_of_mem_splitOnP
  · rintro ⟨before, after, rfl, hpiece, hbefore, hafter⟩
    exact mem_splitOnP_append hpiece hbefore hafter

namespace Scan

variable {name token line : List Char}

theorem eq_of_literal? {text : String} {s rest : List Char} (h : literal? text s = some rest) :
    s = text.toList ++ rest := by
  rw [literal?, Text.dropLead?, Option.ite_none_right_eq_some, List.isPrefixOf_iff_prefix] at h
  obtain ⟨⟨after, rfl⟩, hrest⟩ := h
  rw [List.drop_left, Option.some.injEq] at hrest
  rw [hrest]

/-- The names of a symbol are the symbol itself and, if it has a suffix, what stands before the
first `@`. -/
theorem mem_symbolNames_iff (htoken : token ≠ []) : name ∈ symbolNames token ↔
    name = token ∨ name ≠ [] ∧ '@' ∉ name ∧ ∃ suffix, token = name ++ '@' :: suffix := by
  unfold symbolNames
  cases hsplit : Text.splitFirst '@' token with
  | none =>
    rw [List.mem_singleton]
    refine ⟨.inl, ?_⟩
    rintro (rfl | ⟨-, hat, suffix, rfl⟩)
    · rfl
    · rw [Text.splitFirst_append_cons hat] at hsplit
      cases hsplit
  | some parts =>
    obtain ⟨bare, rest⟩ := parts
    obtain ⟨rfl, hbare⟩ := Text.splitFirst_eq_some_iff.1 hsplit
    have hsuffix : (name ≠ [] ∧ '@' ∉ name ∧
        ∃ suffix, bare ++ '@' :: rest = name ++ '@' :: suffix) ↔ bare ≠ [] ∧ name = bare := by
      constructor
      · rintro ⟨hname, hat, suffix, heq⟩
        rw [heq, Text.splitFirst_append_cons hat] at hsplit
        obtain ⟨rfl, rfl⟩ := Prod.mk.inj (Option.some.inj hsplit)
        exact ⟨hname, rfl⟩
      · rintro ⟨hne, rfl⟩
        exact ⟨hne, hbare, rest, rfl⟩
    rw [hsuffix]
    cases bare with
    | nil => simp
    | cons c bare => simp [or_comm]

/-- A name stands in a line as a symbol: no symbol character stands right before it, and none right
after it, except for the `@` of a suffix if the name has no `@` itself. -/
structure Occurs (name line : List Char) : Prop where
  ne_nil : name ≠ []
  isSymbolChar : ∀ c ∈ name, isSymbolChar c = true
  bounded : ∃ before after, line = before ++ name ++ after ∧
    (∀ c ∈ before.getLast?, Scan.isSymbolChar c = false) ∧
    ∀ c ∈ after.head?, Scan.isSymbolChar c = true → c = '@' ∧ '@' ∉ name

theorem mem_symbols_iff : token ∈ symbols line ↔ token ≠ [] ∧
    (∀ c ∈ token, isSymbolChar c = true) ∧ ∃ before after, line = before ++ token ++ after ∧
      (∀ c ∈ before.getLast?, isSymbolChar c = false) ∧
      ∀ c ∈ after.head?, isSymbolChar c = false := by
  simp only [symbols, List.mem_filter, mem_splitOnP_iff, Bool.not_eq_true', Bool.not_eq_false',
    List.isEmpty_eq_false_iff]
  constructor
  · rintro ⟨⟨before, after, hline, htoken, hbefore, hafter⟩, hne⟩
    exact ⟨hne, htoken, before, after, hline, hbefore, hafter⟩
  · rintro ⟨hne, htoken, before, after, hline, hbefore, hafter⟩
    exact ⟨⟨before, after, hline, htoken, hbefore, hafter⟩, hne⟩

/-- **The names that a line refers to** are those that stand in it as symbols. -/
theorem mem_names_iff : name ∈ names line ↔ Occurs name line := by
  rw [names, List.mem_flatMap]
  constructor
  · rintro ⟨token, htoken, hname⟩
    obtain ⟨hne, hall, before, after, hline, hbefore, hafter⟩ := mem_symbols_iff.1 htoken
    obtain rfl | ⟨hname', hat, suffix, rfl⟩ := (mem_symbolNames_iff hne).1 hname
    · refine ⟨hne, hall, before, after, hline, hbefore, fun c hc hsymbol => ?_⟩
      rw [hafter c hc] at hsymbol
      cases hsymbol
    · refine ⟨hname', fun c hc => hall c (by simp [hc]), before, '@' :: (suffix ++ after), ?_,
        hbefore, fun c hc _ => ?_⟩
      · simp [hline]
      · obtain rfl : '@' = c := by simpa using hc
        exact ⟨rfl, hat⟩
  · rintro ⟨hne, hall, before, after, hline, hbefore, hafter⟩
    -- The symbol is the name and the symbol characters that follow.
    refine ⟨name ++ after.takeWhile isSymbolChar, mem_symbols_iff.2 ⟨by simp [hne], ?_, before,
      after.dropWhile isSymbolChar, ?_, hbefore, ?_⟩, (mem_symbolNames_iff (by simp [hne])).2 ?_⟩
    · intro c hc
      obtain hc | hc := List.mem_append.1 hc
      · exact hall c hc
      · exact List.mem_takeWhile_imp hc
    · simp [hline]
    · intro c hc
      have := List.head?_dropWhile_not isSymbolChar after
      rw [hc] at this
      simpa using this
    · cases after with
      | nil => simp
      | cons c after =>
        cases hc : isSymbolChar c with
        | false => simp [hc]
        | true =>
          obtain ⟨rfl, hat⟩ := hafter c rfl hc
          exact .inr ⟨hne, hat, after.takeWhile isSymbolChar, by simp [hc]⟩

end Scan

/-! ### References -/

namespace Gas

open Scan

variable {directive other : String} {name line args : List Char} {lines : List (List Char)}
  {s : Survey} {inDebug : Bool}

/-- The directives by which the survey learns of files and declared symbols. -/
def surveyDirectives : List String :=
  ["file", "globl", "global", "weak", "type"]

theorem exists_afterDot?_eq (h : arguments? directive line = some args) :
    ∃ rest, afterDot? line = some (directive.toList ++ rest) := by
  simp only [arguments?, Option.bind_eq_bind, Option.bind_eq_some_iff] at h
  obtain ⟨rest, ⟨after, hafter, hrest⟩, -⟩ := h
  exact ⟨rest, by rw [hafter, eq_of_literal? hrest]⟩

theorem eq_of_arguments? {others : List Char} (hdirective : directive ∈ surveyDirectives)
    (hother : other ∈ surveyDirectives) (h : arguments? directive line = some args)
    (h' : arguments? other line = some others) : directive = other := by
  obtain ⟨rest, hrest⟩ := exists_afterDot?_eq h
  obtain ⟨rest', hrest'⟩ := exists_afterDot?_eq h'
  have heq : directive.toList ++ rest = other.toList ++ rest' :=
    Option.some.inj (hrest.symm.trans hrest')
  have hprefix : directive.toList <+: other.toList ∨ other.toList <+: directive.toList :=
    List.prefix_or_prefix_of_prefix (List.prefix_append _ _) ⟨rest', heq.symm⟩
  have hapart : ∀ d ∈ surveyDirectives, ∀ d' ∈ surveyDirectives,
      d.toList <+: d'.toList ∨ d'.toList <+: d.toList → d = d' := by
    decide +kernel
  exact hapart directive hdirective other hother hprefix

theorem isDirective_of_arguments? (hdirective : directive ∈ surveyDirectives)
    (h : arguments? directive line = some args) : isDirective line = true := by
  have hletter : ∀ d ∈ surveyDirectives, d.toList.head?.any Char.isAlpha = true := by
    decide +kernel
  obtain ⟨rest, hrest⟩ := exists_afterDot?_eq h
  obtain ⟨c, hc, halpha⟩ := (Option.any_eq_true _ _).1 (hletter directive hdirective)
  simp [isDirective, hrest, List.head?_append, hc, halpha]

theorem isData_eq_false_of_arguments? (hdirective : directive ∈ surveyDirectives)
    (h : arguments? directive line = some args) : isData line = false := by
  have hword : ∀ d ∈ surveyDirectives, d.toList.all Text.isWord = true := by
    decide +kernel
  have hapart : ∀ d ∈ surveyDirectives, ∀ w ∈ dataDirectives, ¬ d.toList <+: w.toList := by
    decide +kernel
  have hall : ∀ c ∈ directive.toList, Text.isWord c = true :=
    List.all_eq_true.1 (hword directive hdirective)
  obtain ⟨rest, hrest⟩ := exists_afterDot?_eq h
  -- The first word after the dot begins with the directive, as no word of a data directive does.
  rw [isData, hrest, Option.any_some, startsWithWord, List.takeWhile_append_of_pos hall,
    List.any_eq_false]
  intro w hw heq
  rw [beq_iff_eq] at heq
  exact hapart directive hdirective w hw ⟨_, heq.symm⟩

theorem classify_of_arguments? (hdirective : directive ∈ surveyDirectives)
    (h : arguments? directive line = some args) :
    classify line ≠ .instruction ∧ classify line ≠ .data := by
  rw [classify, isDirective_of_arguments? hdirective h, isData_eq_false_of_arguments? hdirective h]
  split
  · exact ⟨nofun, nofun⟩
  · split
    · exact ⟨nofun, nofun⟩
    · exact ⟨nofun, nofun⟩

/-- A line refers to a name: it declares it to be visible elsewhere or to be a function, or it is an
instruction, or data outside the debug sections, in which the name stands as a symbol. -/
inductive Refers (inDebug : Bool) (line name : List Char) : Prop where
  | declared (h : declared? line = some name)
  | functionType (h : functionType? line = some name)
  | instruction (h : classify line = .instruction) (hoccurs : Occurs name line)
  | data (h : classify line = .data) (houtside : inDebug = false) (hoccurs : Occurs name line)

theorem exists_arguments?_of_declared? (h : declared? line = some name) :
    ∃ directive ∈ surveyDirectives, directive ≠ "file" ∧ directive ≠ "type" ∧
      ∃ args, arguments? directive line = some args := by
  have hvisible : ∀ d ∈ ["globl", "global", "weak"],
      d ∈ surveyDirectives ∧ d ≠ "file" ∧ d ≠ "type" := by
    decide
  obtain ⟨found, hfound, -⟩ := Option.map_eq_some_iff.1 h
  obtain ⟨directive, hmem, hread⟩ := List.exists_of_findSome?_eq_some hfound
  obtain ⟨args, hargs, -⟩ := Option.bind_eq_some_iff.1 hread
  obtain ⟨hsurvey, hfile, htype⟩ := hvisible directive hmem
  exact ⟨directive, hsurvey, hfile, htype, args, hargs⟩

theorem exists_arguments?_of_functionType? (h : functionType? line = some name) :
    ∃ args, arguments? "type" line = some args := by
  simp only [functionType?, Option.bind_eq_bind, Option.bind_eq_some_iff] at h
  obtain ⟨args, hargs, -⟩ := h
  exact ⟨args, hargs⟩

/-- A declaration is a directive of its own. -/
theorem exists_arguments?_of_declaration
    (h : declared? line = some name ∨ functionType? line = some name) :
    ∃ directive ∈ surveyDirectives, directive ≠ "file" ∧
      ∃ args, arguments? directive line = some args := by
  obtain h | h := h
  · obtain ⟨directive, hsurvey, hfile, -, hargs⟩ := exists_arguments?_of_declared? h
    exact ⟨directive, hsurvey, hfile, hargs⟩
  · exact ⟨"type", by decide, by decide, exists_arguments?_of_functionType? h⟩

theorem functionType?_eq_none (h : declared? line = some name) : functionType? line = none := by
  obtain ⟨directive, hsurvey, -, hne, args, hargs⟩ := exists_arguments?_of_declared? h
  rw [Option.eq_none_iff_forall_not_mem]
  intro other hother
  obtain ⟨others, hothers⟩ := exists_arguments?_of_functionType? hother
  exact hne (eq_of_arguments? hsurvey (by decide) hargs hothers)

theorem not_refers_of_file (h : arguments? "file" line = some args) :
    ¬ Refers inDebug line name := by
  obtain ⟨hinstruction, hdata⟩ := classify_of_arguments? (by decide) h
  have hdeclaration : ¬ (declared? line = some name ∨ functionType? line = some name) := by
    intro hdeclared
    obtain ⟨directive, hmem, hne, args', hargs⟩ := exists_arguments?_of_declaration hdeclared
    exact hne (eq_of_arguments? hmem (by decide) hargs h)
  rintro (hdeclared | htype | ⟨hkind, -⟩ | ⟨hkind, -, -⟩)
  · exact hdeclaration (.inl hdeclared)
  · exact hdeclaration (.inr htype)
  · exact hinstruction hkind
  · exact hdata hkind

theorem refers_iff_eq {declared : List Char}
    (h : declared? line = some declared ∨ functionType? line = some declared) :
    Refers inDebug line name ↔ name = declared := by
  obtain ⟨directive, hmem, -, args, hargs⟩ := exists_arguments?_of_declaration h
  obtain ⟨hinstruction, hdata⟩ := classify_of_arguments? hmem hargs
  constructor
  · rintro (hname | hname | ⟨hkind, -⟩ | ⟨hkind, -, -⟩)
    · obtain h | h := h
      · exact Option.some.inj (hname.symm.trans h)
      · cases (functionType?_eq_none hname).symm.trans h
    · obtain h | h := h
      · cases (functionType?_eq_none h).symm.trans hname
      · exact Option.some.inj (hname.symm.trans h)
    · exact absurd hkind hinstruction
    · exact absurd hkind hdata
  · rintro rfl
    exact h.elim .declared .functionType

/-- Other lines refer to the names that stand in them as symbols. -/
theorem refers_iff_occurs (hdeclared : declared? line = none) (htype : functionType? line = none) :
    Refers inDebug line name ↔
      (classify line = .instruction ∨ classify line = .data ∧ inDebug = false) ∧
        Occurs name line := by
  constructor
  · rintro (h | h | ⟨hkind, hoccurs⟩ | ⟨hkind, houtside, hoccurs⟩)
    · cases hdeclared.symm.trans h
    · cases htype.symm.trans h
    · exact ⟨.inl hkind, hoccurs⟩
    · exact ⟨.inr ⟨hkind, houtside⟩, hoccurs⟩
  · rintro ⟨hkind | ⟨hkind, houtside⟩, hoccurs⟩
    · exact .instruction hkind hoccurs
    · exact .data hkind houtside hoccurs

theorem mem_used_addLine : name ∈ (s.addLine inDebug line).used ↔
    Refers inDebug line name ∨ name ∈ s.used := by
  unfold Survey.addLine
  cases hentry : fileEntry? line with
  | some entry =>
    obtain ⟨digits, path⟩ := entry
    simp only [Option.bind_eq_bind, fileEntry?, Option.bind_eq_some_iff] at hentry
    obtain ⟨args, hargs, -⟩ := hentry
    have hnot : ¬ Refers inDebug line name := not_refers_of_file hargs
    cases hnumber : Scan.number? digits <;> simp [hnumber, hnot]
  | none =>
    cases hmain : mainFile? line with
    | some main =>
      simp only [mainFile?, Option.bind_eq_bind, Option.bind_eq_some_iff] at hmain
      obtain ⟨args, hargs, -⟩ := hmain
      have hnot : ¬ Refers inDebug line name := not_refers_of_file hargs
      simp [hnot]
    | none =>
      cases hdeclared : declared? line with
      | some declared => simp [refers_iff_eq (.inl hdeclared)]
      | none =>
        cases htype : functionType? line with
        | some declared => simp [refers_iff_eq (.inr htype)]
        | none =>
          rw [refers_iff_occurs hdeclared htype]
          cases hkind : classify line with
          | data => cases inDebug <;> simp [mem_names_iff]
          | instruction => simp [mem_names_iff]
          | label | directive | comment | blank => simp

/-! ### The whole listing -/

/-- Whether the line at a position stands in a debug section: whether the last line up to it that
enters a section enters one of these. -/
def inDebugAt (lines : List (List Char)) (i : Nat) : Bool :=
  ((lines.take (i + 1)).findSomeRev? section?).getD false

/-- A listing refers to a name: one of its lines does. -/
def Referenced (lines : List (List Char)) (name : List Char) : Prop :=
  ∃ i line, lines[i]? = some line ∧ Refers (inDebugAt lines i) line name

theorem mem_used_surveyFrom : name ∈ (surveyFrom s inDebug lines).used ↔
    (∃ i line, lines[i]? = some line ∧
      Refers (((lines.take (i + 1)).findSomeRev? section?).getD inDebug) line name) ∨
      name ∈ s.used := by
  induction lines generalizing s inDebug with
  | nil => simp [surveyFrom]
  | cons line lines ih =>
    have hsection (i : Nat) : (((line :: lines).take (i + 1)).findSomeRev? section?).getD inDebug =
        ((lines.take i).findSomeRev? section?).getD ((section? line).getD inDebug) := by
      simp [List.findSomeRev?_eq_findSome?_reverse, List.findSome?_append]
    rw [surveyFrom, ih, mem_used_addLine]
    simp only [hsection]
    constructor
    · rintro (⟨i, other, hat, hrefers⟩ | hrefers | hused)
      · exact .inl ⟨i + 1, other, hat, hrefers⟩
      · exact .inl ⟨0, line, rfl, hrefers⟩
      · exact .inr hused
    · rintro (⟨i, other, hat, hrefers⟩ | hused)
      · cases i with
        | zero =>
          obtain rfl := Option.some.inj hat
          exact .inr (.inl hrefers)
        | succ i => exact .inl ⟨i, other, hat, hrefers⟩
      · exact .inr (.inr hused)

/-- **The names collected** by the survey of a listing are those that the listing refers to. -/
theorem mem_used_survey : name ∈ (survey lines).used ↔ Referenced lines name := by
  rw [survey, mem_used_surveyFrom, Referenced]
  simp [inDebugAt]

end Gas

end AsmExplorer
