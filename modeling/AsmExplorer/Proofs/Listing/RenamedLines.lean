import AsmExplorer.Proofs.Listing.References
import AsmExplorer.Proofs.Listing.Renaming
import AsmExplorer.Proofs.Listing.Verbatim

/-!
# What a line says under new names

The parts of a line that the survey and the filters read are found again after a renaming.

* `Gas.Renaming.arguments?_text` : the arguments of a directive are those of the line, renamed.
* `Gas.Renaming.loc?_text`, `Gas.Renaming.section?_text`, `Gas.Renaming.isDebugCall_text` : a line
  names the same place and the same section, and calls the same intrinsics.
* `Gas.Renaming.classify_text` : **a line is of the same kind, unless it defines a label before or
  after.**
-/

namespace AsmExplorer

namespace Gas

open Text

variable {s t w line : List Char} {c : Char}

namespace Renaming

variable (ρ : Renaming)

/-! ### Pieces of a line -/

theorem trimStart_text (s : List Char) : trimStart (ρ.text s) = ρ.text (trimStart s) := by
  induction s with
  | nil => rfl
  | cons c s ih =>
    cases hc : isBlank c with
    | true =>
      have hother : isWordChar c = false := isWordChar_eq_false_of_isBlank hc
      rw [ρ.text_cons hother, trimStart, trimStart, List.dropWhile_cons_of_pos hc,
        List.dropWhile_cons_of_pos hc]
      exact ih
    | false =>
      have hhead := ρ.any_isBlank_head?_text (c :: s)
      rw [List.head?_cons, Option.any_some, hc] at hhead
      rw [trimStart, trimStart, List.dropWhile_cons_of_neg (by simp [hc])]
      cases htext : ρ.text (c :: s) with
      | nil => rfl
      | cons d rest =>
        rw [htext, List.head?_cons, Option.any_some] at hhead
        rw [List.dropWhile_cons_of_neg (by simp [hhead])]

theorem blanks?_text (s : List Char) :
    Scan.blanks? (ρ.text s) = (Scan.blanks? s).map ρ.text := by
  rw [Scan.blanks?, Scan.blanks?, ρ.any_isBlank_head?_text, ρ.trimStart_text]
  split <;> rfl

theorem blanks?_inside (s : List Char) :
    Scan.blanks? (ρ.inside s) = (Scan.blanks? s).map ρ.text := by
  cases hblank : s.head?.any isBlank with
  | true =>
    have hboundary : atBoundary s = true := by
      obtain ⟨c, hc, hblank⟩ := (Option.any_eq_true _ _).1 hblank
      rw [atBoundary, hc, Option.any_some, isWordChar_eq_false_of_isBlank hblank]
      rfl
    rw [ρ.inside_of_atBoundary hboundary, ρ.blanks?_text]
  | false => simp [Scan.blanks?, hblank]

theorem dropLead?_nil (s : List Char) : dropLead? [] s = some s := by
  simp [dropLead?]

theorem dropLead?_cons (c d : Char) (lead s : List Char) :
    dropLead? (c :: lead) (d :: s) = if c = d then dropLead? lead s else none := by
  by_cases h : c = d <;> simp [dropLead?, h]

theorem dropLead?_inside {lead : List Char} (hlead : ∀ c ∈ lead, isWordChar c = true)
    (s : List Char) : dropLead? lead (ρ.inside s) = (dropLead? lead s).map ρ.inside := by
  induction lead generalizing s with
  | nil => rw [dropLead?_nil, dropLead?_nil, Option.map_some]
  | cons c lead ih =>
    cases s with
    | nil => rfl
    | cons d s =>
      rw [dropLead?_cons]
      cases hd : isWordChar d with
      | true =>
        rw [ρ.inside_cons hd, dropLead?_cons]
        split
        · exact ih (fun e he => hlead e (List.mem_cons_of_mem c he)) s
        · rfl
      | false =>
        have hne : c ≠ d := ne_of_isWordChar (hlead c List.mem_cons_self) hd
        rw [ρ.inside_of_atBoundary (atBoundary_cons hd s), ρ.text_cons hd, dropLead?_cons,
          if_neg hne, if_neg hne]
        rfl

theorem literal?_text {literal : String} (hword : literal.toList.all isWordChar = true)
    (hdot : literal.toList.head? = some '.') (s : List Char) :
    Scan.literal? literal (ρ.text s) = (Scan.literal? literal s).map ρ.inside := by
  cases hname : s.head?.any (fun c => isWordChar c && !beginsOwn c) with
  | false =>
    rw [ρ.text_eq_inside hname]
    exact ρ.dropLead?_inside (List.all_eq_true.1 hword) s
  | true =>
    -- A name begins neither text with a dot.
    obtain ⟨rest, hliteral⟩ := List.head?_eq_some_iff.1 hdot
    have hdotted : s.head?.any (· == '.') = false := by
      obtain ⟨c, hc, htest⟩ := (Option.any_eq_true _ _).1 hname
      simp only [Bool.and_eq_true, Bool.not_eq_true', beginsOwn, Bool.or_eq_false_iff] at htest
      rw [hc, Option.any_some]
      exact htest.2.1
    have hdotted' : (ρ.text s).head?.any (· == '.') = false := by
      rw [ρ.any_head?_text (b := false) (fun c _ hown => ?_), hdotted]
      exact (Bool.or_eq_false_iff.1 hown).1
    have hnone : ∀ u : List Char, u.head?.any (· == '.') = false →
        Scan.literal? literal u = none := by
      intro u hu
      rw [Scan.literal?, hliteral]
      cases u with
      | nil => rfl
      | cons d u =>
        have hne : '.' ≠ d := fun h => by simp [← h] at hu
        rw [dropLead?_cons, if_neg hne]
    rw [hnone _ hdotted, hnone _ hdotted']
    rfl

theorem afterDot?_eq_some_iff {rest : List Char} :
    afterDot? line = some rest ↔ trimStart line = '.' :: rest := by
  unfold afterDot?
  split
  · rename_i found heq
    rw [heq]
    simp
  · rename_i hne
    constructor
    · nofun
    · exact fun h => absurd h (hne rest)

theorem afterDot?_text (line : List Char) :
    afterDot? (ρ.text line) = (afterDot? line).map ρ.inside := by
  have hdot : isWordChar '.' = true := rfl
  have hown : beginsOwn '.' = true := rfl
  cases hafter : afterDot? line with
  | some rest =>
    rw [Option.map_some, afterDot?_eq_some_iff, ρ.trimStart_text, afterDot?_eq_some_iff.1 hafter,
      ρ.text_eq_inside (by simp [hown]), ρ.inside_cons hdot]
  | none =>
    rw [Option.map_none, Option.eq_none_iff_forall_ne_some]
    intro rest hrest
    have hdotted := ρ.any_head?_text (p := (· == '.')) (b := false)
      (fun c _ hown => (Bool.or_eq_false_iff.1 hown).1) (trimStart line)
    rw [← ρ.trimStart_text, afterDot?_eq_some_iff.1 hrest] at hdotted
    obtain ⟨c, hc, hceq⟩ := (Option.any_eq_true _ _).1 hdotted.symm
    obtain ⟨more, hmore⟩ := List.head?_eq_some_iff.1 hc
    rw [beq_iff_eq] at hceq
    rw [afterDot?_eq_some_iff.2 (hceq ▸ hmore)] at hafter
    cases hafter

theorem arguments?_text {directive : String}
    (hword : directive.toList.all isWordChar = true) (line : List Char) :
    arguments? directive (ρ.text line) = (arguments? directive line).map ρ.text := by
  unfold arguments?
  rw [ρ.afterDot?_text]
  cases afterDot? line with
  | none => rfl
  | some rest =>
    have hliteral : Scan.literal? directive (ρ.inside rest) =
        (Scan.literal? directive rest).map ρ.inside :=
      ρ.dropLead?_inside (List.all_eq_true.1 hword) rest
    simp only [Option.map_some, Option.bind_eq_bind, Option.bind_some, hliteral]
    cases Scan.literal? directive rest with
    | none => rfl
    | some after => exact ρ.blanks?_inside after

/-! ### Words of directives -/

theorem eq_takeWhile_inside_iff {word : List Char} (hword : ∀ c ∈ word, isWordChar c = true)
    (s : List Char) : word = (ρ.inside s).takeWhile isWord ↔ word = s.takeWhile isWord := by
  induction s generalizing word with
  | nil => rfl
  | cons d s ih =>
    cases hd : isWordChar d with
    | true =>
      rw [ρ.inside_cons hd, List.takeWhile_cons, List.takeWhile_cons]
      split
      · cases word with
        | nil => simp
        | cons c word =>
          rw [List.cons.injEq, List.cons.injEq,
            ih fun e he => hword e (List.mem_cons_of_mem c he)]
      · rfl
    | false =>
      rw [ρ.inside_of_atBoundary (atBoundary_cons hd s), ρ.text_cons hd, List.takeWhile_cons,
        List.takeWhile_cons]
      split
      · -- The word would begin with a character that no word has.
        have hne (rest : List Char) : word ≠ d :: rest := by
          rintro rfl
          exact ne_of_isWordChar (hword d List.mem_cons_self) hd rfl
        exact iff_of_false (hne _) (hne _)
      · rfl

theorem startsWithWord_inside {words : List String}
    (hwords : ∀ w ∈ words, w.toList.all isWordChar = true) (s : List Char) :
    Scan.startsWithWord words (ρ.inside s) = Scan.startsWithWord words s := by
  rw [Bool.eq_iff_iff]
  simp only [Scan.startsWithWord, List.any_eq_true, beq_iff_eq]
  constructor
  · rintro ⟨w, hw, heq⟩
    exact ⟨w, hw, (ρ.eq_takeWhile_inside_iff (List.all_eq_true.1 (hwords w hw)) s).1 heq⟩
  · rintro ⟨w, hw, heq⟩
    exact ⟨w, hw, (ρ.eq_takeWhile_inside_iff (List.all_eq_true.1 (hwords w hw)) s).2 heq⟩

theorem any_startsWithWord_text {words : List String}
    (hwords : ∀ w ∈ words, w.toList.all isWordChar = true) (line : List Char) :
    (afterDot? (ρ.text line)).any (Scan.startsWithWord words) =
      (afterDot? line).any (Scan.startsWithWord words) := by
  rw [ρ.afterDot?_text]
  cases afterDot? line with
  | none => rfl
  | some rest => exact ρ.startsWithWord_inside hwords rest

theorem isData_text (line : List Char) : isData (ρ.text line) = isData line :=
  ρ.any_startsWithWord_text (by decide +kernel) line

theorem resetsSource_text (line : List Char) : resetsSource (ρ.text line) = resetsSource line :=
  ρ.any_startsWithWord_text (by decide +kernel) line

theorem isDirective_text (line : List Char) : isDirective (ρ.text line) = isDirective line := by
  rw [isDirective, isDirective, ρ.afterDot?_text]
  cases afterDot? line with
  | none => rfl
  | some rest => simp

/-! ### Numbers -/

theorem isDigit_eq_false_of_beginsOwn (h : beginsOwn c = false) : isDigit c = false :=
  (Bool.or_eq_false_iff.1 h).2

theorem takeWhile_isDigit_text (s : List Char) :
    (ρ.text s).takeWhile isDigit = s.takeWhile isDigit := by
  induction s using wordInduction with
  | nil => rfl
  | other c t hc ih => rw [ρ.text_cons hc, List.takeWhile_cons, List.takeWhile_cons, ih]
  | word w t hw ht ih =>
    rw [ρ.text_append hw ht]
    cases hown : w.head?.any beginsOwn with
    | true => rw [ρ.fixed w hw hown, List.takeWhile_append, List.takeWhile_append, ih]
    | false =>
      -- Neither name begins with a digit.
      obtain ⟨d, w, rfl⟩ := List.exists_cons_of_ne_nil hw.ne_nil
      obtain ⟨c, rest, hname, -, hc⟩ := ρ.starts (d :: w) hw hown
      have hd : isDigit d = false := isDigit_eq_false_of_beginsOwn hown
      simp [hname, isDigit_eq_false_of_beginsOwn hc, hd]

/-- What follows the digits is renamed, but for the rest of their word. -/
theorem dropWhile_isDigit_text (s : List Char) :
    (ρ.text s).dropWhile isDigit = ρ.text (s.dropWhile isDigit) ∨
      (ρ.text s).dropWhile isDigit = ρ.inside (s.dropWhile isDigit) := by
  induction s using wordInduction with
  | nil => exact .inl rfl
  | other c t hc ih =>
    rw [ρ.text_cons hc, List.dropWhile_cons, List.dropWhile_cons]
    split
    · exact ih
    · exact .inl (ρ.text_cons hc t).symm
  | word w t hw ht ih =>
    cases hown : w.head?.any beginsOwn with
    | true =>
      rw [ρ.text_append hw ht, ρ.fixed w hw hown, List.dropWhile_append, List.dropWhile_append]
      split
      · exact ih
      · right
        have hrest : ∀ c ∈ w.dropWhile isDigit, isWordChar c = true :=
          fun c hc => hw.isWordChar c ((List.dropWhile_suffix _).subset hc)
        rw [ρ.inside_append hrest, ρ.inside_of_atBoundary ht]
    | false =>
      left
      obtain ⟨d, w, rfl⟩ := List.exists_cons_of_ne_nil hw.ne_nil
      obtain ⟨c, rest, hname, -, hc⟩ := ρ.starts (d :: w) hw hown
      have hd : isDigit d = false := isDigit_eq_false_of_beginsOwn hown
      rw [List.cons_append, List.dropWhile_cons_of_neg (by simp [hd]), ← List.cons_append,
        ρ.text_append hw ht, hname, List.cons_append,
        List.dropWhile_cons_of_neg (by simp [isDigit_eq_false_of_beginsOwn hc])]

theorem blanks?_dropWhile_text (s : List Char) :
    Scan.blanks? ((ρ.text s).dropWhile isDigit) =
      (Scan.blanks? (s.dropWhile isDigit)).map ρ.text := by
  obtain h | h := ρ.dropWhile_isDigit_text s
  · rw [h, ρ.blanks?_text]
  · rw [h, ρ.blanks?_inside]

theorem digits?_text (s : List Char) :
    Scan.digits? (ρ.text s) =
      (Scan.digits? s).map fun found => (found.1, (ρ.text s).dropWhile isDigit) := by
  have hhead := ρ.any_head?_text (p := isDigit)
    (fun _ _ hown => isDigit_eq_false_of_beginsOwn hown) s
  rw [Scan.digits?, Scan.digits?, Scan.run?, Scan.run?, hhead, ρ.takeWhile_isDigit_text]
  split <;> rfl

theorem snd_digits? {found : List Char × List Char} (h : Scan.digits? s = some found) :
    found.2 = s.dropWhile isDigit := by
  rw [Scan.digits?, Scan.run?, Option.ite_none_right_eq_some] at h
  rw [← Option.some.inj h.2]

/-- **A line names the same place.** -/
theorem loc?_text (line : List Char) : loc? (ρ.text line) = loc? line := by
  have harguments : arguments? "loc" (ρ.text line) = (arguments? "loc" line).map ρ.text :=
    ρ.arguments?_text (by decide +kernel) line
  unfold loc?
  rw [harguments]
  cases arguments? "loc" line with
  | none => rfl
  | some args =>
    simp only [Option.map_some, Option.bind_eq_bind, Option.bind_some, ρ.digits?_text args]
    cases hfile : Scan.digits? args with
    | none => rfl
    | some file =>
      simp only [Option.map_some, Option.bind_some, ρ.blanks?_dropWhile_text, snd_digits? hfile]
      cases Scan.blanks? (args.dropWhile isDigit) with
      | none => rfl
      | some rest =>
        simp only [Option.map_some, Option.bind_some, ρ.digits?_text rest]
        cases hnumber : Scan.digits? rest with
        | none => rfl
        | some number =>
          simp only [Option.map_some, Option.bind_some, ρ.blanks?_dropWhile_text,
            snd_digits? hnumber]
          cases Scan.blanks? (rest.dropWhile isDigit) with
          | none => rfl
          | some column =>
            simp only [Option.map_some, Option.bind_some, ρ.digits?_text column, Option.map_map]
            rfl

/-! ### Sections and calls -/

theorem prefix_takeWhile_iff {p : List Char} {q : Char → Bool} (hp : ∀ c ∈ p, q c = true)
    (s : List Char) : p <+: s.takeWhile q ↔ p <+: s := by
  constructor
  · exact fun h => h.trans (List.takeWhile_prefix q)
  · rintro ⟨rest, rfl⟩
    rw [List.takeWhile_append_of_pos hp]
    exact List.prefix_append p _

theorem section?_text (line : List Char) : section? (ρ.text line) = section? line := by
  have harguments : arguments? "section" (ρ.text line) = (arguments? "section" line).map ρ.text :=
    ρ.arguments?_text (by decide +kernel) line
  have hwords : (afterDot? (ρ.text line)).any (Scan.startsWithWord ["text", "data", "bss"]) =
      (afterDot? line).any (Scan.startsWithWord ["text", "data", "bss"]) :=
    ρ.any_startsWithWord_text (by decide +kernel) line
  have hdebug : ".debug".toList.all isWordChar = true := by decide +kernel
  have hnames : ∀ c ∈ ".debug".toList, isNameChar c = true :=
    fun c hc => isNameChar_of_isWordChar (List.all_eq_true.1 hdebug c hc)
  have hname : ∀ s, ".debug".toList.isPrefixOf ((ρ.text s).takeWhile isNameChar) =
      ".debug".toList.isPrefixOf (s.takeWhile isNameChar) := by
    intro s
    rw [Bool.eq_iff_iff, List.isPrefixOf_iff_prefix, List.isPrefixOf_iff_prefix,
      prefix_takeWhile_iff hnames, prefix_takeWhile_iff hnames]
    exact ρ.prefix_text_iff (by decide) hdebug (fun w hw => ρ.prefix_rename_iff_of_own rfl hw) s
  unfold section?
  rw [harguments, hwords]
  cases arguments? "section" line with
  | none => rfl
  | some args =>
    have hhead := ρ.any_head?_text (p := isNameChar)
      (fun _ hc _ => isNameChar_of_isWordChar hc) args
    simp only [Option.map_some, Option.bind_eq_bind, Option.bind_some, Scan.run?, hhead]
    cases args.head?.any isNameChar with
    | true => exact congrArg some (hname args)
    | false => rfl

theorem infix_append_iff_of_not_mem {p : List Char} (hc : c ∉ w) :
    c :: p <:+: w ++ t ↔ c :: p <:+: t := by
  induction w with
  | nil => rfl
  | cons d w ih =>
    have hne : c ≠ d := fun h => hc (h ▸ List.mem_cons_self)
    rw [List.cons_append, List.infix_cons_iff, ih fun h => hc (List.mem_cons_of_mem d h),
      List.cons_prefix_cons]
    simp [hne]

theorem isDebugCall_text (line : List Char) : isDebugCall (ρ.text line) = isDebugCall line := by
  have hintrinsic : "@llvm.dbg.".toList = '@' :: "llvm.dbg.".toList := by decide
  have hprefix (s : List Char) : "llvm.dbg.".toList <+: ρ.text s ↔ "llvm.dbg.".toList <+: s :=
    ρ.prefix_text_iff (by decide) (by decide +kernel) ρ.debug s
  rw [Bool.eq_iff_iff, isDebugCall_iff, isDebugCall_iff, hintrinsic]
  induction line using wordInduction with
  | nil => rfl
  | other c t hc ih =>
    rw [ρ.text_cons hc, List.infix_cons_iff, List.infix_cons_iff, ih, List.cons_prefix_cons,
      List.cons_prefix_cons, hprefix]
  | word w t hw ht ih =>
    rw [ρ.text_append hw ht, infix_append_iff_of_not_mem (ρ.no_suffix w hw),
      infix_append_iff_of_not_mem (at_not_mem hw), ih]

/-! ### Kinds -/

theorem isComment_eq (line : List Char) :
    isComment line =
      ((trimStart line).head?.any (· == '#') || (trimStart line).head?.any (· == ';') ||
        ((trimStart line).head?.any (· == '/') && (trimStart line).tail.head?.any (· == '/'))) := by
  unfold isComment
  generalize trimStart line = s
  match s with
  | [] => rfl
  | [c] => by_cases hhash : c = '#' <;> by_cases hsemi : c = ';' <;> simp [hhash, hsemi]
  | c :: d :: rest =>
    by_cases hhash : c = '#' <;> by_cases hsemi : c = ';' <;> by_cases hslash : c = '/' <;>
      by_cases hslash' : d = '/' <;> simp_all

theorem isComment_text (line : List Char) : isComment (ρ.text line) = isComment line := by
  have hslash : isWordChar '/' = false := rfl
  rw [isComment_eq, isComment_eq, ρ.trimStart_text, ρ.any_head?_text_of_not_mem rfl,
    ρ.any_head?_text_of_not_mem rfl, ρ.any_head?_text_of_not_mem hslash]
  congr 1
  cases hhead : (trimStart line).head?.any (· == '/') with
  | false => rfl
  | true =>
    obtain ⟨c, hc, heq⟩ := (Option.any_eq_true _ _).1 hhead
    obtain ⟨rest, hrest⟩ := List.head?_eq_some_iff.1 hc
    rw [beq_iff_eq] at heq
    rw [hrest, heq, ρ.text_cons hslash, List.tail_cons, List.tail_cons,
      ρ.any_head?_text_of_not_mem hslash]

theorem all_isBlank_eq (s : List Char) : s.all isBlank = (trimStart s).isEmpty := by
  induction s with
  | nil => rfl
  | cons c s ih =>
    cases hc : isBlank c with
    | true => simpa [trimStart, hc] using ih
    | false => simp [trimStart, hc]

theorem isEmpty_text (s : List Char) : (ρ.text s).isEmpty = s.isEmpty := by
  have hhead := ρ.any_head?_text (p := fun _ => true) (fun _ _ _ => rfl) s
  cases hs : s <;> cases ht : ρ.text s <;> simp_all

theorem all_isBlank_text (s : List Char) : (ρ.text s).all isBlank = s.all isBlank := by
  rw [all_isBlank_eq, all_isBlank_eq, ρ.trimStart_text, ρ.isEmpty_text]

/-- **A line stays what it is**, unless it defines a label before or after. -/
theorem classify_text (h : label? line = none) (h' : label? (ρ.text line) = none) :
    classify (ρ.text line) = classify line := by
  simp only [classify, h, h', ρ.all_isBlank_text, ρ.isData_text, ρ.isDirective_text,
    ρ.isComment_text]

end Renaming

end Gas

end AsmExplorer
