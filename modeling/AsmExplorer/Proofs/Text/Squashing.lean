import AsmExplorer.Proofs.Text.Strings
import Mathlib.Data.List.Basic

/-!
# Squashing twice

Squashing leaves the complete strings of a text alone and collapses the blanks between them.  A
collapsed text without complete strings still has none: a backslash in front of some blanks escapes
the one blank that is left of them (`Text.splitQuoted_squash`).

* `Text.collapse` : every run of blanks becomes one space.
* `Text.squashPlain_eq` : a piece without strings is collapsed, apart from its indentation.
* `Text.squash_squash`, `Text.strings_squash`, `Text.solid_squash` : **a squashed text stays as it
  is when it is squashed again, and has the strings and the other solid text of the original.**
-/

namespace AsmExplorer.Text

variable {s before quoted after : List Char} {atStart : Bool}

/-! ### Collapsing blanks -/

/-- The text with every run of blanks collapsed to a space; with `pending`, some blanks have been
read before it. -/
def collapse (pending : Bool) : List Char → List Char
  | [] => if pending then [' '] else []
  | c :: rest =>
    if isBlank c then collapse true rest
    else (if pending then [' '] else []) ++ c :: collapse false rest

theorem collapse_of_all_isBlank (h : s.all isBlank = true) (pending : Bool) :
    collapse pending s = if pending || !s.isEmpty then [' '] else [] := by
  induction s generalizing pending with
  | nil => simp [collapse]
  | cons c rest ih =>
    obtain ⟨hc, hrest⟩ := by simpa only [List.all_cons, Bool.and_eq_true] using h
    rw [collapse, if_pos hc, ih hrest]
    simp

theorem words_cons_of_isBlank {c : Char} (h : isBlank c = true) (s : List Char) :
    words (c :: s) = words s := by
  simp [words, List.splitOnP_cons_eq_if_modifyHead, h]

theorem words_of_all_isBlank (h : s.all isBlank = true) : words s = [] := by
  induction s with
  | nil => simp [words]
  | cons c rest ih =>
    obtain ⟨hc, hrest⟩ := by simpa only [List.all_cons, Bool.and_eq_true] using h
    rw [words_cons_of_isBlank hc, ih hrest]

/-- The words of a text that starts with a character of a word: the character is a word of its own
where a blank or nothing follows, and otherwise the first one of the first word. -/
theorem words_cons_of_not_isBlank {c : Char} (h : isBlank c = false) (s : List Char) :
    words (c :: s) =
      if s.head?.all isBlank then [c] :: words s
      else (words s).modifyHead (c :: ·) := by
  have hsplit : (c :: s).splitOnP isBlank = (s.splitOnP isBlank).modifyHead (c :: ·) := by
    simp [List.splitOnP_cons_eq_if_modifyHead, h]
  cases s with
  | nil => simp [words, hsplit]
  | cons d rest =>
    rw [words, hsplit, words, List.splitOnP_cons_eq_if_modifyHead]
    cases hd : isBlank d with
    | true => simp [hd]
    | false =>
      obtain ⟨piece, more, hpieces⟩ :=
        List.exists_cons_of_ne_nil (List.splitOnP_ne_nil isBlank rest)
      simp [hd, hpieces]

theorem words_ne_nil (h : s.all isBlank = false) : words s ≠ [] := by
  induction s with
  | nil => simp at h
  | cons c rest ih =>
    cases hc : isBlank c with
    | true =>
      rw [words_cons_of_isBlank hc]
      exact ih (by simpa [hc] using h)
    | false =>
      rw [words_cons_of_not_isBlank hc]
      split
      · exact List.cons_ne_nil _ _
      · rename_i hhead
        have hall : rest.all isBlank = false := by
          cases rest <;> simp_all
        obtain ⟨word, more, hwords⟩ := List.exists_cons_of_ne_nil (ih hall)
        simp [hwords]

theorem joinWith_cons {parts : List (List Char)} (h : parts ≠ []) (separator part : List Char) :
    joinWith separator (part :: parts) = part ++ separator ++ joinWith separator parts := by
  obtain ⟨next, more, rfl⟩ := List.exists_cons_of_ne_nil h
  simp [joinWith, List.intercalate]

theorem joinWith_modifyHead {parts : List (List Char)} (h : parts ≠ []) (separator : List Char)
    (c : Char) :
    joinWith separator (parts.modifyHead (c :: ·)) = c :: joinWith separator parts := by
  obtain ⟨part, more, rfl⟩ := List.exists_cons_of_ne_nil h
  cases more <;> simp [joinWith, List.intercalate]

/-- A text that is not all blank is collapsed to its words, with a space at each end where it has
blanks. -/
theorem collapse_eq (h : s.all isBlank = false) (pending : Bool) :
    collapse pending s =
      (if pending || s.head?.any isBlank then [' '] else []) ++ joinWith [' '] (words s) ++
        (if s.getLast?.any isBlank then [' '] else []) := by
  induction s generalizing pending with
  | nil => simp at h
  | cons c rest ih =>
    rw [collapse]
    cases hc : isBlank c with
    | true =>
      have hrest : rest.all isBlank = false := by simpa [hc] using h
      have hne : rest ≠ [] := by
        rintro rfl
        simp at hrest
      rw [if_pos rfl, ih hrest, words_cons_of_isBlank hc]
      simp [List.getLast?_cons_of_ne_nil hne, hc]
    | false =>
      rw [if_neg Bool.false_ne_true, words_cons_of_not_isBlank hc]
      cases hall : rest.all isBlank with
      | true =>
        rw [collapse_of_all_isBlank hall, words_of_all_isBlank hall]
        cases rest with
        | nil => simp [hc, joinWith]
        | cons d rest =>
          have hlast : (d :: rest).getLast?.any isBlank = true := by
            rw [List.getLast?_eq_some_getLast (List.cons_ne_nil d rest)]
            exact List.all_eq_true.1 hall _ (List.getLast_mem _)
          have hd : isBlank d = true := List.all_eq_true.1 hall d List.mem_cons_self
          simp [hc, hd, hlast, joinWith]
      | false =>
        have hne : rest ≠ [] := by
          rintro rfl
          simp at hall
        rw [ih hall, List.getLast?_cons_of_ne_nil hne]
        obtain ⟨d, more, rfl⟩ := List.exists_cons_of_ne_nil hne
        cases hd : isBlank d with
        | true => simp [hc, hd, joinWith_cons (words_ne_nil hall)]
        | false => simp [hc, hd, joinWith_modifyHead (words_ne_nil hall)]

/-- How much more than a space is left of the indentation of a line. -/
def indent (s : List Char) (atStart : Bool) : List Char :=
  if atStart = true ∧ s.head?.any isBlank = true ∧ s[1]? = some ' ' then [' '] else []

theorem leadSpace_eq (s : List Char) (atStart : Bool) :
    leadSpace s atStart = indent s atStart ++ if s.head?.any isBlank then [' '] else [] := by
  unfold leadSpace indent
  cases s.head?.any isBlank <;> cases atStart <;> by_cases h : s[1]? = some ' ' <;> simp [h]

/-- **Squashing a piece without strings** collapses its blanks, and a line keeps an indentation of
two spaces. -/
theorem squashPlain_eq (h : s.all isBlank = false) (atStart : Bool) :
    squashPlain s atStart = indent s atStart ++ collapse false s := by
  rw [squashPlain, if_neg (by simp [h]), collapse_eq h, leadSpace_eq]
  simp

theorem squashPlain_of_all_isBlank (h : s.all isBlank = true) (atStart : Bool) :
    squashPlain s atStart = [] := by
  rw [squashPlain, if_pos h]

/-! ### What collapsing keeps -/

theorem collapse_append_cons {c : Char} (h : isBlank c = false) (pending : Bool)
    (left right : List Char) :
    collapse pending (left ++ c :: right) = collapse pending left ++ c :: collapse false right := by
  induction left generalizing pending with
  | nil => simp [collapse, h]
  | cons d left ih =>
    rw [List.cons_append, collapse, collapse]
    split
    · exact ih true
    · simp [ih]

theorem eq_or_mem_of_mem_collapse {c : Char} {pending : Bool} (h : c ∈ collapse pending s) :
    c = ' ' ∨ c ∈ s := by
  induction s generalizing pending with
  | nil =>
    cases pending <;> simp_all [collapse]
  | cons d rest ih =>
    rw [collapse] at h
    split at h
    · exact (ih h).imp_right (List.mem_cons_of_mem d)
    · obtain hlead | hmem := List.mem_append.1 h
      · cases pending <;> simp_all
      · obtain rfl | hmem := List.mem_cons.1 hmem
        · exact .inr List.mem_cons_self
        · exact (ih hmem).imp_right (List.mem_cons_of_mem d)

theorem collapse_collapse (pending : Bool) (s : List Char) :
    collapse false (collapse pending s) = collapse pending s := by
  induction s generalizing pending with
  | nil => cases pending <;> rfl
  | cons c rest ih =>
    rw [collapse]
    cases hc : isBlank c with
    | true => exact ih true
    | false =>
      have hspace : isBlank ' ' = true := rfl
      cases pending <;> simp [collapse, hc, hspace, ih]

/-- No two blanks are neighbours in a collapsed text; stated for its first two characters. -/
theorem getElem?_one_collapse {pending : Bool}
    (h : (collapse pending s).head?.any isBlank = true) : (collapse pending s)[1]? ≠ some ' ' := by
  induction s generalizing pending with
  | nil => cases pending <;> simp [collapse]
  | cons c rest ih =>
    rw [collapse] at h ⊢
    cases hc : isBlank c with
    | true =>
      rw [if_pos hc] at h
      exact ih h
    | false =>
      have hne : c ≠ ' ' := by
        rintro rfl
        cases hc
      cases pending with
      | true => simp [hne]
      | false => simp [hc] at h

theorem filter_collapse (pending : Bool) (s : List Char) :
    (collapse pending s).filter (!isBlank ·) = s.filter (!isBlank ·) := by
  induction s generalizing pending with
  | nil => cases pending <;> rfl
  | cons c rest ih =>
    have hspace : isBlank ' ' = true := rfl
    rw [collapse]
    cases hc : isBlank c with
    | true => simp [hc, ih]
    | false => cases pending <;> simp [hc, hspace, ih]

/-! ### Pieces without strings -/

theorem all_isBlank_squashPlain (h : s.all isBlank = false) (atStart : Bool) :
    (squashPlain s atStart).all isBlank = false := by
  obtain ⟨c, hc, hblank⟩ := List.all_eq_false.1 h
  obtain ⟨left, right, rfl⟩ := List.append_of_mem hc
  rw [squashPlain_eq h, collapse_append_cons (by simpa using hblank)]
  simp [hblank]

theorem collapse_of_indented (h : s.all isBlank = false) (hhead : s.head?.any isBlank = true) :
    collapse false s = ' ' :: joinWith [' '] (words s) ++
      (if s.getLast?.any isBlank then [' '] else []) := by
  simp [collapse_eq h, hhead]

theorem indent_squashPlain (h : s.all isBlank = false) (atStart : Bool) :
    indent (squashPlain s atStart) atStart = indent s atStart := by
  rw [squashPlain_eq h]
  by_cases hindent : atStart = true ∧ s.head?.any isBlank = true ∧ s[1]? = some ' '
  · -- The first blank of the text is collapsed to a second space.
    have hblank : isBlank ' ' = true := rfl
    simp [indent, hindent, collapse_of_indented h hindent.2.1, hblank]
  · have hnone : indent s atStart = [] := if_neg hindent
    rw [hnone, List.nil_append, indent, if_neg]
    rintro ⟨-, hhead, hsecond⟩
    exact getElem?_one_collapse hhead hsecond

theorem collapse_squashPlain (h : s.all isBlank = false) (atStart : Bool) :
    collapse false (squashPlain s atStart) = collapse false s := by
  rw [squashPlain_eq h, indent]
  split
  · rename_i hindent
    have hblank : isBlank ' ' = true := rfl
    conv => rhs; rw [← collapse_collapse]
    simp [collapse_of_indented h hindent.2.1, collapse, hblank]
  · rw [List.nil_append, collapse_collapse]

theorem squashPlain_squashPlain (s : List Char) (atStart : Bool) :
    squashPlain (squashPlain s atStart) atStart = squashPlain s atStart := by
  cases h : s.all isBlank with
  | true =>
    rw [squashPlain_of_all_isBlank h]
    rfl
  | false =>
    conv => lhs; rw [squashPlain_eq (all_isBlank_squashPlain h atStart)]
    rw [indent_squashPlain h, collapse_squashPlain h, squashPlain_eq h]

theorem filter_squashPlain (s : List Char) (atStart : Bool) :
    (squashPlain s atStart).filter (!isBlank ·) = s.filter (!isBlank ·) := by
  cases h : s.all isBlank with
  | true =>
    rw [squashPlain_of_all_isBlank h]
    exact (List.filter_eq_nil_iff.2 fun c hc => by simp [List.all_eq_true.1 h c hc]).symm
  | false =>
    have hindent : (indent s atStart).filter (!isBlank ·) = [] := by
      unfold indent
      split <;> rfl
    rw [squashPlain_eq h, List.filter_append, hindent, filter_collapse, List.nil_append]

theorem eq_of_mem_indent {c : Char} (h : c ∈ indent s atStart) : c = ' ' := by
  unfold indent at h
  split at h
  · exact List.mem_singleton.1 h
  · cases h

theorem eq_or_mem_of_mem_squashPlain {c : Char} (h : c ∈ squashPlain s atStart) :
    c = ' ' ∨ c ∈ s := by
  cases hall : s.all isBlank with
  | true =>
    rw [squashPlain_of_all_isBlank hall] at h
    cases h
  | false =>
    rw [squashPlain_eq hall] at h
    obtain h | h := List.mem_append.1 h
    · exact .inl (eq_of_mem_indent h)
    · exact eq_or_mem_of_mem_collapse h

theorem quote_not_mem_squashPlain (h : '"' ∉ s) (atStart : Bool) :
    '"' ∉ squashPlain s atStart := by
  intro hmem
  obtain heq | hmem := eq_or_mem_of_mem_squashPlain hmem
  · cases heq
  · exact h hmem

/-! ### Strings stay where they are -/

/-- Whether a string that has been opened is closed. -/
def closes (s : List Char) : Bool :=
  (closeQuote s).isSome

theorem closes_cons {c : Char} (hquote : c ≠ '"') (hslash : c ≠ '\\') (rest : List Char) :
    closes (c :: rest) = closes rest := by
  rw [closes, closeQuote_char rest hquote hslash, Option.isSome_map, closes]

theorem closes_escape (c : Char) (rest : List Char) :
    closes ('\\' :: c :: rest) = closes rest := by
  rw [closes, closeQuote, Option.isSome_map, closes]

theorem closes_cons_of_isBlank {c : Char} (h : isBlank c = true) (rest : List Char) :
    closes (c :: rest) = closes rest := by
  refine closes_cons ?_ ?_ rest
  · rintro rfl
    cases h
  · rintro rfl
    cases h

/-- A backslash before some blanks escapes one of them, and so does one before the space that is
left of them. -/
theorem closes_escape_collapse
    (hcollapse : ∀ t, t.length ≤ s.length → closes (collapse false t) = closes t) :
    closes ('\\' :: collapse true s) = closes s := by
  induction s with
  | nil => rfl
  | cons c rest ih =>
    rw [collapse]
    cases hc : isBlank c with
    | true =>
      rw [if_pos rfl, closes_cons_of_isBlank hc]
      exact ih fun t ht => hcollapse t (by simp; omega)
    | false =>
      have hrest := hcollapse (c :: rest) (Nat.le_refl _)
      rw [collapse, hc, if_neg Bool.false_ne_true, if_neg Bool.false_ne_true,
        List.nil_append] at hrest
      rw [if_neg Bool.false_ne_true, if_pos rfl, List.singleton_append, closes_escape, hrest]

theorem closes_collapse (pending : Bool) (s : List Char) :
    closes (collapse pending s) = closes s := by
  -- By induction on the length, since an escaped character is skipped with its backslash.
  induction hn : s.length using Nat.strongRecOn generalizing s pending with
  | ind n ih =>
    cases s with
    | nil => cases pending <;> rfl
    | cons c rest =>
      rw [List.length_cons] at hn
      rw [collapse]
      cases hc : isBlank c with
      | true =>
        rw [if_pos rfl, closes_cons_of_isBlank hc]
        exact ih rest.length (by omega) true rest rfl
      | false =>
        have hlead : closes ((if pending then [' '] else []) ++ c :: collapse false rest) =
            closes (c :: collapse false rest) := by
          cases pending with
          | true => exact closes_cons_of_isBlank rfl _
          | false => rfl
        rw [if_neg Bool.false_ne_true, hlead]
        by_cases hquote : c = '"'
        · rw [hquote]
          rfl
        by_cases hslash : c = '\\'
        · subst hslash
          cases rest with
          | nil => rfl
          | cons d rest =>
            rw [List.length_cons] at hn
            rw [closes_escape, collapse]
            cases hd : isBlank d with
            | true =>
              exact closes_escape_collapse fun t ht => ih t.length (by omega) false t rfl
            | false =>
              rw [if_neg Bool.false_ne_true, if_neg Bool.false_ne_true, List.nil_append,
                closes_escape]
              exact ih rest.length (by omega) false rest rfl
        · rw [closes_cons hquote hslash, closes_cons hquote hslash]
          exact ih rest.length (by omega) false rest rfl

theorem squash_of_none (h : splitQuoted s = none) (atStart : Bool) :
    squash s atStart = squashPlain s atStart := by
  rw [squash]
  split
  · rfl
  · simp_all

theorem squash_of_some (h : splitQuoted s = some (before, quoted, after)) (atStart : Bool) :
    squash s atStart = squashPlain before atStart ++ quoted ++ squash after false := by
  have hbefore : splitQuoted before = none :=
    splitQuoted_eq_none_of_not_mem (splitQuoted_eq_some_iff.1 h).1
  rw [squash]
  split
  · simp_all
  · rename_i found
    rw [h] at found
    obtain ⟨rfl, rfl, rfl⟩ := by simpa using found
    rw [squash_of_none hbefore]

theorem eq_or_mem_of_mem_squash {c : Char} (h : c ∈ squash s atStart) : c = ' ' ∨ c ∈ s := by
  induction s using stringInduction generalizing atStart with
  | plain s hsplit =>
    rw [squash_of_none hsplit] at h
    exact eq_or_mem_of_mem_squashPlain h
  | string s before quoted after hsplit ih =>
    obtain ⟨-, -, rfl⟩ := splitQuoted_eq_some_iff.1 hsplit
    rw [squash_of_some hsplit, List.mem_append, List.mem_append] at h
    rw [List.mem_append, List.mem_append]
    rcases h with (h | h) | h
    · exact (eq_or_mem_of_mem_squashPlain h).imp_right (.inl ∘ .inl)
    · exact .inr (.inl (.inr h))
    · exact (ih h).imp_right .inr

theorem splitQuoted_squashPlain (h : splitQuoted s = none) (atStart : Bool) :
    splitQuoted (squashPlain s atStart) = none := by
  by_cases hquote : '"' ∈ s
  · obtain ⟨left, right, rfl, hleft⟩ := List.eq_append_cons_of_mem hquote
    have hall : (left ++ '"' :: right).all isBlank = false := by simp [isBlank]
    have hindent : '"' ∉ indent (left ++ '"' :: right) atStart := fun hmem =>
      absurd (eq_of_mem_indent hmem) (by decide)
    have hlead : '"' ∉ indent (left ++ '"' :: right) atStart ++ collapse false left := by
      rw [List.mem_append, not_or]
      refine ⟨hindent, fun hmem => ?_⟩
      obtain heq | hmem := eq_or_mem_of_mem_collapse hmem
      · cases heq
      · exact hleft hmem
    rw [splitQuoted_append_cons hleft, ← Option.isNone_iff_eq_none, ← Option.not_isSome] at h
    rw [squashPlain_eq hall, collapse_append_cons rfl, ← List.append_assoc,
      splitQuoted_append_cons hlead, ← Option.isNone_iff_eq_none, ← Option.not_isSome]
    exact (congrArg _ (closes_collapse false right)).trans h
  · exact splitQuoted_eq_none_of_not_mem (quote_not_mem_squashPlain hquote atStart)

/-- **Strings stay where they are.**  A squashed text is cut at its first string as the text is,
with the pieces around the string squashed. -/
theorem splitQuoted_squash (h : splitQuoted s = some (before, quoted, after)) (atStart : Bool) :
    splitQuoted (squash s atStart) =
      some (squashPlain before atStart, quoted, squash after false) := by
  obtain ⟨hbefore, hstring, -⟩ := splitQuoted_eq_some_iff.1 h
  rw [squash_of_some h]
  exact splitQuoted_eq_some_iff.2 ⟨quote_not_mem_squashPlain hbefore atStart, hstring, rfl⟩

/-! ### Squashing a squashed text -/

/-- The text without the blanks outside its complete strings. -/
def solid (s : List Char) : List Char :=
  match found : splitQuoted s with
  | none => s.filter (!isBlank ·)
  | some (before, quoted, after) =>
    have := length_splitQuoted found
    before.filter (!isBlank ·) ++ quoted ++ solid after
termination_by s.length
decreasing_by exact this.2

theorem solid_of_none (h : splitQuoted s = none) : solid s = s.filter (!isBlank ·) := by
  rw [solid]
  split
  · rfl
  · simp_all

theorem solid_of_some (h : splitQuoted s = some (before, quoted, after)) :
    solid s = before.filter (!isBlank ·) ++ quoted ++ solid after := by
  rw [solid]
  split <;> simp_all

theorem squash_squash (s : List Char) (atStart : Bool) :
    squash (squash s atStart) atStart = squash s atStart := by
  induction s using stringInduction generalizing atStart with
  | plain s h =>
    rw [squash_of_none h, squash_of_none (splitQuoted_squashPlain h atStart),
      squashPlain_squashPlain]
  | string s before quoted after h ih =>
    rw [squash_of_some (splitQuoted_squash h atStart), squashPlain_squashPlain, ih,
      squash_of_some h]

theorem strings_squash (s : List Char) (atStart : Bool) :
    strings (squash s atStart) = strings s := by
  induction s using stringInduction generalizing atStart with
  | plain s h =>
    rw [squash_of_none h, strings_of_none h, strings_of_none (splitQuoted_squashPlain h atStart)]
  | string s before quoted after h ih =>
    rw [strings_of_some h, strings_of_some (splitQuoted_squash h atStart), ih]

theorem solid_squash (s : List Char) (atStart : Bool) : solid (squash s atStart) = solid s := by
  induction s using stringInduction generalizing atStart with
  | plain s h =>
    rw [squash_of_none h, solid_of_none h, solid_of_none (splitQuoted_squashPlain h atStart),
      filter_squashPlain]
  | string s before quoted after h ih =>
    rw [solid_of_some h, solid_of_some (splitQuoted_squash h atStart), filter_squashPlain, ih]

/-- **Squashing is idempotent and loses nothing but blanks.**  A squashed text stays as it is when
it is squashed again, it has the complete strings of the text in their order, and without the blanks
outside the strings the two are the same. -/
theorem squash_keeps_content (s : List Char) (atStart : Bool) :
    squash (squash s atStart) atStart = squash s atStart ∧
      strings (squash s atStart) = strings s ∧ solid (squash s atStart) = solid s :=
  ⟨squash_squash s atStart, strings_squash s atStart, solid_squash s atStart⟩

/-- A backslash escapes a blank in a string that is not closed, and a quote in one that is. -/
example :
    squash "  x  \"a\\\"  b\"  \"\\  y ".toList true = "  x \"a\\\"  b\" \"\\ y ".toList := by
  decide +kernel

end AsmExplorer.Text
