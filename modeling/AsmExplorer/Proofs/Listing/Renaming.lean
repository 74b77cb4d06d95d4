import AsmExplorer.Listing.Gas
import Mathlib.Data.List.Basic
import Mathlib.Data.List.TakeWhile

/-!
# Renaming the symbols of a listing

A demangler rewrites the words of a listing that are names and leaves all else as it is.  A word is
a maximal run of the characters that names are made of.  Words that begin with a dot or a digit are
the assembler's own, directives and numbers, and keep their spelling.

* `Gas.Renaming` : what a demangler does to the words of a listing.
* `Gas.Renaming.text` : what it makes of a line, word by word (`Gas.wordInduction`).
* `Gas.Renaming.inside` : the same for the rest of a word that is left as it is.
* `Gas.Renaming.single` : the renaming of one word.

A name may become any text that begins as names do, such as `square(int)` or `ns::f`.
-/

namespace AsmExplorer

namespace Gas

open Text

variable {s t u v w line : List Char} {c : Char}

/-! ### Words -/

/-- Characters of the words of a line: those of a name, without the `@` that begins a suffix. -/
def isWordChar (c : Char) : Bool :=
  (isWord c && !isBlank c) || c == '$' || c == '.'

/-- A word. -/
structure IsWord (w : List Char) : Prop where
  ne_nil : w ≠ []
  isWordChar : ∀ c ∈ w, isWordChar c = true

/-- Whether a character begins one of the assembler's own words: a directive or a number. -/
def beginsOwn (c : Char) : Bool :=
  c == '.' || isDigit c

/-- Whether a text does not begin within a word. -/
def atBoundary (s : List Char) : Bool :=
  !s.head?.any isWordChar

theorem isBlank_of_isWordChar (h : isWordChar c = true) : isBlank c = false := by
  have hdollar : isBlank '$' = false := rfl
  have hdot : isBlank '.' = false := rfl
  simp only [isWordChar, Bool.or_eq_true, Bool.and_eq_true, Bool.not_eq_true', beq_iff_eq] at h
  obtain (⟨-, hblank⟩ | rfl) | rfl := h
  · exact hblank
  · exact hdollar
  · exact hdot

theorem isWordChar_eq_false_of_isBlank (h : isBlank c = true) : isWordChar c = false := by
  rw [← Bool.not_eq_true]
  intro hword
  rw [isBlank_of_isWordChar hword] at h
  cases h

theorem isNameChar_of_isWordChar (h : isWordChar c = true) : isNameChar c = true := by
  simp only [isWordChar, isNameChar, Bool.or_eq_true, Bool.and_eq_true] at h ⊢
  obtain (⟨hword, -⟩ | hdollar) | hdot := h
  · exact .inl (.inl (.inl hword))
  · exact .inl (.inl (.inr hdollar))
  · exact .inl (.inr hdot)

theorem isSymbolChar_of_isNameChar (h : isNameChar c = true) : Scan.isSymbolChar c = true := by
  simp only [isNameChar, Scan.isSymbolChar, Bool.or_eq_true] at h ⊢
  exact .inl h

theorem atBoundary_cons (h : isWordChar c = false) (s : List Char) :
    atBoundary (c :: s) = true := by
  simp [atBoundary, h]

theorem ne_of_isWordChar {d : Char} (hc : isWordChar c = true) (hd : isWordChar d = false) :
    c ≠ d := by
  rintro rfl
  rw [hc] at hd
  cases hd

theorem word_cases (s : List Char) : s = [] ∨ (∃ c t, s = c :: t ∧ isWordChar c = false) ∨
    ∃ w t, s = w ++ t ∧ IsWord w ∧ atBoundary t = true := by
  cases s with
  | nil => exact .inl rfl
  | cons c t =>
    cases hc : isWordChar c with
    | false => exact .inr (.inl ⟨c, t, rfl, hc⟩)
    | true =>
      refine .inr (.inr ⟨(c :: t).takeWhile isWordChar, (c :: t).dropWhile isWordChar,
        List.takeWhile_append_dropWhile.symm, ⟨by simp [hc], fun d hd => List.mem_takeWhile_imp hd⟩,
        ?_⟩)
      have hhead := List.head?_dropWhile_not isWordChar (c :: t)
      cases hrest : ((c :: t).dropWhile isWordChar).head? with
      | none => simp [atBoundary, hrest]
      | some d =>
        rw [hrest] at hhead
        simpa [atBoundary, hrest] using hhead

/-- Induction along the words of a text. -/
theorem wordInduction {P : List Char → Prop} (nil : P [])
    (other : ∀ c t, isWordChar c = false → P t → P (c :: t))
    (word : ∀ w t, IsWord w → atBoundary t = true → P t → P (w ++ t)) (s : List Char) : P s := by
  induction hn : s.length using Nat.strongRecOn generalizing s with
  | ind n ih =>
    obtain rfl | ⟨c, t, rfl, hc⟩ | ⟨w, t, rfl, hw, ht⟩ := word_cases s
    · exact nil
    · rw [List.length_cons] at hn
      exact other c t hc (ih t.length (by omega) t rfl)
    · have hpos := List.length_pos_iff.2 hw.ne_nil
      rw [List.length_append] at hn
      exact word w t hw ht (ih t.length (by omega) t rfl)

theorem prefix_append_iff {p : List Char} (hp : ∀ c ∈ p, isWordChar c = true)
    (ht : atBoundary t = true) : p <+: u ++ t ↔ p <+: u := by
  constructor
  · intro h
    induction u generalizing p with
    | nil =>
      cases p with
      | nil => exact List.nil_prefix
      | cons c p =>
        obtain ⟨rest, hrest⟩ := h
        have hc : isWordChar c = true := hp c List.mem_cons_self
        rw [List.nil_append] at hrest
        simp [atBoundary, ← hrest, hc] at ht
    | cons d u ih =>
      cases p with
      | nil => exact List.nil_prefix
      | cons c p =>
        rw [List.cons_append, List.cons_prefix_cons] at h
        rw [List.cons_prefix_cons]
        exact ⟨h.1, ih (fun e he => hp e (List.mem_cons_of_mem c he)) h.2⟩
  · intro h
    exact h.trans (List.prefix_append u t)

/-! ### Renamings -/

/-- What a demangler makes of the words of a listing.  The assembler's own words are left as they
are.  Any other word gets a name that begins as names do, that has no suffix, and that is the name
of a debug intrinsic only if the word is. -/
structure Renaming where
  /-- The new name of a word. -/
  rename : List Char → List Char
  fixed : ∀ w, IsWord w → w.head?.any beginsOwn = true → rename w = w
  starts : ∀ w, IsWord w → w.head?.any beginsOwn = false →
    ∃ c rest, rename w = c :: rest ∧ isWordChar c = true ∧ beginsOwn c = false
  no_suffix : ∀ w, IsWord w → '@' ∉ rename w
  debug : ∀ w, IsWord w → ("llvm.dbg.".toList <+: rename w ↔ "llvm.dbg.".toList <+: w)

namespace Renaming

/-- Renames the words of a text; `word` are the characters of the first word read before it. -/
def textFrom (ρ : Renaming) (word : List Char) : List Char → List Char
  | [] => if word.isEmpty then [] else ρ.rename word
  | c :: rest =>
    if isWordChar c then ρ.textFrom (word ++ [c]) rest
    else (if word.isEmpty then [] else ρ.rename word) ++ c :: ρ.textFrom [] rest

/-- Renames the words of a text. -/
def text (ρ : Renaming) (s : List Char) : List Char :=
  ρ.textFrom [] s

/-- Renames the words of a text but for the one within which it begins. -/
def inside (ρ : Renaming) (s : List Char) : List Char :=
  s.takeWhile isWordChar ++ ρ.text (s.dropWhile isWordChar)

variable (ρ : Renaming)

@[simp] theorem text_nil : ρ.text [] = [] := rfl

theorem textFrom_append_cons (hc : isWordChar c = false) (word u v : List Char) :
    ρ.textFrom word (u ++ c :: v) = ρ.textFrom word u ++ c :: ρ.text v := by
  induction u generalizing word with
  | nil => simp [textFrom, hc, text]
  | cons d u ih =>
    rw [List.cons_append, textFrom, textFrom]
    split
    · exact ih _
    · simp [ih]

theorem text_append_cons (hc : isWordChar c = false) (u v : List Char) :
    ρ.text (u ++ c :: v) = ρ.text u ++ c :: ρ.text v :=
  ρ.textFrom_append_cons hc [] u v

theorem text_cons (hc : isWordChar c = false) (t : List Char) : ρ.text (c :: t) = c :: ρ.text t :=
  ρ.text_append_cons hc [] t

theorem textFrom_of_isWordChar (hu : ∀ c ∈ u, isWordChar c = true) (word : List Char) :
    ρ.textFrom word u = if (word ++ u).isEmpty then [] else ρ.rename (word ++ u) := by
  induction u generalizing word with
  | nil => rw [textFrom, List.append_nil]
  | cons c u ih =>
    rw [textFrom, if_pos (hu c List.mem_cons_self), ih fun d hd => hu d (List.mem_cons_of_mem c hd)]
    simp

theorem text_word (hw : IsWord w) : ρ.text w = ρ.rename w := by
  rw [text, ρ.textFrom_of_isWordChar hw.isWordChar, if_neg (by simp [hw.ne_nil]), List.nil_append]

theorem text_append (hw : IsWord w) (ht : atBoundary t = true) :
    ρ.text (w ++ t) = ρ.rename w ++ ρ.text t := by
  cases t with
  | nil => rw [List.append_nil, ρ.text_word hw, text_nil, List.append_nil]
  | cons c t =>
    have hc : isWordChar c = false := by simpa [atBoundary] using ht
    rw [ρ.text_append_cons hc, ρ.text_word hw, ρ.text_cons hc]

/-- A test of the first character has the same outcome after renaming, if all characters that begin
a name have one outcome. -/
theorem any_head?_text {p : Char → Bool} {b : Bool}
    (hp : ∀ c, isWordChar c = true → beginsOwn c = false → p c = b) (s : List Char) :
    (ρ.text s).head?.any p = s.head?.any p := by
  obtain rfl | ⟨c, t, rfl, hc⟩ | ⟨w, t, rfl, hw, ht⟩ := word_cases s
  · rfl
  · rw [ρ.text_cons hc]
    rfl
  · obtain ⟨c, rest, rfl⟩ := List.exists_cons_of_ne_nil hw.ne_nil
    have hc : isWordChar c = true := hw.isWordChar c List.mem_cons_self
    rw [ρ.text_append hw ht]
    cases hown : beginsOwn c with
    | true => rw [ρ.fixed (c :: rest) hw hown]; rfl
    | false =>
      obtain ⟨d, more, hname, hd, hdown⟩ := ρ.starts (c :: rest) hw hown
      simp [hname, hp c hc hown, hp d hd hdown]

theorem any_head?_text_of_not_mem {d : Char} (hd : isWordChar d = false) (s : List Char) :
    (ρ.text s).head?.any (· == d) = s.head?.any (· == d) :=
  ρ.any_head?_text (fun _ hc _ => beq_eq_false_iff_ne.2 (ne_of_isWordChar hc hd)) s

theorem any_isBlank_head?_text (s : List Char) :
    (ρ.text s).head?.any isBlank = s.head?.any isBlank :=
  ρ.any_head?_text (fun _ hc _ => isBlank_of_isWordChar hc) s

/-! ### Within a word -/

theorem inside_cons (hc : isWordChar c = true) (s : List Char) :
    ρ.inside (c :: s) = c :: ρ.inside s := by
  simp [inside, hc]

theorem inside_of_atBoundary (h : atBoundary s = true) : ρ.inside s = ρ.text s := by
  cases s with
  | nil => rfl
  | cons c s =>
    have hc : isWordChar c = false := by simpa [atBoundary] using h
    simp [inside, hc]

theorem inside_append (hw : ∀ c ∈ w, isWordChar c = true) (s : List Char) :
    ρ.inside (w ++ s) = w ++ ρ.inside s := by
  induction w with
  | nil => rfl
  | cons c w ih =>
    rw [List.cons_append, ρ.inside_cons (hw c List.mem_cons_self),
      ih fun d hd => hw d (List.mem_cons_of_mem c hd), List.cons_append]

@[simp] theorem head?_inside (s : List Char) : (ρ.inside s).head? = s.head? := by
  cases s with
  | nil => rfl
  | cons c s =>
    cases hc : isWordChar c with
    | true => rw [ρ.inside_cons hc]; rfl
    | false => rw [ρ.inside_of_atBoundary (atBoundary_cons hc s), ρ.text_cons hc]; rfl

/-- The first word keeps its spelling unless a name begins here. -/
theorem text_eq_inside (h : s.head?.any (fun c => isWordChar c && !beginsOwn c) = false) :
    ρ.text s = ρ.inside s := by
  obtain rfl | ⟨c, t, rfl, hc⟩ | ⟨w, t, rfl, hw, ht⟩ := word_cases s
  · rfl
  · rw [ρ.inside_of_atBoundary (atBoundary_cons hc t)]
  · have hown : w.head?.any beginsOwn = true := by
      obtain ⟨c, rest, rfl⟩ := List.exists_cons_of_ne_nil hw.ne_nil
      have hc : isWordChar c = true := hw.isWordChar c List.mem_cons_self
      simpa [hc] using h
    rw [ρ.text_append hw ht, ρ.fixed w hw hown, ρ.inside_append hw.isWordChar,
      ρ.inside_of_atBoundary ht]

/-- A run of word characters begins a text exactly if it does so after renaming, if that is so of
all words. -/
theorem prefix_text_iff {p : List Char} (hne : p ≠ []) (hall : p.all isWordChar = true)
    (hwords : ∀ w, IsWord w → (p <+: ρ.rename w ↔ p <+: w)) (s : List Char) :
    p <+: ρ.text s ↔ p <+: s := by
  have hp : ∀ c ∈ p, isWordChar c = true := List.all_eq_true.1 hall
  obtain rfl | ⟨c, t, rfl, hc⟩ | ⟨w, t, rfl, hw, ht⟩ := word_cases s
  · rfl
  · have hnot (rest : List Char) : ¬ p <+: c :: rest := by
      obtain ⟨d, p, rfl⟩ := List.exists_cons_of_ne_nil hne
      intro h
      exact ne_of_isWordChar (hp d List.mem_cons_self) hc (List.cons_prefix_cons.1 h).1
    rw [ρ.text_cons hc]
    exact iff_of_false (hnot _) (hnot _)
  · have ht' : atBoundary (ρ.text t) = true := by
      cases t with
      | nil => rfl
      | cons c t =>
        have hc : isWordChar c = false := by simpa [atBoundary] using ht
        rw [ρ.text_cons hc]
        exact atBoundary_cons hc _
    rw [ρ.text_append hw ht, prefix_append_iff hp ht', prefix_append_iff hp ht, hwords w hw]

theorem prefix_rename_iff_of_own {p : List Char} (hp : p.head?.any beginsOwn = true)
    (hw : IsWord w) : p <+: ρ.rename w ↔ p <+: w := by
  cases hown : w.head?.any beginsOwn with
  | true => rw [ρ.fixed w hw hown]
  | false =>
    obtain ⟨d, p, rfl⟩ : ∃ d q, p = d :: q := by
      cases p with
      | nil => simp at hp
      | cons d q => exact ⟨d, q, rfl⟩
    have hnot : ∀ {c : Char} {rest : List Char}, beginsOwn c = false → ¬ d :: p <+: c :: rest := by
      intro c rest hc h
      obtain ⟨rfl, -⟩ := List.cons_prefix_cons.1 h
      have hd : beginsOwn d = true := hp
      rw [hd] at hc
      cases hc
    obtain ⟨c, rest, hname, -, hc⟩ := ρ.starts w hw hown
    obtain ⟨e, w, rfl⟩ := List.exists_cons_of_ne_nil hw.ne_nil
    rw [hname]
    exact iff_of_false (hnot hc) (hnot hown)

/-! ### One name -/

theorem at_not_mem (hw : IsWord w) : '@' ∉ w := by
  have hat : isWordChar '@' = false := rfl
  exact fun h => ne_of_isWordChar (hw.isWordChar '@' h) hat rfl

/-- Renames one word. -/
def single (old new : List Char) (hold : old.head?.any beginsOwn = false)
    (hnew : new.head?.any (fun c => isWordChar c && !beginsOwn c) = true) (hsuffix : '@' ∉ new)
    (hdebug : "llvm.dbg.".toList <+: new ↔ "llvm.dbg.".toList <+: old) : Renaming where
  rename w := if w = old then new else w
  fixed w _ hown := by
    refine if_neg ?_
    rintro rfl
    rw [hold] at hown
    cases hown
  starts w hw hown := by
    split
    · obtain ⟨c, hc, htest⟩ := (Option.any_eq_true _ _).1 hnew
      obtain ⟨rest, rfl⟩ := List.head?_eq_some_iff.1 hc
      rw [Bool.and_eq_true, Bool.not_eq_true'] at htest
      exact ⟨c, rest, rfl, htest⟩
    · obtain ⟨c, rest, rfl⟩ := List.exists_cons_of_ne_nil hw.ne_nil
      exact ⟨c, rest, rfl, hw.isWordChar c List.mem_cons_self, hown⟩
  no_suffix w hw := by
    split
    · exact hsuffix
    · exact at_not_mem hw
  debug w _ := by
    split
    · rename_i heq
      rw [heq, hdebug]
    · rfl

end Renaming

end Gas

end AsmExplorer
