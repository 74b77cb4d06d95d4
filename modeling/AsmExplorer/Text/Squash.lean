import AsmExplorer.Text.Blank

/-!
# Squashing blanks

`Text.squash` collapses every run of blanks outside complete quoted strings to one space.  The
indentation of a line keeps at most two spaces, and a piece of blanks only disappears.
-/

namespace AsmExplorer.Text

/-- A string literal up to its closing quote and what follows it; the opening quote has been read.
A backslash escapes the next character. -/
def closeQuote : List Char → Option (List Char × List Char)
  | [] => none
  | '"' :: rest => some (['"'], rest)
  | '\\' :: c :: rest => (closeQuote rest).map fun (s, after) => ('\\' :: c :: s, after)
  | c :: rest => (closeQuote rest).map fun (s, after) => (c :: s, after)

theorem length_closeQuote {s quoted after : List Char} (h : closeQuote s = some (quoted, after)) :
    after.length < s.length := by
  fun_induction closeQuote s generalizing quoted with
  | case1 => simp at h
  | case2 rest => simp_all
  | case3 c rest ih =>
    obtain ⟨⟨t, a⟩, ht, he⟩ := Option.map_eq_some_iff.1 h
    simp only [Prod.mk.injEq] at he
    have := ih (he.2 ▸ ht)
    simp only [List.length_cons]
    omega
  | case4 c rest _ _ ih =>
    obtain ⟨⟨t, a⟩, ht, he⟩ := Option.map_eq_some_iff.1 h
    simp only [Prod.mk.injEq] at he
    have := ih (he.2 ▸ ht)
    simp only [List.length_cons]
    omega

/-- Cuts a text at its first quote if the string that opens there is closed: the text before it,
the string with its quotes, and the text after it. -/
def splitQuoted (s : List Char) : Option (List Char × List Char × List Char) :=
  match splitFirst '"' s with
  | none => none
  | some (before, rest) =>
    (closeQuote rest).map fun (quoted, after) => (before, '"' :: quoted, after)

theorem length_splitFirst {mark : Char} {s before after : List Char}
    (h : splitFirst mark s = some (before, after)) :
    before.length < s.length ∧ after.length < s.length := by
  induction s generalizing before with
  | nil => simp [splitFirst] at h
  | cons c rest ih =>
    unfold splitFirst at h
    split at h
    · simp_all
    · obtain ⟨⟨b, a⟩, ht, he⟩ := Option.map_eq_some_iff.1 h
      simp only [Prod.mk.injEq] at he
      have := ih (he.2 ▸ ht)
      simp only [← he.1, List.length_cons]
      omega

theorem length_splitQuoted {s before quoted after : List Char}
    (h : splitQuoted s = some (before, quoted, after)) :
    before.length < s.length ∧ after.length < s.length := by
  unfold splitQuoted at h
  split at h
  · simp at h
  · rename_i b rest hs
    obtain ⟨⟨q, a⟩, ht, he⟩ := Option.map_eq_some_iff.1 h
    simp only [Prod.mk.injEq] at he
    have h1 := length_splitFirst hs
    have h2 := length_closeQuote ht
    rw [← he.1, ← he.2.2]
    exact ⟨h1.1, by omega⟩

/-- The space that stands for the blanks at the start of a piece: two at the start of a line that
has a space in its second column. -/
def leadSpace (s : List Char) (atStart : Bool) : List Char :=
  if s.head?.any isBlank then if atStart ∧ s[1]? = some ' ' then [' ', ' '] else [' '] else []

/-- Squashes a piece without strings. -/
def squashPlain (s : List Char) (atStart : Bool) : List Char :=
  if s.all isBlank then []
  else
    leadSpace s atStart ++ joinWith [' '] (words s) ++
      (if s.getLast?.any isBlank then [' '] else [])

/-- Squashes the blanks of a text outside its complete strings. -/
def squash (s : List Char) (atStart : Bool) : List Char :=
  match found : splitQuoted s with
  | none => squashPlain s atStart
  | some (before, quoted, after) =>
    have := length_splitQuoted found
    squash before atStart ++ quoted ++ squash after false
termination_by s.length
decreasing_by
  · exact this.1
  · exact this.2

end AsmExplorer.Text
