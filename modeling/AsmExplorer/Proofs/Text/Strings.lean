import AsmExplorer.Proofs.Text.Percent
import AsmExplorer.Text.Squash

/-!
# Complete strings

A complete string runs from a quote to the next quote that no backslash escapes.  A text is cut at
the first quote in it, if the string that opens there is complete.

* `Text.IsString` : what a complete string is.
* `Text.splitQuoted_eq_some_iff` : **a text is cut into what stands before the first quote, the
  complete string there, and the rest.**
* `Text.strings` : the complete strings of a text, in order.
-/

namespace AsmExplorer.Text

variable {s before quoted after : List Char}

/-- What stands between the quotes of a string: characters that are neither a quote nor a backslash,
and backslashes each with the character that it escapes. -/
inductive IsBody : List Char → Prop where
  | nil : IsBody []
  | char {c : Char} {rest : List Char} (hquote : c ≠ '"') (hslash : c ≠ '\\') (h : IsBody rest) :
      IsBody (c :: rest)
  | escape {c : Char} {rest : List Char} (h : IsBody rest) : IsBody ('\\' :: c :: rest)

/-- A complete string, with its quotes. -/
def IsString (s : List Char) : Prop :=
  ∃ body, IsBody body ∧ s = '"' :: (body ++ ['"'])

/-! ### Where a string ends -/

theorem closeQuote_char {c : Char} (rest : List Char) (hquote : c ≠ '"') (hslash : c ≠ '\\') :
    closeQuote (c :: rest) = (closeQuote rest).map fun (s, after) => (c :: s, after) := by
  rw [closeQuote]
  · exact hquote
  · rintro _ _ rfl
    exact absurd rfl hslash

theorem closeQuote_append {body : List Char} (h : IsBody body) (after : List Char) :
    closeQuote (body ++ '"' :: after) = some (body ++ ['"'], after) := by
  induction h with
  | nil => rfl
  | char hquote hslash _ ih =>
    rw [List.cons_append, closeQuote_char _ hquote hslash, ih]
    rfl
  | escape _ ih =>
    rw [List.cons_append, List.cons_append, closeQuote, ih]
    rfl

theorem exists_of_closeQuote (h : closeQuote s = some (quoted, after)) :
    ∃ body, IsBody body ∧ quoted = body ++ ['"'] ∧ s = quoted ++ after := by
  fun_induction closeQuote s generalizing quoted with
  | case1 => cases h
  | case2 rest =>
    obtain ⟨rfl, rfl⟩ := Prod.mk.inj (Option.some.inj h)
    exact ⟨[], .nil, rfl, rfl⟩
  | case3 c rest ih =>
    obtain ⟨⟨t, a⟩, ht, heq⟩ := Option.map_eq_some_iff.1 h
    obtain ⟨rfl, rfl⟩ := Prod.mk.inj heq
    obtain ⟨body, hbody, rfl, rfl⟩ := ih ht
    exact ⟨'\\' :: c :: body, .escape hbody, rfl, rfl⟩
  | case4 c rest hquote hslash ih =>
    obtain ⟨⟨t, a⟩, ht, heq⟩ := Option.map_eq_some_iff.1 h
    obtain ⟨rfl, rfl⟩ := Prod.mk.inj heq
    obtain ⟨body, hbody, rfl, rfl⟩ := ih ht
    -- A backslash with nothing after it would close no string.
    have hplain : c ≠ '\\' := by
      rintro rfl
      cases body <;> exact hslash _ _ rfl rfl
    exact ⟨c :: body, .char hquote hplain hbody, rfl, rfl⟩

theorem closeQuote_eq_some_iff : closeQuote s = some (quoted, after) ↔
    ∃ body, IsBody body ∧ quoted = body ++ ['"'] ∧ s = quoted ++ after := by
  constructor
  · exact exists_of_closeQuote
  · rintro ⟨body, hbody, rfl, rfl⟩
    rw [List.append_assoc]
    exact closeQuote_append hbody after

/-! ### The first string of a text -/

/-- **Cutting a text at its first string.**  Before the string stands no quote. -/
theorem splitQuoted_eq_some_iff : splitQuoted s = some (before, quoted, after) ↔
    '"' ∉ before ∧ IsString quoted ∧ s = before ++ quoted ++ after := by
  constructor
  · intro h
    unfold splitQuoted at h
    split at h
    · cases h
    · rename_i left rest hsplit
      obtain ⟨rfl, hleft⟩ := splitFirst_eq_some_iff.1 hsplit
      obtain ⟨⟨q, a⟩, hclose, heq⟩ := Option.map_eq_some_iff.1 h
      simp only [Prod.mk.injEq] at heq
      obtain ⟨rfl, rfl, rfl⟩ := heq
      obtain ⟨body, hbody, rfl, rfl⟩ := closeQuote_eq_some_iff.1 hclose
      exact ⟨hleft, ⟨body, hbody, rfl⟩, by simp⟩
  · rintro ⟨hbefore, ⟨body, hbody, rfl⟩, rfl⟩
    have hsplit : splitFirst '"' (before ++ '"' :: (body ++ '"' :: after)) =
        some (before, body ++ '"' :: after) :=
      splitFirst_eq_some_iff.2 ⟨rfl, hbefore⟩
    have hclose : closeQuote (body ++ '"' :: after) = some (body ++ ['"'], after) :=
      closeQuote_append hbody after
    simp [splitQuoted, hsplit, hclose]

theorem splitQuoted_eq_none_of_not_mem (h : '"' ∉ s) : splitQuoted s = none := by
  rw [Option.eq_none_iff_forall_ne_some]
  rintro ⟨before, quoted, after⟩ heq
  obtain ⟨-, ⟨body, -, rfl⟩, rfl⟩ := splitQuoted_eq_some_iff.1 heq
  exact h (by simp)

/-- A text with a quote has no complete string exactly if the string that the first quote opens is
not closed. -/
theorem splitQuoted_append_cons (hbefore : '"' ∉ before) (rest : List Char) :
    splitQuoted (before ++ '"' :: rest) = none ↔ closeQuote rest = none := by
  have hsplit : splitFirst '"' (before ++ '"' :: rest) = some (before, rest) :=
    splitFirst_eq_some_iff.2 ⟨rfl, hbefore⟩
  simp [splitQuoted, hsplit]

/-- Induction along the complete strings of a text. -/
theorem stringInduction {P : List Char → Prop} (plain : ∀ s, splitQuoted s = none → P s)
    (string : ∀ s before quoted after, splitQuoted s = some (before, quoted, after) → P after → P s)
    (s : List Char) : P s := by
  induction hn : s.length using Nat.strongRecOn generalizing s with
  | ind n ih =>
    cases hsplit : splitQuoted s with
    | none => exact plain s hsplit
    | some parts =>
      obtain ⟨before, quoted, after⟩ := parts
      have hlt : after.length < n := hn ▸ (length_splitQuoted hsplit).2
      exact string s before quoted after hsplit (ih after.length hlt after rfl)

/-- The complete strings of a text, in order. -/
def strings (s : List Char) : List (List Char) :=
  match found : splitQuoted s with
  | none => []
  | some (_, quoted, after) =>
    have := length_splitQuoted found
    quoted :: strings after
termination_by s.length
decreasing_by exact this.2

theorem strings_of_none (h : splitQuoted s = none) : strings s = [] := by
  rw [strings]
  split
  · rfl
  · simp_all

theorem strings_of_some (h : splitQuoted s = some (before, quoted, after)) :
    strings s = quoted :: strings after := by
  rw [strings]
  split <;> simp_all

end AsmExplorer.Text
