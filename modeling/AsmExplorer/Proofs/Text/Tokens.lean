import AsmExplorer.Proofs.Text.Squashing

/-!
# What squashing joins

A text is laid out as *tokens*, which are its complete strings and its other characters that are not
blank, with a gap of blanks before each of them and at the end.

* `Text.layout` : the tokens of a text and the gaps.
* `Text.layout_squash` : **a squashed text has the same tokens, and of a gap a space is left if it
  touches a token that is no string.**
* `Text.squash_separates` : so tokens stay apart, except for two strings with blanks between them:
  such blanks are a piece of their own, and a blank piece disappears.
-/

namespace AsmExplorer.Text

variable {s left gap : List Char}

/-! ### The layout of a text -/

/-- What blanks set apart. -/
inductive Token where
  /-- A character that is not blank, outside the complete strings. -/
  | char (c : Char)
  /-- A complete string, with its quotes. -/
  | string (quoted : List Char)
deriving DecidableEq

namespace Token

/-- The text of a token. -/
def text : Token → List Char
  | char c => [c]
  | string quoted => quoted

/-- Whether a token is a complete string. -/
def isString : Token → Bool
  | char _ => false
  | string _ => true

end Token

/-- The tokens of a piece without strings, each with the gap before it, and the gap at the end;
`gap` are the blanks read before the piece. -/
def spread (gap : List Char) : List Char → List (List Char × Token) × List Char
  | [] => ([], gap)
  | c :: rest =>
    if isBlank c then spread (gap ++ [c]) rest
    else ((gap, .char c) :: (spread [] rest).1, (spread [] rest).2)

/-- The tokens of a text, each with the gap before it, and the gap at the end. -/
def layout (s : List Char) : List (List Char × Token) × List Char :=
  match found : splitQuoted s with
  | none => spread [] s
  | some (before, quoted, after) =>
    have := length_splitQuoted found
    ((spread [] before).1 ++ ((spread [] before).2, .string quoted) :: (layout after).1,
      (layout after).2)
termination_by s.length
decreasing_by exact this.2

theorem layout_of_none (h : splitQuoted s = none) : layout s = spread [] s := by
  rw [layout]
  split
  · rfl
  · simp_all

theorem layout_of_some {before quoted after : List Char}
    (h : splitQuoted s = some (before, quoted, after)) :
    layout s = ((spread [] before).1 ++ ((spread [] before).2, .string quoted) :: (layout after).1,
      (layout after).2) := by
  rw [layout]
  split <;> simp_all

/-- Tokens with the gaps before them, and a last gap, as a text. -/
def rendered (tokens : List (List Char × Token)) (last : List Char) : List Char :=
  (tokens.flatMap fun x => x.1 ++ x.2.text) ++ last

theorem rendered_spread (gap s : List Char) :
    rendered (spread gap s).1 (spread gap s).2 = gap ++ s := by
  induction s generalizing gap with
  | nil => simp [spread, rendered]
  | cons c rest ih =>
    rw [spread]
    split
    · rw [ih, List.append_assoc, List.singleton_append]
    · have hrest := ih []
      rw [rendered, List.nil_append] at hrest
      rw [rendered, List.flatMap_cons, List.append_assoc, hrest, List.append_assoc]
      rfl

/-- A layout is one of the text: the tokens and the gaps make it up. -/
theorem rendered_layout (s : List Char) : rendered (layout s).1 (layout s).2 = s := by
  induction s using stringInduction with
  | plain s h => rw [layout_of_none h, rendered_spread, List.nil_append]
  | string s before quoted after h ih =>
    have hbefore := rendered_spread [] before
    obtain ⟨-, -, hs⟩ := splitQuoted_eq_some_iff.1 h
    rw [rendered] at ih hbefore
    rw [layout_of_some h, rendered, List.flatMap_append, List.flatMap_cons, List.append_assoc,
      List.append_assoc, ih, Token.text, ← List.append_assoc, ← List.append_assoc, hbefore,
      List.nil_append, ← hs]

/-- Gaps are blank, and tokens are complete strings or not blank. -/
def IsGapped (x : List Char × Token) : Prop :=
  (∀ c ∈ x.1, isBlank c = true) ∧
    match x.2 with
    | .char c => isBlank c = false
    | .string quoted => IsString quoted

theorem isGapped_spread (hgap : ∀ c ∈ gap, isBlank c = true) (s : List Char) :
    (∀ x ∈ (spread gap s).1, IsGapped x ∧ x.2.isString = false) ∧
      ∀ c ∈ (spread gap s).2, isBlank c = true := by
  induction s generalizing gap with
  | nil => simpa [spread] using hgap
  | cons c rest ih =>
    rw [spread]
    split
    · rename_i hc
      refine ih fun d hd => ?_
      obtain hd | hd := List.mem_append.1 hd
      · exact hgap d hd
      · rwa [List.mem_singleton.1 hd]
    · rename_i hc
      have hrest := ih (List.forall_mem_nil fun d => isBlank d = true)
      refine ⟨fun x hx => ?_, hrest.2⟩
      obtain rfl | hx := List.mem_cons.1 hx
      · exact ⟨⟨hgap, by simpa using hc⟩, rfl⟩
      · exact hrest.1 x hx

theorem isGapped_spread_nil (s : List Char) :
    (∀ x ∈ (spread [] s).1, IsGapped x ∧ x.2.isString = false) ∧
      ∀ c ∈ (spread [] s).2, isBlank c = true :=
  isGapped_spread (List.forall_mem_nil fun c => isBlank c = true) s

/-- In a layout gaps are blank, and tokens are complete strings or not blank; so a gap between two
tokens is a run of blanks that cannot be made longer. -/
theorem isGapped_layout (s : List Char) :
    (∀ x ∈ (layout s).1, IsGapped x) ∧ ∀ c ∈ (layout s).2, isBlank c = true := by
  induction s using stringInduction with
  | plain s h =>
    rw [layout_of_none h]
    have hspread := isGapped_spread_nil s
    exact ⟨fun x hx => (hspread.1 x hx).1, hspread.2⟩
  | string s before quoted after h ih =>
    have hspread := isGapped_spread_nil before
    obtain ⟨-, hstring, -⟩ := splitQuoted_eq_some_iff.1 h
    rw [layout_of_some h]
    refine ⟨fun x hx => ?_, ih.2⟩
    obtain hx | hx := List.mem_append.1 hx
    · exact (hspread.1 x hx).1
    · obtain rfl | hx := List.mem_cons.1 hx
      · exact ⟨hspread.2, hstring⟩
      · exact ih.1 x hx

/-! ### The layout of a squashed text -/

/-- What is left of a gap between two tokens, or between a token and an end of the text: a space, if
a token that is no string stands beside it. -/
def keptGap (left right : Option Token) (gap : List Char) : List Char :=
  if gap ≠ [] ∧ (left.any (!·.isString) || right.any (!·.isString)) = true then [' '] else []

/-- The tokens with what is left of their gaps, given what stands before them. -/
def squeeze (left : Option Token) : List (List Char × Token) → List (List Char × Token)
  | [] => []
  | (gap, token) :: more => (keptGap left (some token) gap, token) :: squeeze (some token) more

/-- The tokens with a deeper indentation. -/
def deepen (indent : List Char) : List (List Char × Token) → List (List Char × Token)
  | [] => []
  | (gap, token) :: more => (indent ++ gap, token) :: more

theorem squeeze_append (left : Option Token) (xs ys : List (List Char × Token)) :
    squeeze left (xs ++ ys) =
      squeeze left xs ++ squeeze ((xs.getLast?.map Prod.snd).or left) ys := by
  induction xs generalizing left with
  | nil => rfl
  | cons x xs ih =>
    rw [List.cons_append, squeeze, squeeze, ih, List.cons_append, List.getLast?_cons]
    cases xs.getLast? <;> rfl

theorem squeeze_string (quoted : List Char) (xs : List (List Char × Token)) :
    squeeze (some (.string quoted)) xs = squeeze none xs := by
  cases xs <;> rfl

/-- A gap, collapsed. -/
def collapsedGap (gap : List Char) : List Char :=
  if gap ≠ [] then [' '] else []

theorem squeeze_of_isString_eq_false {xs : List (List Char × Token)}
    (h : ∀ x ∈ xs, x.2.isString = false) (left : Option Token) :
    squeeze left xs = xs.map fun x => (collapsedGap x.1, x.2) := by
  induction xs generalizing left with
  | nil => rfl
  | cons x xs ih =>
    have hx : x.2.isString = false := h x List.mem_cons_self
    rw [squeeze, ih (fun y hy => h y (List.mem_cons_of_mem x hy)), List.map_cons]
    simp [keptGap, collapsedGap, hx]

/-- A collapsed piece has the tokens of the piece, with their gaps collapsed. -/
theorem spread_collapse (gap s : List Char) :
    spread [] (collapse (!gap.isEmpty) s) =
      ((spread gap s).1.map (fun x => (collapsedGap x.1, x.2)), collapsedGap (spread gap s).2) := by
  have hspace : isBlank ' ' = true := rfl
  induction s generalizing gap with
  | nil => cases gap <;> simp [collapse, spread, collapsedGap, hspace]
  | cons c rest ih =>
    rw [collapse, spread]
    cases hc : isBlank c with
    | true =>
      have hsome : (gap ++ [c]).isEmpty = false := by simp
      have hrest := ih (gap ++ [c])
      rwa [hsome] at hrest
    | false =>
      have hrest := ih []
      rw [List.isEmpty_nil, Bool.not_true] at hrest
      cases gap <;> simp [spread, collapsedGap, hspace, hc, hrest]

theorem spread_append (hleft : ∀ c ∈ left, isBlank c = true) (gap s : List Char) :
    spread gap (left ++ s) = spread (gap ++ left) s := by
  induction left generalizing gap with
  | nil => rw [List.nil_append, List.append_nil]
  | cons c left ih =>
    rw [List.cons_append, spread, if_pos (hleft c List.mem_cons_self),
      ih fun d hd => hleft d (List.mem_cons_of_mem c hd)]
    simp

theorem spread_of_all_isBlank (h : s.all isBlank = true) : spread [] s = ([], s) := by
  have hspread := spread_append (List.all_eq_true.1 h) [] []
  rwa [List.append_nil, List.nil_append, spread] at hspread

theorem fst_spread_ne_nil (h : s.all isBlank = false) (gap : List Char) :
    (spread gap s).1 ≠ [] := by
  induction s generalizing gap with
  | nil => simp at h
  | cons c rest ih =>
    rw [spread]
    split
    · rename_i hc
      exact ih (by simpa [hc] using h) _
    · exact List.cons_ne_nil _ _

theorem spread_eq_deepen (h : s.all isBlank = false) (indent gap : List Char) :
    spread (indent ++ gap) s = (deepen indent (spread gap s).1, (spread gap s).2) := by
  induction s generalizing gap with
  | nil => simp at h
  | cons c rest ih =>
    rw [spread, spread]
    split
    · rename_i hc
      rw [List.append_assoc, ih (by simpa [hc] using h)]
    · rfl

theorem isBlank_of_mem_indent {c : Char} {atStart : Bool} (h : c ∈ indent s atStart) :
    isBlank c = true := by
  rw [eq_of_mem_indent h]
  rfl

theorem spread_squashPlain (h : s.all isBlank = false) (atStart : Bool) :
    spread [] (squashPlain s atStart) =
      (deepen (indent s atStart) ((spread [] s).1.map fun x => (collapsedGap x.1, x.2)),
        collapsedGap (spread [] s).2) := by
  have hcollapse : (collapse false s).all isBlank = false := by
    have hfalse := all_isBlank_squashPlain h false
    rwa [squashPlain_eq h] at hfalse
  have hspread := spread_collapse [] s
  rw [List.isEmpty_nil, Bool.not_true] at hspread
  rw [squashPlain_eq h, spread_append fun c hc => isBlank_of_mem_indent hc, List.nil_append]
  conv => lhs; rw [← List.append_nil (indent s atStart)]
  rw [spread_eq_deepen hcollapse, hspread]

/-- **The layout of a squashed text.**  It has the tokens of the text, with what is left of the gaps
between them, and a line may be indented a little deeper. -/
theorem layout_squash (s : List Char) (atStart : Bool) :
    ∃ lead, (layout (squash s atStart)).1 = deepen lead (squeeze none (layout s).1) ∧
      (atStart = false → lead = []) := by
  induction s using stringInduction generalizing atStart with
  | plain s h =>
    rw [squash_of_none h, layout_of_none h, layout_of_none (splitQuoted_squashPlain h atStart)]
    cases hall : s.all isBlank with
    | true =>
      rw [squashPlain_of_all_isBlank hall, spread_of_all_isBlank hall]
      exact ⟨[], rfl, fun _ => rfl⟩
    | false =>
      have hchars := fun x hx => ((isGapped_spread_nil s).1 x hx).2
      rw [spread_squashPlain hall, squeeze_of_isString_eq_false hchars]
      exact ⟨indent s atStart, rfl, fun h => by simp [indent, h]⟩
  | string s before quoted after h ih =>
    obtain ⟨lead, hafter, hlead⟩ := ih false
    obtain rfl := hlead rfl
    have hafter : (layout (squash after false)).1 = squeeze none (layout after).1 := by
      rw [hafter]
      cases squeeze none (layout after).1 <;> rfl
    rw [layout_of_some (splitQuoted_squash h atStart), layout_of_some h, hafter, squeeze_append,
      squeeze, squeeze_string]
    cases hall : before.all isBlank with
    | true =>
      -- A blank piece disappears, since neither of its neighbours is a character.
      rw [squashPlain_of_all_isBlank hall, spread_of_all_isBlank hall]
      exact ⟨[], by simp [spread, squeeze, deepen, keptGap, Token.isString], fun _ => rfl⟩
    | false =>
      have hchars := fun x hx => ((isGapped_spread_nil before).1 x hx).2
      have hne := fst_spread_ne_nil hall []
      rw [spread_squashPlain hall, squeeze_of_isString_eq_false hchars]
      generalize spread [] before = pieces at hchars hne
      refine ⟨indent before atStart, ?_, fun h => by simp [indent, h]⟩
      have hlast : (pieces.1.getLast hne).2.isString = false := hchars _ (List.getLast_mem hne)
      have hkept : keptGap ((pieces.1.getLast?.map Prod.snd).or none) (some (.string quoted))
          pieces.2 = collapsedGap pieces.2 := by
        simp [keptGap, collapsedGap, List.getLast?_eq_some_getLast hne, hlast]
      obtain ⟨x, xs, hpieces⟩ := List.exists_cons_of_ne_nil hne
      rw [hkept, hpieces]
      rfl

/-! ### Neighbours -/

/-- The tokens of a text, in order. -/
def tokens (s : List Char) : List Token :=
  (layout s).1.map Prod.snd

/-- Two neighbouring tokens of a text, by the number of the first, and the gap between them. -/
def Between (s : List Char) (k : Nat) (left : Token) (gap : List Char) (right : Token) : Prop :=
  (tokens s)[k]? = some left ∧ (layout s).1[k + 1]? = some (gap, right)

instance {k : Nat} {left right : Token} : Decidable (Between s k left gap right) :=
  inferInstanceAs (Decidable (_ ∧ _))

theorem map_snd_squeeze (left : Option Token) (xs : List (List Char × Token)) :
    (squeeze left xs).map Prod.snd = xs.map Prod.snd := by
  induction xs generalizing left with
  | nil => rfl
  | cons x xs ih => rw [squeeze, List.map_cons, List.map_cons, ih]

theorem map_snd_deepen (lead : List Char) (xs : List (List Char × Token)) :
    (deepen lead xs).map Prod.snd = xs.map Prod.snd := by
  cases xs <;> rfl

theorem getElem?_succ_deepen (lead : List Char) (xs : List (List Char × Token)) (k : Nat) :
    (deepen lead xs)[k + 1]? = xs[k + 1]? := by
  cases xs <;> rfl

theorem getElem?_succ_squeeze (left : Option Token) (xs : List (List Char × Token)) (k : Nat) :
    (squeeze left xs)[k + 1]? = xs[k + 1]?.map fun x =>
      (keptGap ((xs.map Prod.snd)[k]?) (some x.2) x.1, x.2) := by
  induction xs generalizing left k with
  | nil => rfl
  | cons x xs ih =>
    rw [squeeze, List.getElem?_cons_succ, List.getElem?_cons_succ, List.map_cons]
    cases k with
    | zero =>
      cases xs with
      | nil => rfl
      | cons y ys => rfl
    | succ k => rw [ih, List.getElem?_cons_succ]

theorem tokens_squash (s : List Char) (atStart : Bool) : tokens (squash s atStart) = tokens s := by
  obtain ⟨lead, hlayout, -⟩ := layout_squash s atStart
  rw [tokens, hlayout, map_snd_deepen, map_snd_squeeze, tokens]

theorem between_squash {atStart : Bool} {k : Nat} {left right : Token}
    (h : Between s k left gap right) :
    Between (squash s atStart) k left (keptGap (some left) (some right) gap) right := by
  obtain ⟨lead, hlayout, -⟩ := layout_squash s atStart
  refine ⟨by rw [tokens_squash, h.1], ?_⟩
  rw [hlayout, getElem?_succ_deepen, getElem?_succ_squeeze, h.2, Option.map_some]
  have hleft : ((layout s).1.map Prod.snd)[k]? = some left := h.1
  rw [hleft]

theorem Between.gap_eq {k : Nat} {left right left' right' : Token} {gap' : List Char}
    (h : Between s k left gap right) (h' : Between s k left' gap' right') : gap = gap' :=
  congrArg Prod.fst (Option.some.inj (h.2.symm.trans h'.2))

/-- **What squashing separates.**  A squashed text has the tokens of the text.  Of the blanks
between two tokens exactly one space is left, unless both tokens are strings: then none is left, and
the strings touch.  Tokens that touch still touch.  So tokens stay apart exactly if there are no
blanks between neighbouring strings. -/
theorem squash_separates (s : List Char) (atStart : Bool) :
    tokens (squash s atStart) = tokens s ∧
      (∀ k left gap right, Between s k left gap right →
        Between (squash s atStart) k left
          (if gap = [] ∨ left.isString = true ∧ right.isString = true then [] else [' ']) right) ∧
      ((∀ k left gap right, Between s k left gap right →
          Between (squash s atStart) k left (if gap = [] then [] else [' ']) right) ↔
        ∀ k left gap right, Between s k left gap right →
          left.isString = true → right.isString = true → gap = []) := by
  have hkept (left : Token) (gap : List Char) (right : Token) :
      keptGap (some left) (some right) gap =
        if gap = [] ∨ left.isString = true ∧ right.isString = true then [] else [' '] := by
    cases hl : left.isString <;> cases hr : right.isString <;>
      by_cases hgap : gap = [] <;> simp [keptGap, hl, hr, hgap]
  refine ⟨tokens_squash s atStart, fun k left gap right h => ?_, ⟨?_, ?_⟩⟩
  · rw [← hkept]
    exact between_squash h
  · intro hall k left gap right h hleft hright
    by_contra hgap
    have heq := (hall k left gap right h).gap_eq (between_squash h)
    rw [hkept, if_neg hgap, if_pos (Or.inr ⟨hleft, hright⟩)] at heq
    cases heq
  · intro hall k left gap right h
    have hstrings : gap = [] ∨ left.isString = true ∧ right.isString = true ↔ gap = [] := by
      refine ⟨?_, .inl⟩
      rintro (hgap | ⟨hleft, hright⟩)
      · exact hgap
      · exact hall k left gap right h hleft hright
    have hsquashed : Between (squash s atStart) k left
        (keptGap (some left) (some right) gap) right :=
      between_squash h
    simpa only [hkept, hstrings] using hsquashed

/-- Two strings with a blank between them touch when they are squashed. -/
theorem strings_joined :
    Between "\"a\" \"b\"".toList 0 (.string "\"a\"".toList) [' '] (.string "\"b\"".toList) ∧
      squash "\"a\" \"b\"".toList true = "\"a\"\"b\"".toList := by
  decide +kernel

end AsmExplorer.Text
