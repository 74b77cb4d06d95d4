import AsmExplorer.Data.Json
import Mathlib.Data.List.DropRight

/-!
# What JSON text stands for

`Json.Spells` relates a value to every text that stands for it, with blanks wherever they may be
inside lists and records.  Integers are written in digits, and texts with the escapes of
`Json.escape`; fractions and dates have no spelling here.

The reader reads what is spelled, whatever follows it (`Json.reads`).  Its fuel is enough if it is
at least the length of the text, because every part takes a character.
-/

namespace AsmExplorer.Json

/-! ### Strings -/

/-- An escaped character that is no surrogate is read by itself, whatever follows. -/
theorem string?_unicode {a b c d : Char} {n : Nat} (h : Text.hexNumber? [a, b, c, d] = some n)
    (hn : n < 0xD800) (rest : List Char) :
    string? ('\\' :: 'u' :: a :: b :: c :: d :: rest) =
      (string? rest).map fun read => (Char.ofNat n :: read.1, read.2) := by
  have hhigh : ¬(0xD800 ≤ n ∧ n < 0xDC00) := by omega
  have hlow : ¬(0xDC00 ≤ n ∧ n < 0xE000) := by omega
  have hsurrogate : ¬(0xD800 ≤ n ∧ n < 0xE000) := by omega
  -- a further escape after it could be the second of a pair
  by_cases hpair : ∃ e f g i more, rest = '\\' :: 'u' :: e :: f :: g :: i :: more
  · obtain ⟨e, f, g, i, more, rfl⟩ := hpair
    rw [string?, h, Option.bind_eq_bind, Option.bind_some, if_neg hhigh, if_neg hlow]
    cases string? ('\\' :: 'u' :: e :: f :: g :: i :: more) <;> rfl
  · rw [string?, h, Option.bind_eq_bind, Option.bind_some, if_neg hsurrogate]
    · cases string? rest <;> rfl
    · exact fun e f g i more heq => hpair ⟨e, f, g, i, more, heq⟩

theorem string?_short {c e : Char} (h : shortEscape? e = some c) (rest : List Char) :
    string? ('\\' :: e :: rest) = (string? rest).map fun read => (c :: read.1, read.2) := by
  have hu : e ≠ 'u' := by
    rintro rfl
    cases h
  rw [string?, h]
  · cases string? rest <;> rfl
  · intros; exact hu ‹_›
  · intros; exact hu ‹_›

/-- A character that needs no escape stands for itself. -/
theorem string?_plain {c : Char} (hquote : c ≠ '"') (hslash : c ≠ '\\') (hcontrol : 0x20 ≤ c.toNat)
    (rest : List Char) :
    string? (c :: rest) = (string? rest).map fun read => (c :: read.1, read.2) := by
  rw [string?, if_neg (Nat.not_lt.2 hcontrol)]
  · exact hquote
  -- the three forms of an escape
  all_goals intros; exact hslash ‹_›

theorem hexNumber?_control : ∀ n < 0x20, Text.hexNumber?
    ['0', '0', Char.ofNat ('0'.toNat + n / 16), (Nat.toDigits 16 (n % 16)).headD '0'] = some n := by
  decide

theorem string?_escape (c : Char) (rest : List Char) :
    string? (escape c ++ rest) = (string? rest).map fun read => (c :: read.1, read.2) := by
  unfold escape
  split
  · exact string?_short rfl rest
  · exact string?_short rfl rest
  · exact string?_short rfl rest
  · exact string?_short rfl rest
  · exact string?_short rfl rest
  · exact string?_short rfl rest
  · exact string?_short rfl rest
  · split
    · rename_i hcontrol
      have hread := string?_unicode (hexNumber?_control c.toNat hcontrol) (by omega) rest
      rwa [Char.ofNat_toNat] at hread
    · refine string?_plain ?_ ?_ (by omega) rest <;> assumption

/-- **A quoted text is read back**, whatever follows it. -/
theorem string?_flatMap_escape (s rest : List Char) :
    string? (s.flatMap escape ++ '"' :: rest) = some (s, rest) := by
  induction s with
  | nil => rw [List.flatMap_nil, List.nil_append, string?]
  | cons c s ih => rw [List.flatMap_cons, List.append_assoc, string?_escape, ih]; rfl

/-! ### Numbers -/

theorem isDigit_of_mem_toDigits {n : Nat} {c : Char} (h : c ∈ Nat.toDigits 10 n) :
    c.isDigit = true :=
  Nat.isDigit_of_mem_toDigits (by decide) (by decide) h

theorem nat?_toDigits (n : Nat) : Text.nat? (Nat.toDigits 10 n) = some n := by
  have hdigits : (Nat.toDigits 10 n).all Char.isDigit = true :=
    List.all_eq_true.2 fun _ => isDigit_of_mem_toDigits
  have hvalue : (Nat.toDigits 10 n).foldl (fun n c => n * 10 + (c.toNat - '0'.toNat)) 0 = n := by
    have hread : Nat.ofDigitChars 10 (Nat.toDigits 10 n) 0 = n :=
      Nat.ofDigitChars_toDigits (by decide) (by decide)
    simpa only [Nat.ofDigitChars, Nat.mul_comm] using hread
  cases hcs : Nat.toDigits 10 n with
  | nil => exact absurd hcs Nat.toDigits_ne_nil
  | cons c cs =>
    rw [hcs] at hdigits hvalue
    rw [Text.nat?, if_pos hdigits, hvalue]
    simp

theorem head?_toDigits_ne (n : Nat) (h : 0 < n) : (Nat.toDigits 10 n).head? ≠ some '0' := by
  induction n using Nat.strongRecOn with
  | ind n ih =>
    by_cases hlt : n < 10
    · have hsmall : ∀ n < 10, 0 < n → n.digitChar ≠ '0' := by decide
      rw [Nat.toDigits_of_lt_base hlt]
      simpa using hsmall n hlt h
    · rw [Nat.toDigits_of_base_le (by decide) (Nat.le_of_not_lt hlt), List.head?_append,
        List.head?_eq_some_head Nat.toDigits_ne_nil, Option.some_or,
        ← List.head?_eq_some_head Nat.toDigits_ne_nil]
      exact ih (n / 10) (by omega) (by omega)

theorem isPlainDigits_toDigits (n : Nat) : isPlainDigits (Nat.toDigits 10 n) = true := by
  have hdigits : (Nat.toDigits 10 n).all Char.isDigit = true :=
    List.all_eq_true.2 fun _ => isDigit_of_mem_toDigits
  have hzero : (Nat.toDigits 10 n).length = 1 ∨ (Nat.toDigits 10 n).head? ≠ some '0' := by
    obtain rfl | hpos := Nat.eq_zero_or_pos n
    · exact .inl rfl
    · exact .inr (head?_toDigits_ne n hpos)
  simp only [isPlainDigits, hdigits, Bool.and_true, Bool.and_eq_true, Bool.or_eq_true, bne_iff_ne,
    beq_iff_eq, Bool.not_eq_true', List.isEmpty_eq_false_iff]
  exact ⟨Nat.toDigits_ne_nil, hzero⟩

theorem number?_toDigits (n : Nat) : number? (Nat.toDigits 10 n) = some (.integer n) := by
  cases hcs : Nat.toDigits 10 n with
  | nil => exact absurd hcs Nat.toDigits_ne_nil
  | cons c cs =>
    have hplain := isPlainDigits_toDigits n
    have hvalue := nat?_toDigits n
    have hsign : c ≠ '-' := by
      rintro rfl
      have hdigit : '-'.isDigit = true :=
        isDigit_of_mem_toDigits (hcs ▸ List.mem_cons_self : '-' ∈ Nat.toDigits 10 n)
      cases hdigit
    rw [hcs] at hplain hvalue
    unfold number?
    split
    rename_i sign digits heq
    split at heq
    · exact absurd (List.cons.inj ‹_›).1 hsign
    · cases heq
      rw [if_pos hplain, hvalue]
      simp

theorem number?_minus_toDigits (n : Nat) (h : 0 < n) :
    number? ('-' :: Nat.toDigits 10 n) = some (.integer (-n)) := by
  have hzero : Nat.toDigits 10 n ≠ ['0'] := fun heq => head?_toDigits_ne n h (by rw [heq]; rfl)
  rw [number?]
  simp only [isPlainDigits_toDigits, hzero, nat?_toDigits, and_false, if_true, if_false]
  rfl

theorem toList_toString_ofNat (n : Nat) :
    (toString (Int.ofNat n)).toList = Nat.toDigits 10 n :=
  Nat.toList_repr

theorem toList_toString_negSucc (n : Nat) :
    (toString (Int.negSucc n)).toList = '-' :: Nat.toDigits 10 (n + 1) := by
  change ("-" ++ Nat.repr (n + 1)).toList = _
  rw [String.toList_append, Nat.toList_repr]
  rfl

/-- **An integer is read back.** -/
theorem number?_integer (n : Int) : number? (toString n).toList = some (.integer n) := by
  cases n with
  | ofNat n =>
    rw [toList_toString_ofNat, number?_toDigits]
    rfl
  | negSucc n =>
    rw [toList_toString_negSucc, number?_minus_toDigits _ n.succ_pos]
    rfl

theorem toList_toString_ne_nil (n : Int) : (toString n).toList ≠ [] := by
  cases n with
  | ofNat n =>
    rw [toList_toString_ofNat]
    exact Nat.toDigits_ne_nil
  | negSucc n =>
    rw [toList_toString_negSucc]
    exact List.cons_ne_nil _ _

theorem isNumberChar_of_mem {n : Int} {c : Char} (h : c ∈ (toString n).toList) :
    isNumberChar c = true := by
  have hdigits : ∀ {n}, c ∈ Nat.toDigits 10 n → isNumberChar c = true := fun h => by
    simp [isNumberChar, isDigit_of_mem_toDigits h]
  cases n with
  | ofNat n =>
    rw [toList_toString_ofNat] at h
    exact hdigits h
  | negSucc n =>
    rw [toList_toString_negSucc] at h
    obtain rfl | h := List.mem_cons.1 h
    · rfl
    · exact hdigits h

/-! ### Blanks -/

/-- Only blanks. -/
def Blank (w : List Char) : Prop :=
  ∀ c ∈ w, c = ' ' ∨ c = '\n' ∨ c = '\r' ∨ c = '\t'

theorem skip_append {w : List Char} (h : Blank w) (s : List Char) : skip (w ++ s) = skip s := by
  induction w with
  | nil => rfl
  | cons c w ih =>
    have hc := h c List.mem_cons_self
    rw [List.cons_append, skip, List.dropWhile_cons_of_pos (by simpa [or_assoc] using hc)]
    exact ih fun c' hc' => h c' (List.mem_cons_of_mem _ hc')

@[simp] theorem skip_skip (s : List Char) : skip (skip s) = skip s :=
  List.dropWhile_idempotent _ _

theorem value?_skip (fuel : Nat) (s : List Char) : value? fuel (skip s) = value? fuel s := by
  cases fuel with
  | zero => rfl
  | succ fuel => rw [value?, value?, skip_skip]

theorem items?_skip (fuel : Nat) (s : List Char) : items? fuel (skip s) = items? fuel s := by
  cases fuel with
  | zero => rfl
  | succ fuel => rw [items?, items?, value?_skip]

theorem members?_skip (fuel : Nat) (s : List Char) : members? fuel (skip s) = members? fuel s := by
  cases fuel with
  | zero => rfl
  | succ fuel => rw [members?, members?, skip_skip]

/-! ### Spellings -/

/-- The characters of a quoted text. -/
def quoted (s : String) : List Char :=
  '"' :: (s.toList.flatMap escape ++ ['"'])

mutual

/-- A text stands for a value. -/
inductive Spells : Data → List Char → Prop
  /-- No value. -/
  | null : Spells .null ['n', 'u', 'l', 'l']
  /-- A truth value. -/
  | bool (b : Bool) : Spells (.bool b) (if b then "true" else "false").toList
  /-- An integer. -/
  | integer (n : Int) : Spells (.integer n) (toString n).toList
  /-- A text. -/
  | text (s : String) : Spells (.text s) (quoted s)
  /-- The empty list. -/
  | emptyList : Spells (.list []) ['[', ']']
  /-- A list. -/
  | list {items : List Data} {body : List Char} (h : SpellsItems items body) :
      Spells (.list items) ('[' :: body)
  /-- The empty record. -/
  | emptyRecord : Spells (.record []) ['\x7b', '\x7d']
  /-- A record. -/
  | record {fields : List (String × Data)} {body : List Char} (h : SpellsFields fields body) :
      Spells (.record fields) ('\x7b' :: body)

/-- A text stands for the items of a list, with the bracket that closes it. -/
inductive SpellsItems : List Data → List Char → Prop
  /-- The last item. -/
  | last {d : Data} {s before after : List Char} (hbefore : Blank before) (h : Spells d s)
      (hafter : Blank after) : SpellsItems [d] (before ++ (s ++ (after ++ [']'])))
  /-- An item that others follow. -/
  | more {d : Data} {items : List Data} {s before after body : List Char}
      (hbefore : Blank before) (h : Spells d s) (hafter : Blank after)
      (hmore : SpellsItems items body) :
      SpellsItems (d :: items) (before ++ (s ++ (after ++ ',' :: body)))

/-- A text stands for a field. -/
inductive SpellsField : String × Data → List Char → Prop
  /-- The name, a colon and the value. -/
  | mk {name : String} {d : Data} {s blank : List Char} (hblank : Blank blank) (h : Spells d s) :
      SpellsField (name, d) (quoted name ++ ':' :: (blank ++ s))

/-- A text stands for the fields of a record, with the brace that closes it. -/
inductive SpellsFields : List (String × Data) → List Char → Prop
  /-- The last field. -/
  | last {f : String × Data} {s before after : List Char} (hbefore : Blank before)
      (h : SpellsField f s) (hafter : Blank after) :
      SpellsFields [f] (before ++ (s ++ (after ++ ['\x7d'])))
  /-- A field that others follow. -/
  | more {f : String × Data} {fields : List (String × Data)} {s before after body : List Char}
      (hbefore : Blank before) (h : SpellsField f s) (hafter : Blank after)
      (hmore : SpellsFields fields body) :
      SpellsFields (f :: fields) (before ++ (s ++ (after ++ ',' :: body)))

end

/-- A character that may follow a value. -/
def Ends (rest : List Char) : Prop :=
  ∀ c ∈ rest.head?, isNumberChar c = false

theorem Spells.exists_first {d : Data} {s : List Char} (h : Spells d s) :
    ∃ c t, s = c :: t ∧ c ∉ [' ', '\n', '\r', '\t', ']'] := by
  cases h with
  | null => exact ⟨'n', _, rfl, by decide⟩
  | bool b =>
    cases b with
    | false => exact ⟨'f', _, rfl, by decide⟩
    | true => exact ⟨'t', _, rfl, by decide⟩
  | integer n =>
    obtain ⟨c, cs, heq⟩ := List.exists_cons_of_ne_nil (toList_toString_ne_nil n)
    have hnumber : isNumberChar c = true := isNumberChar_of_mem (heq ▸ List.mem_cons_self)
    refine ⟨c, cs, heq, fun hmem => ?_⟩
    simp only [List.mem_cons, List.not_mem_nil, or_false] at hmem
    rcases hmem with rfl | rfl | rfl | rfl | rfl <;> cases hnumber
  | text s => exact ⟨'"', _, rfl, by decide⟩
  | emptyList => exact ⟨'[', _, rfl, by decide⟩
  | list _ => exact ⟨'[', _, rfl, by decide⟩
  | emptyRecord => exact ⟨'\x7b', _, rfl, by decide⟩
  | record _ => exact ⟨'\x7b', _, rfl, by decide⟩

theorem ends_append {w rest : List Char} {c : Char} (h : Blank w) (hc : isNumberChar c = false) :
    Ends (w ++ c :: rest) := by
  intro c' hc'
  cases w with
  | nil =>
    obtain rfl := Option.some.inj hc'
    exact hc
  | cons b w =>
    obtain rfl := Option.some.inj hc'
    obtain rfl | rfl | rfl | rfl := h b List.mem_cons_self <;> decide

theorem Spells.skip_append {d : Data} {s : List Char} (h : Spells d s) (rest : List Char) :
    skip (s ++ rest) = s ++ rest ∧ (s ++ rest).head? ≠ some ']' := by
  obtain ⟨c, t, rfl, hc⟩ := h.exists_first
  simp only [List.mem_cons, List.not_mem_nil, or_false, not_or] at hc
  simp [skip, hc]

/-! ### Reading -/

theorem value?_integer (fuel : Nat) (n : Int) {rest : List Char} (h : Ends rest) :
    value? (fuel + 1) ((toString n).toList ++ rest) = some (.integer n, rest) := by
  have hnumber : ∀ c ∈ (toString n).toList, isNumberChar c = true := fun _ => isNumberChar_of_mem
  have hrest : rest.takeWhile isNumberChar = [] ∧ rest.dropWhile isNumberChar = rest := by
    cases rest with
    | nil => exact ⟨rfl, rfl⟩
    | cons c rest =>
      have hc : isNumberChar c = false := h c rfl
      simp [hc]
  have hfirst : ∀ c t, (toString n).toList ++ rest = c :: t → isNumberChar c = true := by
    intro c t heq
    obtain ⟨c', cs, hcs⟩ := List.exists_cons_of_ne_nil (toList_toString_ne_nil n)
    rw [hcs, List.cons_append, List.cons.injEq] at heq
    exact hnumber c (by rw [hcs, heq.1]; exact List.mem_cons_self)
  rw [value?, ((Spells.integer n).skip_append rest).1]
  -- no other value begins like a number
  split
  · exact absurd (hfirst _ _ ‹_›) (by decide)
  · exact absurd (hfirst _ _ ‹_›) (by decide)
  · exact absurd (hfirst _ _ ‹_›) (by decide)
  · exact absurd (hfirst _ _ ‹_›) (by decide)
  · exact absurd (hfirst _ _ ‹_›) (by decide)
  · exact absurd (hfirst _ _ ‹_›) (by decide)
  · rw [List.takeWhile_append_of_pos hnumber, List.dropWhile_append_of_pos hnumber, hrest.1,
      hrest.2, List.append_nil, number?_integer]
    rfl

theorem value?_text (fuel : Nat) (s : String) (rest : List Char) :
    value? (fuel + 1) (quoted s ++ rest) = some (.text s, rest) := by
  have hread : string? (s.toList.flatMap escape ++ '"' :: rest) = some (s.toList, rest) :=
    string?_flatMap_escape s.toList rest
  have hquoted : quoted s ++ rest = '"' :: (s.toList.flatMap escape ++ '"' :: rest) := by
    simp [quoted]
  rw [hquoted, value?]
  change (string? (s.toList.flatMap escape ++ '"' :: rest)).map _ = _
  rw [hread]
  simp

theorem value?_list {fuel : Nat} {items : List Data} {s rest : List Char}
    (hfirst : (skip s).head? ≠ some ']') (h : items? fuel s = some (items, rest)) :
    value? (fuel + 1) ('[' :: s) = some (.list items, rest) := by
  have hopen : skip ('[' :: s) = '[' :: s := rfl
  rw [value?]
  simp only [hopen]
  split
  · rename_i heq
    rw [heq] at hfirst
    exact absurd rfl hfirst
  · rw [items?_skip, h]
    rfl

theorem value?_record {fuel : Nat} {fields : List (String × Data)} {s rest : List Char}
    (hfirst : (skip s).head? ≠ some '\x7d') (h : members? fuel s = some (fields, rest)) :
    value? (fuel + 1) ('\x7b' :: s) = some (.record fields, rest) := by
  have hopen : skip ('\x7b' :: s) = '\x7b' :: s := rfl
  rw [value?]
  simp only [hopen]
  split
  · rename_i heq
    rw [heq] at hfirst
    exact absurd rfl hfirst
  · rw [members?_skip, h]
    rfl

theorem skip_mark {after : List Char} (h : Blank after) {c : Char} (hc : c ∈ [',', ']', '\x7d'])
    (rest : List Char) : skip (after ++ c :: rest) = c :: rest := by
  rw [skip_append h]
  simp only [List.mem_cons, List.not_mem_nil, or_false] at hc
  rcases hc with rfl | rfl | rfl <;> rfl

/-- One item, and what follows it. -/
theorem items?_succ {fuel : Nat} {d : Data} {s rest before after : List Char}
    (hbefore : Blank before) (hafter : Blank after)
    (h : ∀ {rest}, Ends rest → value? fuel (s ++ rest) = some (d, rest)) :
    items? (fuel + 1) (before ++ (s ++ (after ++ ']' :: rest))) = some ([d], rest) ∧
      items? (fuel + 1) (before ++ (s ++ (after ++ ',' :: rest))) =
        (items? fuel rest).map fun read => (d :: read.1, read.2) := by
  have hread : ∀ c rest, isNumberChar c = false →
      value? fuel (before ++ (s ++ (after ++ c :: rest))) = some (d, after ++ c :: rest) := by
    intro c rest hc
    rw [← value?_skip, skip_append hbefore, value?_skip]
    exact h (ends_append hafter hc)
  constructor
  · rw [items?, hread ']' rest rfl, Option.bind_eq_bind, Option.bind_some]
    simp only [skip_mark hafter (c := ']') (by decide)]
  · rw [items?, hread ',' rest rfl, Option.bind_eq_bind, Option.bind_some]
    simp only [skip_mark hafter (c := ',') (by decide)]
    cases items? fuel rest <;> rfl

/-- One field, and what follows it. -/
theorem members?_succ {fuel : Nat} {name : String} {d : Data}
    {s rest before blank after : List Char} (hbefore : Blank before) (hblank : Blank blank)
    (hafter : Blank after)
    (h : ∀ {rest}, Ends rest → value? fuel (s ++ rest) = some (d, rest)) :
    members? (fuel + 1)
        (before ++ (quoted name ++ ':' :: (blank ++ (s ++ (after ++ '\x7d' :: rest))))) =
      some ([(name, d)], rest) ∧
    members? (fuel + 1)
        (before ++ (quoted name ++ ':' :: (blank ++ (s ++ (after ++ ',' :: rest))))) =
      (members? fuel rest).map fun read => ((name, d) :: read.1, read.2) := by
  have hname : ∀ rest, skip (before ++ (quoted name ++ rest)) =
      '"' :: (name.toList.flatMap escape ++ '"' :: rest) := by
    intro rest
    rw [skip_append hbefore]
    simp [quoted, skip]
  have hcolon : ∀ rest, skip (':' :: rest) = ':' :: rest := fun _ => rfl
  have hread : ∀ c rest, isNumberChar c = false →
      value? fuel (blank ++ (s ++ (after ++ c :: rest))) = some (d, after ++ c :: rest) := by
    intro c rest hc
    rw [← value?_skip, skip_append hblank, value?_skip]
    exact h (ends_append hafter hc)
  constructor
  · rw [members?, hname]
    simp only [string?_flatMap_escape, Option.bind_eq_bind, Option.bind_some, hcolon,
      String.ofList_toList, hread '\x7d' rest rfl, skip_mark hafter (c := '\x7d') (by decide)]
  · rw [members?, hname]
    simp only [string?_flatMap_escape, Option.bind_eq_bind, Option.bind_some, hcolon,
      String.ofList_toList, hread ',' rest rfl, skip_mark hafter (c := ',') (by decide)]
    cases members? fuel rest <;> rfl

theorem SpellsItems.head?_skip_ne {items : List Data} {body : List Char}
    (h : SpellsItems items body) (rest : List Char) : (skip (body ++ rest)).head? ≠ some ']' := by
  cases h with
  | last hbefore h _ =>
    rw [List.append_assoc, List.append_assoc, skip_append hbefore, (h.skip_append _).1]
    exact (h.skip_append _).2
  | more hbefore h _ _ =>
    rw [List.append_assoc, List.append_assoc, skip_append hbefore, (h.skip_append _).1]
    exact (h.skip_append _).2

theorem SpellsFields.head?_skip_ne {fields : List (String × Data)} {body : List Char}
    (h : SpellsFields fields body) (rest : List Char) :
    (skip (body ++ rest)).head? ≠ some '\x7d' := by
  cases h with
  | last hbefore h _ =>
    rw [List.append_assoc, List.append_assoc, skip_append hbefore]
    cases h with
    | mk => simp [quoted, skip]
  | more hbefore h _ _ =>
    rw [List.append_assoc, List.append_assoc, skip_append hbefore]
    cases h with
    | mk => simp [quoted, skip]

/-- **What stands for a value is read as that value**, whatever follows it. -/
theorem reads (fuel : Nat) :
    (∀ {d s}, Spells d s → s.length ≤ fuel → ∀ {rest}, Ends rest →
      value? fuel (s ++ rest) = some (d, rest)) ∧
    (∀ {items body}, SpellsItems items body → body.length ≤ fuel → ∀ rest,
      items? fuel (body ++ rest) = some (items, rest)) ∧
    (∀ {fields body}, SpellsFields fields body → body.length ≤ fuel → ∀ rest,
      members? fuel (body ++ rest) = some (fields, rest)) := by
  induction fuel with
  | zero =>
    refine ⟨fun h hlen => ?_, fun h hlen => ?_, fun h hlen => ?_⟩
    · obtain ⟨c, t, rfl, -⟩ := h.exists_first
      cases hlen
    · cases h <;> simp at hlen
    · cases h <;> simp at hlen
  | succ fuel ih =>
    obtain ⟨hvalue, hitems, hmembers⟩ := ih
    -- every part takes a character, so that the parts fit the smaller fuel
    refine ⟨fun h hlen rest hrest => ?_, fun h hlen rest => ?_, fun h hlen rest => ?_⟩
    · cases h with
      | null => rfl
      | bool b => cases b <;> rfl
      | integer n => exact value?_integer fuel n hrest
      | text s => exact value?_text fuel s rest
      | emptyList => rfl
      | list hbody =>
        exact value?_list (hbody.head?_skip_ne rest)
          (hitems hbody (Nat.le_of_succ_le_succ hlen) rest)
      | emptyRecord => rfl
      | record hbody =>
        exact value?_record (hbody.head?_skip_ne rest)
          (hmembers hbody (Nat.le_of_succ_le_succ hlen) rest)
    · cases h with
      | last hbefore hd hafter =>
        simp only [List.length_append, List.length_singleton] at hlen
        simp only [List.append_assoc, List.singleton_append]
        exact (items?_succ hbefore hafter fun hends => hvalue hd (by omega) hends).1
      | more hbefore hd hafter hmore =>
        simp only [List.length_append, List.length_cons] at hlen
        simp only [List.append_assoc, List.cons_append]
        rw [(items?_succ hbefore hafter fun hends => hvalue hd (by omega) hends).2,
          hitems hmore (by omega) rest]
        rfl
    · cases h with
      | last hbefore hf hafter =>
        cases hf with
        | mk hblank hd =>
          simp only [List.length_append, List.length_cons, List.length_nil] at hlen
          simp only [List.append_assoc, List.cons_append, List.nil_append]
          exact (members?_succ hbefore hblank hafter fun hends => hvalue hd (by omega) hends).1
      | more hbefore hf hafter hmore =>
        cases hf with
        | mk hblank hd =>
          simp only [List.length_append, List.length_cons] at hlen
          simp only [List.append_assoc, List.cons_append]
          rw [(members?_succ hbefore hblank hafter fun hends => hvalue hd (by omega) hends).2,
            hmembers hmore (by omega) rest]
          rfl

/-- A text that stands for a value is read as that value. -/
theorem parse?_of_spells {d : Data} {s : String} (h : Spells d s.toList) : parse? s = some d := by
  have hread : value? (s.toList.length + 1) (s.toList ++ []) = some (d, []) :=
    (reads _).1 h (Nat.le_succ _) (by simp [Ends])
  rw [List.append_nil] at hread
  rw [parse?]
  simp [hread, skip]

end AsmExplorer.Json
