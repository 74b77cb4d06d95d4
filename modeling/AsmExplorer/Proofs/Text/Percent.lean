import AsmExplorer.Proofs.Text.Utf8
import AsmExplorer.Text.Percent

/-!
# Encoding loses nothing

Bytes are read back from their percent encoding, be they a text or not
(`percentDecode_percentEncode`).  Reading the bytes of a form-encoded text gives the bytes of the
text (`percentDecode_formEncode`), so two texts with one form encoding are the same
(`formEncode_injective`).  The encoding holds no ampersand (`ampersand_not_mem_formEncode`), which
is why the pairs of a query can be told apart, and no equals sign, which is why a pair is read back
(`formPairs_pair`).
-/

namespace AsmExplorer.Text

/-! ### Bytes -/

theorem hexValue?_hexDigit : ∀ n < 16, hexValue? (hexDigit n) = some n := by
  decide

theorem hexDigit_isAlphanum : ∀ n < 16, (hexDigit n).isAlphanum = true := by
  decide

theorem utf8_injective {s t : List Char} (h : utf8 s = utf8 t) : s = t := by
  have hdecoded := congrArg decode? h
  rwa [decode?_utf8, decode?_utf8, Option.some.injEq] at hdecoded

theorem utf8_append (s t : List Char) : utf8 (s ++ t) = utf8 s ++ utf8 t :=
  List.flatMap_append

theorem utf8_cons (c : Char) (s : List Char) : utf8 (c :: s) = utf8 [c] ++ utf8 s :=
  utf8_append [c] s

/-! ### Percent encoding -/

/-- A character other than the percent sign stands for itself. -/
theorem percentDecode_cons {c : Char} (hc : c ≠ '%') (rest : List Char) :
    percentDecode (c :: rest) = utf8 [c] ++ percentDecode rest := by
  rw [percentDecode]
  intro a b rest' h
  exact absurd h hc

theorem percentDecode_percentByte (b : UInt8) (rest : List Char) :
    percentDecode (percentByte b ++ rest) = b :: percentDecode rest := by
  have hb : b.toNat < 256 := b.toNat_lt
  have hhigh := hexValue?_hexDigit (b.toNat / 16) (by omega)
  have hlow := hexValue?_hexDigit (b.toNat % 16) (by omega)
  have hvalue : b.toNat / 16 * 16 + b.toNat % 16 = b.toNat := by omega
  simp only [percentByte, List.cons_append, List.nil_append, percentDecode, hhigh, hlow, hvalue,
    UInt8.ofNat_toNat]

theorem utf8_asciiChar {b : UInt8} (hb : b < 0x80) : utf8 [asciiChar b] = [b] := by
  have hsmall : ∀ n < 128, utf8 [Char.ofNat n] = [UInt8.ofNat n] := by decide
  have h := hsmall b.toNat (UInt8.lt_iff_toNat_lt.1 hb)
  rwa [UInt8.ofNat_toNat] at h

theorem asciiChar_ne_of_plain {plain : Char → Bool} {b : UInt8} {c : Char}
    (h : plain (asciiChar b) = true) (hc : plain c = false) : asciiChar b ≠ c := by
  rintro rfl
  exact absurd h (by simp [hc])

theorem percentDecode_encodeByte {plain : Char → Bool} (h : plain '%' = false) (b : UInt8)
    (rest : List Char) : percentDecode (encodeByte plain b ++ rest) = b :: percentDecode rest := by
  unfold encodeByte
  split
  · rename_i hplain
    rw [List.singleton_append, percentDecode_cons (asciiChar_ne_of_plain hplain.2 h),
      utf8_asciiChar hplain.1, List.singleton_append]
  · exact percentDecode_percentByte b rest

/-- **Reading percent-encoded bytes gives the bytes**, whether they are a text or not. -/
theorem percentDecode_percentEncode {plain : Char → Bool} (h : plain '%' = false)
    (bytes : List UInt8) (rest : List Char) :
    percentDecode (percentEncode plain bytes ++ rest) = bytes ++ percentDecode rest := by
  induction bytes with
  | nil => rfl
  | cons b bytes ih =>
    rw [percentEncode, List.flatMap_cons, List.append_assoc, percentDecode_encodeByte h,
      ← percentEncode, ih, List.cons_append]

theorem percentEncode_append (plain : Char → Bool) (s t : List UInt8) :
    percentEncode plain (s ++ t) = percentEncode plain s ++ percentEncode plain t :=
  List.flatMap_append

/-- ASCII characters that are left alone stand for themselves. -/
theorem percentEncode_utf8_eq_self {plain : Char → Bool} {s : List Char}
    (h : ∀ c ∈ s, c.toNat < 0x80 ∧ plain c = true) : percentEncode plain (utf8 s) = s := by
  induction s with
  | nil => rfl
  | cons c s ih =>
    obtain ⟨hsmall, hplain⟩ := h c List.mem_cons_self
    have hchar : asciiChar (UInt8.ofNat c.toNat) = c := by
      rw [asciiChar, toNat_ofNat_of_lt (by omega), Char.ofNat_toNat]
    have hbyte : UInt8.ofNat c.toNat < 0x80 := by
      rw [UInt8.lt_iff_toNat_lt, toNat_ofNat_of_lt (by omega)]
      exact hsmall
    have hone : utf8 [c] = [UInt8.ofNat c.toNat] := by
      have hascii := utf8_asciiChar hbyte
      rwa [hchar] at hascii
    rw [utf8_cons, percentEncode_append, ih fun d hd => h d (List.mem_cons_of_mem _ hd), hone,
      percentEncode, List.flatMap_singleton, encodeByte, if_pos ⟨hbyte, hchar.symm ▸ hplain⟩, hchar,
      List.singleton_append]

theorem mem_percentByte {b : UInt8} {c : Char} (h : c ∈ percentByte b) :
    c = '%' ∨ ∃ n < 16, c = hexDigit n := by
  have hb : b.toNat < 256 := b.toNat_lt
  simp only [percentByte, List.mem_cons, List.not_mem_nil, or_false] at h
  obtain rfl | rfl | rfl := h
  · exact .inl rfl
  · exact .inr ⟨_, by omega, rfl⟩
  · exact .inr ⟨_, by omega, rfl⟩

/-- The characters of percent-encoded bytes: one that is left alone stands for a byte. -/
theorem mem_percentEncode {plain : Char → Bool} {bytes : List UInt8} {c : Char}
    (h : c ∈ percentEncode plain bytes) :
    (∃ b ∈ bytes, b < 0x80 ∧ plain c = true ∧ c = asciiChar b) ∨ c = '%' ∨
      ∃ n < 16, c = hexDigit n := by
  obtain ⟨b, hb, hc⟩ := List.mem_flatMap.1 h
  unfold encodeByte at hc
  split at hc
  · rename_i hplain
    obtain rfl := List.mem_singleton.1 hc
    exact .inl ⟨b, hb, hplain.1, hplain.2, rfl⟩
  · exact .inr (mem_percentByte hc)

theorem length_le_length_percentEncode (plain : Char → Bool) (bytes : List UInt8) :
    bytes.length ≤ (percentEncode plain bytes).length := by
  induction bytes with
  | nil => exact Nat.zero_le _
  | cons b bytes ih =>
    have hone : 1 ≤ (encodeByte plain b).length := by
      unfold encodeByte
      split <;> simp [percentByte]
    rw [percentEncode, List.flatMap_cons, ← percentEncode, List.length_append, List.length_cons]
    omega

/-! ### Form encoding -/

theorem isFormPlain_ne {c : Char} (h : isFormPlain c = true) : c ≠ '%' ∧ c ≠ '+' ∧ c ≠ '&' := by
  refine ⟨?_, ?_, ?_⟩ <;> rintro rfl <;> exact absurd h (by decide)

/-- The character that a character of a form-encoded text stands for before percent decoding. -/
def plusToSpace (c : Char) : Char :=
  if c = '+' then ' ' else c

theorem plusToSpace_of_ne {c : Char} (h : c ≠ '+') : plusToSpace c = c :=
  if_neg h

theorem mem_formEncode {s : List Char} {c : Char} (h : c ∈ formEncode s) :
    c = '%' ∨ c = '+' ∨ isFormPlain c = true := by
  obtain ⟨d, -, hc⟩ := List.mem_flatMap.1 h
  split at hc
  · exact .inr (.inl (List.mem_singleton.1 hc))
  · obtain ⟨-, -, -, hplain, -⟩ | hpercent | ⟨n, hn, rfl⟩ := mem_percentEncode hc
    · exact .inr (.inr hplain)
    · exact .inl hpercent
    · exact .inr (.inr (by simp [isFormPlain, hexDigit_isAlphanum n hn]))

theorem map_plusToSpace_percentEncode (bytes : List UInt8) :
    (percentEncode isFormPlain bytes).map plusToSpace = percentEncode isFormPlain bytes := by
  refine (List.map_congr_left fun c hc => plusToSpace_of_ne ?_).trans (List.map_id _)
  obtain ⟨-, -, -, hplain, -⟩ | rfl | ⟨n, hn, rfl⟩ := mem_percentEncode hc
  · exact (isFormPlain_ne hplain).2.1
  · decide
  · intro hplus
    have halnum := hexDigit_isAlphanum n hn
    rw [hplus] at halnum
    exact absurd halnum (by decide)

theorem percentDecode_formEncode_singleton (c : Char) (rest : List Char) :
    percentDecode ((formEncode [c]).map plusToSpace ++ rest) = utf8 [c] ++ percentDecode rest := by
  simp only [formEncode, List.flatMap_singleton]
  split
  · -- a space is written as a plus sign
    rename_i hspace
    subst hspace
    exact percentDecode_cons (by decide) rest
  · rw [map_plusToSpace_percentEncode, percentDecode_percentEncode (by decide)]

/-- **Reading a form-encoded text gives the bytes of the text.** -/
theorem percentDecode_formEncode (s : List Char) :
    percentDecode ((formEncode s).map plusToSpace) = utf8 s := by
  induction s with
  | nil => rfl
  | cons c s ih =>
    have hsplit : formEncode (c :: s) = formEncode [c] ++ formEncode s := by
      simp [formEncode]
    rw [hsplit, List.map_append, percentDecode_formEncode_singleton, ih, ← utf8_cons]

theorem formEncode_injective {s t : List Char} (h : formEncode s = formEncode t) : s = t := by
  refine utf8_injective ?_
  rw [← percentDecode_formEncode, ← percentDecode_formEncode, h]

theorem ampersand_not_mem_formEncode (s : List Char) : '&' ∉ formEncode s := by
  intro h
  obtain h | h | h := mem_formEncode h
  · exact absurd h (by decide)
  · exact absurd h (by decide)
  · exact (isFormPlain_ne h).2.2 rfl

theorem equals_not_mem_formEncode (s : List Char) : '=' ∉ formEncode s := by
  intro h
  obtain h | h | h := mem_formEncode h
  · exact absurd h (by decide)
  · exact absurd h (by decide)
  · exact absurd h (by decide)

theorem formDecode_formEncode (s : List Char) : formDecode (formEncode s) = s := by
  rw [formDecode]
  exact (congrArg decodeLossy (percentDecode_formEncode s)).trans (decodeLossy_utf8 s)

theorem splitFirst_append_cons {mark : Char} {before : List Char} (h : mark ∉ before)
    (after : List Char) : splitFirst mark (before ++ mark :: after) = some (before, after) := by
  induction before with
  | nil => exact if_pos rfl
  | cons c before ih =>
    rw [List.mem_cons, not_or] at h
    rw [List.cons_append, splitFirst, if_neg (Ne.symm h.1), ih h.2]
    rfl

theorem splitFirst_eq_some_iff {mark : Char} {s before after : List Char} :
    splitFirst mark s = some (before, after) ↔ s = before ++ mark :: after ∧ mark ∉ before := by
  constructor
  · intro h
    induction s generalizing before with
    | nil => simp [splitFirst] at h
    | cons c rest ih =>
      rw [splitFirst] at h
      split at h
      · obtain ⟨rfl, rfl⟩ := Prod.mk.inj (Option.some.inj h)
        subst_vars
        exact ⟨rfl, by simp⟩
      · rename_i hc
        obtain ⟨⟨b, a⟩, hrest, heq⟩ := Option.map_eq_some_iff.1 h
        obtain ⟨rfl, rfl⟩ := Prod.mk.inj heq
        obtain ⟨rfl, hmark⟩ := ih hrest
        exact ⟨rfl, by simp [hmark, Ne.symm hc]⟩
  · rintro ⟨rfl, hmark⟩
    exact splitFirst_append_cons hmark after

theorem splitFirst_eq_none_iff {mark : Char} {s : List Char} :
    splitFirst mark s = none ↔ mark ∉ s := by
  constructor
  · intro h hmem
    obtain ⟨before, after, rfl, hbefore⟩ := List.eq_append_cons_of_mem hmem
    rw [splitFirst_append_cons hbefore] at h
    cases h
  · intro h
    rw [Option.eq_none_iff_forall_ne_some]
    rintro ⟨before, after⟩ hsplit
    rw [splitFirst_eq_some_iff] at hsplit
    exact h (by simp [hsplit.1])

theorem splitLast_eq_none_iff {α : Type} [DecidableEq α] {mark : α} {s : List α} :
    splitLast mark s = none ↔ mark ∉ s := by
  induction s with
  | nil => simp [splitLast]
  | cons c s ih =>
    rw [splitLast, List.mem_cons, not_or, ← ih]
    cases splitLast mark s with
    | none => simp [eq_comm]
    | some parts => simp

theorem splitLast_append_cons {α : Type} [DecidableEq α] {mark : α} {after : List α}
    (h : mark ∉ after) (before : List α) :
    splitLast mark (before ++ mark :: after) = some (before, after) := by
  induction before with
  | nil => simp [splitLast, splitLast_eq_none_iff.2 h]
  | cons c before ih => rw [List.cons_append, splitLast, ih]

theorem splitLast_eq_some_iff {α : Type} [DecidableEq α] {mark : α} {s before after : List α} :
    splitLast mark s = some (before, after) ↔ s = before ++ mark :: after ∧ mark ∉ after := by
  constructor
  · intro h
    induction s generalizing before with
    | nil => cases h
    | cons c s ih =>
      rw [splitLast] at h
      split at h
      · rename_i hsplit
        obtain ⟨rfl, rfl⟩ := Prod.mk.inj (Option.some.inj h)
        obtain ⟨rfl, hmark⟩ := ih hsplit
        exact ⟨rfl, hmark⟩
      · rename_i hnone
        split at h
        · rename_i hc
          obtain ⟨rfl, rfl⟩ := Prod.mk.inj (Option.some.inj h)
          exact ⟨by rw [hc, List.nil_append], splitLast_eq_none_iff.1 hnone⟩
        · cases h
  · rintro ⟨rfl, hmark⟩
    exact splitLast_append_cons hmark before

theorem formPairs_pair (key value : List Char) :
    formPairs (formEncode key ++ '=' :: formEncode value) = [(key, value)] := by
  have hamp : '&' ∉ formEncode key ++ '=' :: formEncode value := by
    simp [ampersand_not_mem_formEncode]
  -- nothing divides the query, and the first equals sign is the one between the two
  rw [formPairs, List.splitOn_eq_singleton hamp]
  simp [splitFirst_append_cons (equals_not_mem_formEncode key), formDecode_formEncode]

theorem length_le_length_formEncode (s : List Char) : s.length ≤ (formEncode s).length := by
  induction s with
  | nil => exact Nat.zero_le _
  | cons c s ih =>
    have hone : 1 ≤ (formEncode [c]).length := by
      have hbytes : 0 < (utf8 [c]).length := by
        simpa [utf8, String.length_utf8EncodeChar] using c.utf8Size_pos
      have hencoded := length_le_length_percentEncode isFormPlain (utf8 [c])
      simp only [formEncode, List.flatMap_singleton]
      split
      · exact Nat.le_refl 1
      · omega
    have hsplit : formEncode (c :: s) = formEncode [c] ++ formEncode s := by simp [formEncode]
    rw [hsplit, List.length_append, List.length_cons]
    omega

end AsmExplorer.Text
