import AsmExplorer.Text.Utf8

/-!
# Reading what was written

The bytes of a text are read back as that text (`decode?_utf8`, `decodeLossy_utf8`).  It is enough
to see this for one character before other bytes (`decodeParts_utf8EncodeChar`), by the number of
its bytes: the first byte announces how many follow, and the bounds that it sets for the second byte
leave out no character, but only the overlong forms, the surrogates and what is too large.
-/

namespace AsmExplorer.Text

/-! ### One byte -/

theorem decodeParts_none_cons (b : UInt8) (rest : List UInt8) :
    decodeParts none (b :: rest) =
      (startSequence b).1 ++ decodeParts (startSequence b).2 rest := by
  rw [decodeParts, Option.elim_none]

theorem decodeParts_some_cons (p : Pending) (b : UInt8) (rest : List UInt8) :
    decodeParts (some p) (b :: rest) = (p.feed b).1 ++ decodeParts (p.feed b).2 rest := by
  rw [decodeParts, Option.elim_some]

theorem decodeParts_start {b : UInt8} (rest : List UInt8) (h : b.toNat < 0x80) :
    decodeParts none (b :: rest) = some (Char.ofNat b.toNat) :: decodeParts none rest := by
  rw [decodeParts_none_cons, startSequence, if_pos h]
  rfl

/-- A byte that announces others. -/
theorem decodeParts_lead {b : UInt8} (rest : List UInt8) {lead : Lead}
    (h : Lead.ofByte? b = some lead) (hb : 0x80 ≤ b.toNat) :
    decodeParts none (b :: rest) =
      decodeParts (some ⟨lead.more, lead.bits, lead.low, lead.high⟩) rest := by
  rw [decodeParts_none_cons, startSequence, if_neg (Nat.not_lt.2 hb), h]
  rfl

/-- A byte that was announced, with others to come. -/
theorem decodeParts_more {b : UInt8} (rest : List UInt8) {p : Pending}
    (h : p.low ≤ b.toNat ∧ b.toNat ≤ p.high) (hmore : 1 < p.missing) :
    decodeParts (some p) (b :: rest) =
      decodeParts (some ⟨p.missing - 1, p.value * 64 + (b.toNat - 0x80), 0x80, 0xBF⟩) rest := by
  rw [decodeParts_some_cons, Pending.feed, if_pos h]
  dsimp only
  rw [if_neg (Nat.not_le.2 hmore)]
  rfl

/-- The last byte that was announced. -/
theorem decodeParts_last {b : UInt8} (rest : List UInt8) {p : Pending}
    (h : p.low ≤ b.toNat ∧ b.toNat ≤ p.high) (hlast : p.missing ≤ 1) :
    decodeParts (some p) (b :: rest) =
      some (Char.ofNat (p.value * 64 + (b.toNat - 0x80))) :: decodeParts none rest := by
  rw [decodeParts_some_cons, Pending.feed, if_pos h]
  dsimp only
  rw [if_pos hlast]
  rfl

/-! ### First bytes -/

theorem Lead.ofByte?_of_two {b : UInt8} (h : 0xC2 ≤ b.toNat ∧ b.toNat ≤ 0xDF) :
    Lead.ofByte? b = some { more := 1, bits := b.toNat - 0xC0 } :=
  if_pos h

/-- The first of three bytes, and the bounds of the second. -/
theorem Lead.ofByte?_of_three {b : UInt8} {v : Nat} (hv : 0x800 ≤ v ∧ v ≤ 0xFFFF)
    (hvalid : v < 0xD800 ∨ 0xDFFF < v) (hb : b.toNat = v / 4096 + 0xE0) :
    ∃ lead, Lead.ofByte? b = some lead ∧ lead.more = 2 ∧ lead.bits = v / 4096 ∧
      lead.low ≤ v / 64 % 64 + 0x80 ∧ v / 64 % 64 + 0x80 ≤ lead.high := by
  simp only [Lead.ofByte?, hb]
  -- the least first byte excludes values of two bytes, the second one the surrogates
  split
  · omega
  split
  · exact ⟨_, rfl, rfl, by dsimp only; omega, by dsimp only; omega, by dsimp only; omega⟩
  split
  · exact ⟨_, rfl, rfl, by dsimp only; omega, by dsimp only; omega, by dsimp only; omega⟩
  split
  · exact ⟨_, rfl, rfl, by dsimp only; omega, by dsimp only; omega, by dsimp only; omega⟩
  · omega

/-- The first of four bytes, and the bounds of the second. -/
theorem Lead.ofByte?_of_four {b : UInt8} {v : Nat} (hv : 0x10000 ≤ v ∧ v < 0x110000)
    (hb : b.toNat = v / 262144 + 0xF0) :
    ∃ lead, Lead.ofByte? b = some lead ∧ lead.more = 3 ∧ lead.bits = v / 262144 ∧
      lead.low ≤ v / 4096 % 64 + 0x80 ∧ v / 4096 % 64 + 0x80 ≤ lead.high := by
  simp only [Lead.ofByte?, hb]
  -- the least first byte excludes values of three bytes, the greatest those that are no character
  split
  · omega
  split
  · omega
  split
  · omega
  split
  · omega
  split
  · exact ⟨_, rfl, rfl, by dsimp only; omega, by dsimp only; omega, by dsimp only; omega⟩
  split
  · exact ⟨_, rfl, rfl, by dsimp only; omega, by dsimp only; omega, by dsimp only; omega⟩
  split
  · exact ⟨_, rfl, rfl, by dsimp only; omega, by dsimp only; omega, by dsimp only; omega⟩
  · omega

/-! ### Characters -/

theorem toNat_ofNat_of_lt {n : Nat} (h : n < 256) : (UInt8.ofNat n).toNat = n := by
  simpa using Nat.mod_eq_of_lt h

theorem toNat_continuation (v : Nat) : (UInt8.ofNat (v % 0x40 + 0x80)).toNat = v % 0x40 + 0x80 :=
  toNat_ofNat_of_lt (by omega)

variable {v : Nat}

theorem decodeParts_two (hv : 0x80 ≤ v ∧ v ≤ 0x7FF) (rest : List UInt8) :
    decodeParts none (UInt8.ofNat (v / 64 % 0x20 + 0xc0) :: UInt8.ofNat (v % 0x40 + 0x80) :: rest) =
      some (Char.ofNat v) :: decodeParts none rest := by
  have h₁ : (UInt8.ofNat (v / 64 % 0x20 + 0xc0)).toNat = v / 64 + 0xc0 := by
    rw [toNat_ofNat_of_lt (by omega), Nat.mod_eq_of_lt (by omega)]
  have h₂ := toNat_continuation v
  have hlead := Lead.ofByte?_of_two (b := UInt8.ofNat (v / 64 % 0x20 + 0xc0)) (by omega)
  have hvalue : (v / 64 + 0xc0 - 0xc0) * 64 + (v % 0x40 + 0x80 - 0x80) = v := by omega
  rw [decodeParts_lead _ hlead (by omega),
    decodeParts_last _ (by dsimp only; omega) (Nat.le_refl 1)]
  simp only [h₁, h₂, hvalue]

/-- A value of three bytes. -/
theorem decodeParts_three (hv : 0x800 ≤ v ∧ v ≤ 0xFFFF) (hvalid : v < 0xD800 ∨ 0xDFFF < v)
    (rest : List UInt8) :
    decodeParts none (UInt8.ofNat (v / 4096 % 0x10 + 0xe0) :: UInt8.ofNat (v / 64 % 0x40 + 0x80) ::
        UInt8.ofNat (v % 0x40 + 0x80) :: rest) =
      some (Char.ofNat v) :: decodeParts none rest := by
  have h₁ : (UInt8.ofNat (v / 4096 % 0x10 + 0xe0)).toNat = v / 4096 + 0xe0 := by
    rw [toNat_ofNat_of_lt (by omega), Nat.mod_eq_of_lt (by omega)]
  have h₂ := toNat_continuation (v / 64)
  have h₃ := toNat_continuation v
  obtain ⟨lead, hlead, hmore, hbits, hbounds⟩ := Lead.ofByte?_of_three hv hvalid h₁
  have hvalue : (v / 4096 * 64 + (v / 64 % 0x40 + 0x80 - 0x80)) * 64 +
      (v % 0x40 + 0x80 - 0x80) = v := by omega
  rw [decodeParts_lead _ hlead (by omega),
    decodeParts_more _ (by dsimp only; omega) (by dsimp only; omega),
    decodeParts_last _ (by dsimp only; omega) (by dsimp only; omega)]
  simp only [h₂, h₃, hbits, hvalue]

/-- A value of four bytes. -/
theorem decodeParts_four (hv : 0x10000 ≤ v ∧ v < 0x110000) (rest : List UInt8) :
    decodeParts none (UInt8.ofNat (v / 262144 % 0x08 + 0xf0) ::
        UInt8.ofNat (v / 4096 % 0x40 + 0x80) :: UInt8.ofNat (v / 64 % 0x40 + 0x80) ::
        UInt8.ofNat (v % 0x40 + 0x80) :: rest) =
      some (Char.ofNat v) :: decodeParts none rest := by
  have h₁ : (UInt8.ofNat (v / 262144 % 0x08 + 0xf0)).toNat = v / 262144 + 0xf0 := by
    rw [toNat_ofNat_of_lt (by omega), Nat.mod_eq_of_lt (by omega)]
  have h₂ := toNat_continuation (v / 4096)
  have h₃ := toNat_continuation (v / 64)
  have h₄ := toNat_continuation v
  obtain ⟨lead, hlead, hmore, hbits, hbounds⟩ := Lead.ofByte?_of_four hv h₁
  have hvalue : ((v / 262144 * 64 + (v / 4096 % 0x40 + 0x80 - 0x80)) * 64 +
      (v / 64 % 0x40 + 0x80 - 0x80)) * 64 + (v % 0x40 + 0x80 - 0x80) = v := by omega
  rw [decodeParts_lead _ hlead (by omega),
    decodeParts_more _ (by dsimp only; omega) (by dsimp only; omega),
    decodeParts_more _ (by dsimp only; omega) (by dsimp only; omega),
    decodeParts_last _ (by dsimp only; omega) (by dsimp only; omega)]
  simp only [h₂, h₃, h₄, hbits, hvalue]

theorem decodeParts_utf8EncodeChar (c : Char) (rest : List UInt8) :
    decodeParts none (String.utf8EncodeChar c ++ rest) = some c :: decodeParts none rest := by
  have hofNat : Char.ofNat c.val.toNat = c := Char.ofNat_toNat c
  have hvalid : c.val.toNat < 0xD800 ∨ 0xDFFF < c.val.toNat ∧ c.val.toNat < 0x110000 := c.valid
  simp only [String.utf8EncodeChar]
  generalize c.val.toNat = v at hofNat hvalid ⊢
  subst hofNat
  split
  · have hbyte : (UInt8.ofNat v).toNat = v := toNat_ofNat_of_lt (by omega)
    rw [List.singleton_append, decodeParts_start rest (by omega), hbyte]
  split
  · exact decodeParts_two (by omega) rest
  split
  · exact decodeParts_three (by omega) (by omega) rest
  · exact decodeParts_four (by omega) rest

/-! ### Texts -/

theorem decodeParts_utf8 (s : List Char) : decodeParts none (utf8 s) = s.map some := by
  induction s with
  | nil => simp [utf8, decodeParts]
  | cons c s ih =>
    rw [utf8, List.flatMap_cons, decodeParts_utf8EncodeChar, ← utf8, ih, List.map_cons]

theorem decode?_utf8 (s : List Char) : decode? (utf8 s) = some s := by
  rw [decode?, decodeParts_utf8]
  induction s with
  | nil => rfl
  | cons c s ih => simp [ih]

theorem decodeLossy_utf8 (s : List Char) : decodeLossy (utf8 s) = s := by
  simp [decodeLossy, decodeParts_utf8, Function.comp_def]

end AsmExplorer.Text
