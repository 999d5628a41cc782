import CodeIndex.Proofs.TextReading
/-!
# Well-formed octets

Octets are well formed when they are code points one after the other, each carried in as few octets
as can carry it, none of them a surrogate or beyond the last one. This is said here of the forms in
which octets carry numbers, without reading any; well-formed octets turn out to be those of texts. A
text is spelled in one way, so a reader that stops has read all that is well formed in front.
-/
namespace CodeIndex.Utf8

/-- Octets that carry a number, in one of four forms: the leading octet tells the form, and each
octet behind it carries six bits. A small number has more than one form. -/
inductive Carries : Bytes → Nat → Prop where
  | one {a : Nat} : a < 0x80 → Carries [UInt8.ofNat a] a
  | two {a b : Nat} : a < 32 → b < 64 →
    Carries [UInt8.ofNat (a + 0xC0), UInt8.ofNat (b + 0x80)] (a * 64 + b)
  | three {a b c : Nat} : a < 16 → b < 64 → c < 64 →
    Carries [UInt8.ofNat (a + 0xE0), UInt8.ofNat (b + 0x80), UInt8.ofNat (c + 0x80)]
      ((a * 64 + b) * 64 + c)
  | four {a b c d : Nat} : a < 8 → b < 64 → c < 64 → d < 64 →
    Carries [UInt8.ofNat (a + 0xF0), UInt8.ofNat (b + 0x80), UInt8.ofNat (c + 0x80),
      UInt8.ofNat (d + 0x80)] (((a * 64 + b) * 64 + c) * 64 + d)

structure Spells (octets : Bytes) (point : Nat) : Prop where
  carries : Carries octets point
  /-- They are no overlong form. -/
  shortest (others : Bytes) : Carries others point → octets.length ≤ others.length
  notSurrogate : point < 0xD800 ∨ 0xDFFF < point
  inRange : point ≤ 0x10FFFF

/-- Octets that spell code points one after the other. -/
inductive WellFormed : Bytes → Prop where
  | nil : WellFormed []
  | cons {octets rest : Bytes} {point : Nat} :
    Spells octets point → WellFormed rest → WellFormed (octets ++ rest)

/-- How many octets a number needs. -/
theorem Carries.length_ge {octets : Bytes} {v : Nat} (h : Carries octets v) :
    1 ≤ octets.length ∧ (0x80 ≤ v → 2 ≤ octets.length) ∧ (0x800 ≤ v → 3 ≤ octets.length) ∧
      (0x10000 ≤ v → 4 ≤ octets.length) := by
  cases h <;> simp only [List.length_cons, List.length_nil] <;> omega

/-- A number of seven bits needs no more than one octet. -/
theorem carries_one {v : Nat} (small : v < 0x80) :
    ∃ octets, octets.length = 1 ∧ Carries octets v :=
  ⟨_, rfl, .one small⟩

theorem carries_two {v : Nat} (small : v < 0x800) :
    ∃ octets, octets.length = 2 ∧ Carries octets v := by
  have parts := Carries.two (a := v / 64) (b := v % 64) (by omega) (by omega)
  rw [Nat.div_add_mod'] at parts
  exact ⟨_, rfl, parts⟩

theorem carries_three {v : Nat} (small : v < 0x10000) :
    ∃ octets, octets.length = 3 ∧ Carries octets v := by
  have parts := Carries.three (a := v / 64 / 64) (b := v / 64 % 64) (c := v % 64) (by omega)
    (by omega) (by omega)
  rw [Nat.div_add_mod', Nat.div_add_mod'] at parts
  exact ⟨_, rfl, parts⟩

/-- A number spelled in more octets than some others needs them. -/
theorem Spells.least {octets : Bytes} {v k : Nat} (h : Spells octets v)
    (others : ∃ octets, octets.length = k ∧ Carries octets v) : octets.length ≤ k := by
  obtain ⟨other, rfl, carries⟩ := others
  exact h.shortest other carries

/-- What spells a code point are the octets of the character. -/
theorem Spells.eq_encodeChar {octets : Bytes} {v : Nat} (h : Spells octets v) :
    octets = String.utf8EncodeChar (Char.ofNat v) := by
  have bounds := h.inRange
  have valid := h.notSurrogate
  have long {k : Nat} := h.least (k := k)
  -- a form that has a shorter one is too long, so what each form carries is bounded from below
  cases h.carries with
  | one small =>
    rw [String.utf8EncodeChar, toNat_char (by omega), if_pos (by omega)]
  | @two a b ha hb =>
    have atLeast : ¬ a * 64 + b < 0x80 := fun small => by simpa using long (carries_one small)
    rw [encodeChar_two (by omega) ha hb]
  | @three a b c ha hb hc =>
    have atLeast : ¬ (a * 64 + b) * 64 + c < 0x800 := fun small => by
      simpa using long (carries_two small)
    rw [encodeChar_three ha hb hc (by omega) (by omega)]
  | @four a b c d ha hb hc hd =>
    have atLeast : ¬ ((a * 64 + b) * 64 + c) * 64 + d < 0x10000 := fun small => by
      simpa using long (carries_three small)
    rw [encodeChar_four (by omega) hb hc hd (by omega) (by omega)]

/-- The octets of a character carry its code point, and no fewer octets can. -/
theorem encodeChar_carries (c : Char) : Carries (String.utf8EncodeChar c) c.toNat ∧
    ∀ others, Carries others c.toNat → (String.utf8EncodeChar c).length ≤ others.length := by
  have bound : c.toNat < 0xD800 ∨ 0xDFFF < c.toNat ∧ c.toNat < 0x110000 := c.valid
  have value : c.val.toNat = c.toNat := rfl
  rw [String.utf8EncodeChar, value]
  generalize c.toNat = v at bound
  have needed {others : Bytes} (carries : Carries others v) := carries.length_ge
  split
  · exact ⟨.one (by omega), fun others carries => (needed carries).1⟩
  · split
    · have parts := Carries.two (a := v / 64 % 32) (b := v % 64) (by omega) (by omega)
      have whole : v / 64 % 32 * 64 + v % 64 = v := by omega
      rw [whole] at parts
      exact ⟨parts, fun others carries => (needed carries).2.1 (by omega)⟩
    · split
      · have parts := Carries.three (a := v / 4096 % 16) (b := v / 64 % 64) (c := v % 64)
          (by omega) (by omega) (by omega)
        have whole : (v / 4096 % 16 * 64 + v / 64 % 64) * 64 + v % 64 = v := by omega
        rw [whole] at parts
        exact ⟨parts, fun others carries => (needed carries).2.2.1 (by omega)⟩
      · have parts := Carries.four (a := v / 262144 % 8) (b := v / 4096 % 64) (c := v / 64 % 64)
          (d := v % 64) (by omega) (by omega) (by omega) (by omega)
        have whole :
            ((v / 262144 % 8 * 64 + v / 4096 % 64) * 64 + v / 64 % 64) * 64 + v % 64 = v := by
          omega
        rw [whole] at parts
        exact ⟨parts, fun others carries => (needed carries).2.2.2 (by omega)⟩

/-- The octets of a character spell its code point. -/
theorem spells_encodeChar (c : Char) : Spells (String.utf8EncodeChar c) c.toNat := by
  have valid : c.toNat < 0xD800 ∨ 0xDFFF < c.toNat ∧ c.toNat < 0x110000 := c.valid
  obtain ⟨carries, shortest⟩ := encodeChar_carries c
  exact ⟨carries, shortest, by omega, by omega⟩

theorem wellFormed_flatMap (text : List Char) :
    WellFormed (text.flatMap String.utf8EncodeChar) := by
  induction text with
  | nil => exact .nil
  | cons c rest ih => exact .cons (spells_encodeChar c) ih

/-- Well-formed octets are those of a text. -/
theorem wellFormed_iff {octets : Bytes} : WellFormed octets ↔ ∃ text, encode text = octets := by
  constructor
  · intro formed
    induction formed with
    | nil => exact ⟨"", rfl⟩
    | @cons octets rest v spelled _ ih =>
      obtain ⟨text, rfl⟩ := ih
      refine ⟨String.ofList (Char.ofNat v :: text.toList), ?_⟩
      rw [encode, String.toList_ofList, List.flatMap_cons, spelled.eq_encodeChar, encode]
  · rintro ⟨text, rfl⟩
    exact wellFormed_flatMap text.toList

end CodeIndex.Utf8
