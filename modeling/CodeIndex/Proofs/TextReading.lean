import CodeIndex.Text.Utf8
import Mathlib.Data.List.TakeWhile
/-!
# Text read back

The octets of a text read back as that text, strictly and lossily, and two texts with the same
octets are the same text. Octets that read as a text are the octets of that text and of no other.
Leading octets are few, so their tables are checked one by one; what follows is arithmetic on the
code point.
-/
namespace CodeIndex.Utf8

/-- The leading octets of two. -/
theorem lead_two : ∀ n < 32, 2 ≤ n → lead (UInt8.ofNat (n + 0xC0)) = some ⟨1, 0x80, 0xBF, n⟩ := by
  decide

/-- The leading octets of three; the first keeps out overlong forms, the fourteenth surrogates. -/
theorem lead_three : ∀ n < 16, lead (UInt8.ofNat (n + 0xE0)) =
    some ⟨2, if n = 0 then 0xA0 else 0x80, if n = 13 then 0x9F else 0xBF, n⟩ := by
  decide

/-- The leading octets of four; the first keeps out overlong forms, the last what is no code
point. -/
theorem lead_four : ∀ n < 5, lead (UInt8.ofNat (n + 0xF0)) =
    some ⟨3, if n = 0 then 0x90 else 0x80, if n = 4 then 0x8F else 0xBF, n⟩ := by
  decide

/-- The octets that may follow a leading one. -/
theorem follower : ∀ k < 64,
    (0x80 ≤ UInt8.ofNat (k + 0x80) ∧ UInt8.ofNat (k + 0x80) ≤ 0xBF) ∧
      followBits (UInt8.ofNat (k + 0x80)) = k := by
  decide

theorem follow_step (n bits width m : Nat) (rest : Bytes) :
    follow (n + 1) bits width (UInt8.ofNat (m % 64 + 0x80) :: rest) =
      follow n (bits * 64 + m % 64) (width + 1) rest := by
  obtain ⟨⟨low, high⟩, carried⟩ := follower (m % 64) (Nat.mod_lt _ (by decide))
  generalize UInt8.ofNat (m % 64 + 0x80) = b at low high carried ⊢
  simp [follow, low, high, carried]

/-- A character of more than one octet, read from a leading octet and one that follows. -/
theorem head_of_lead {b c : UInt8} {l : Lead} (notAscii : ¬ b < 0x80) (hl : lead b = some l)
    (low : l.low ≤ c) (high : c ≤ l.high) (rest : Bytes) :
    head b (c :: rest) = follow (l.more - 1) (l.bits * 64 + followBits c) 2 rest := by
  simp [head, notAscii, hl, low, high]

theorem toNat_ofNat {n : Nat} (small : n < 256) : (UInt8.ofNat n).toNat = n := by
  simp [UInt8.toNat_ofNat', Nat.mod_eq_of_lt small]

theorem head_two {v : Nat} (low : 0x80 ≤ v) (high : v < 0x800) (rest : Bytes) :
    head (UInt8.ofNat (v / 64 % 32 + 0xC0)) (UInt8.ofNat (v % 64 + 0x80) :: rest) =
      .char (Char.ofNat v) rest := by
  obtain ⟨⟨lower, upper⟩, carried⟩ := follower (v % 64) (Nat.mod_lt _ (by decide))
  have notAscii : ¬ UInt8.ofNat (v / 64 % 32 + 0xC0) < 0x80 := by
    rw [UInt8.lt_iff_toNat_lt, toNat_ofNat (by omega)]
    simp
  rw [head_of_lead notAscii (lead_two _ (by omega) (by omega)) lower upper, carried]
  have whole : v / 64 % 32 * 64 + v % 64 = v := by omega
  simp [follow, whole]

theorem head_three {v : Nat} (low : 0x800 ≤ v) (high : v < 0x10000)
    (valid : v < 0xD800 ∨ 0xDFFF < v) (rest : Bytes) :
    head (UInt8.ofNat (v / 4096 % 16 + 0xE0)) (UInt8.ofNat (v / 64 % 64 + 0x80) ::
      UInt8.ofNat (v % 64 + 0x80) :: rest) = .char (Char.ofNat v) rest := by
  obtain ⟨⟨lower, upper⟩, carried⟩ := follower (v / 64 % 64) (Nat.mod_lt _ (by decide))
  have notAscii : ¬ UInt8.ofNat (v / 4096 % 16 + 0xE0) < 0x80 := by
    rw [UInt8.lt_iff_toNat_lt, toNat_ofNat (by omega)]
    simp
  have hl := lead_three (v / 4096 % 16) (by omega)
  have above : (if v / 4096 % 16 = 0 then 0xA0 else 0x80) ≤ UInt8.ofNat (v / 64 % 64 + 0x80) := by
    split
    · rw [UInt8.le_iff_toNat_le, toNat_ofNat (by omega)]
      simp
      omega
    · exact lower
  have below : UInt8.ofNat (v / 64 % 64 + 0x80) ≤ (if v / 4096 % 16 = 13 then 0x9F else 0xBF) := by
    split
    · rw [UInt8.le_iff_toNat_le, toNat_ofNat (by omega)]
      simp
      omega
    · exact upper
  rw [head_of_lead notAscii hl above below, carried]
  have whole : (v / 4096 % 16 * 64 + v / 64 % 64) * 64 + v % 64 = v := by omega
  simp only [Nat.reduceSub]
  rw [follow_step, whole, follow]

theorem head_four {v : Nat} (low : 0x10000 ≤ v) (high : v < 0x110000) (rest : Bytes) :
    head (UInt8.ofNat (v / 262144 % 8 + 0xF0)) (UInt8.ofNat (v / 4096 % 64 + 0x80) ::
      UInt8.ofNat (v / 64 % 64 + 0x80) :: UInt8.ofNat (v % 64 + 0x80) :: rest) =
        .char (Char.ofNat v) rest := by
  obtain ⟨⟨lower, upper⟩, carried⟩ := follower (v / 4096 % 64) (Nat.mod_lt _ (by decide))
  have notAscii : ¬ UInt8.ofNat (v / 262144 % 8 + 0xF0) < 0x80 := by
    rw [UInt8.lt_iff_toNat_lt, toNat_ofNat (by omega)]
    simp
  have hl := lead_four (v / 262144 % 8) (by omega)
  have above : (if v / 262144 % 8 = 0 then 0x90 else 0x80) ≤
      UInt8.ofNat (v / 4096 % 64 + 0x80) := by
    split
    · rw [UInt8.le_iff_toNat_le, toNat_ofNat (by omega)]
      simp
      omega
    · exact lower
  have below : UInt8.ofNat (v / 4096 % 64 + 0x80) ≤
      (if v / 262144 % 8 = 4 then 0x8F else 0xBF) := by
    split
    · rw [UInt8.le_iff_toNat_le, toNat_ofNat (by omega)]
      simp
      omega
    · exact upper
  rw [head_of_lead notAscii hl above below, carried]
  have whole : ((v / 262144 % 8 * 64 + v / 4096 % 64) * 64 + v / 64 % 64) * 64 + v % 64 = v := by
    omega
  simp only [Nat.reduceSub]
  rw [follow_step, follow_step, whole, follow]

theorem head_one {v : Nat} (small : v < 0x80) (rest : Bytes) :
    head (UInt8.ofNat v) rest = .char (Char.ofNat v) rest := by
  have value : (UInt8.ofNat v).toNat = v := toNat_ofNat (by omega)
  have ascii : UInt8.ofNat v < 0x80 := by
    rw [UInt8.lt_iff_toNat_lt, value]
    exact small
  simp [head, ascii, value]

/-- The octets of a character read back as the character. -/
theorem head_utf8EncodeChar (c : Char) (rest : Bytes) :
    ∃ b more, String.utf8EncodeChar c = b :: more ∧ head b (more ++ rest) = .char c rest := by
  have valid : c.toNat < 0xD800 ∨ 0xDFFF < c.toNat ∧ c.toNat < 0x110000 := c.valid
  have back : Char.ofNat c.toNat = c := Char.ofNat_toNat c
  have value : c.val.toNat = c.toNat := rfl
  rw [String.utf8EncodeChar, value]
  generalize c.toNat = v at valid back
  subst back
  split
  · exact ⟨_, _, rfl, head_one (by omega) rest⟩
  · split
    · exact ⟨_, _, rfl, head_two (by omega) (by omega) rest⟩
    · split
      · exact ⟨_, _, rfl, head_three (by omega) (by omega) (by omega) rest⟩
      · exact ⟨_, _, rfl, head_four (by omega) (by omega) rest⟩

theorem read_flatMap (start : Nat) (text : List Char) :
    read start (text.flatMap String.utf8EncodeChar) = .ok text := by
  induction text generalizing start with
  | nil => rw [List.flatMap_nil, read]
  | cons c rest ih =>
    obtain ⟨b, more, encoded, front⟩ :=
      head_utf8EncodeChar c (rest.flatMap String.utf8EncodeChar)
    rw [List.flatMap_cons, encoded, List.cons_append, read]
    split
    · rename_i c' rest' same
      rw [front, Head.char.injEq] at same
      obtain ⟨rfl, rfl⟩ := same
      rw [ih]
      rfl
    · rename_i same
      rw [front] at same
      cases same
    · rename_i same
      rw [front] at same
      cases same

theorem readLossy_flatMap (text : List Char) :
    readLossy (text.flatMap String.utf8EncodeChar) = text := by
  induction text with
  | nil => rw [List.flatMap_nil, readLossy]
  | cons c rest ih =>
    obtain ⟨b, more, encoded, front⟩ :=
      head_utf8EncodeChar c (rest.flatMap String.utf8EncodeChar)
    rw [List.flatMap_cons, encoded, List.cons_append, readLossy]
    split
    · rename_i c' rest' same
      rw [front, Head.char.injEq] at same
      obtain ⟨rfl, rfl⟩ := same
      rw [ih]
    · rename_i same
      rw [front] at same
      cases same
    · rename_i same
      rw [front] at same
      cases same

/-- The octets of a text are text, and that text. -/
theorem decode_encode (text : String) : decode (encode text) = .ok text := by
  rw [decode, encode, read_flatMap, Except.map, String.ofList_toList]

theorem lossy_encode (text : String) : lossy (encode text) = text := by
  rw [lossy, encode, readLossy_flatMap, String.ofList_toList]

/-- Texts with the same octets are the same. -/
theorem encode_inj {a b : String} : encode a = encode b ↔ a = b := by
  constructor
  · intro same
    have read := congrArg lossy same
    rwa [lossy_encode, lossy_encode] at read
  · intro same
    rw [same]

theorem ofNat_ne_zero {n : Nat} (pos : 0 < n) (small : n < 256) : UInt8.ofNat n ≠ 0 := by
  intro zero
  have value := congrArg UInt8.toNat zero
  rw [toNat_ofNat small] at value
  simp at value
  omega

theorem utf8EncodeChar_ne_zero {c : Char} (notNul : c ≠ '\x00') :
    ∀ b ∈ String.utf8EncodeChar c, b ≠ 0 := by
  have pos : 0 < c.toNat := by
    apply Nat.pos_of_ne_zero
    intro zero
    apply notNul
    rw [← Char.ofNat_toNat c, zero]
  have value : c.val.toNat = c.toNat := rfl
  rw [String.utf8EncodeChar, value]
  generalize c.toNat = v at pos
  intro b
  split
  · simp only [List.mem_singleton]
    rintro rfl
    exact ofNat_ne_zero pos (by omega)
  · split
    · simp only [List.mem_cons, List.not_mem_nil, or_false]
      rintro (rfl | rfl) <;> exact ofNat_ne_zero (by omega) (by omega)
    · split
      · simp only [List.mem_cons, List.not_mem_nil, or_false]
        rintro (rfl | rfl | rfl) <;> exact ofNat_ne_zero (by omega) (by omega)
      · simp only [List.mem_cons, List.not_mem_nil, or_false]
        rintro (rfl | rfl | rfl | rfl) <;> exact ofNat_ne_zero (by omega) (by omega)

/-- A text without a zero character has no zero octet. -/
theorem beforeNul_encode {text : String} (noNul : hasNul text = false) :
    (encode text).beforeNul = encode text := by
  rw [Bytes.beforeNul, encode, List.takeWhile_eq_self_iff]
  intro b inside
  obtain ⟨c, among, octet⟩ := List.mem_flatMap.mp inside
  have notNul : c ≠ '\x00' := by
    rintro rfl
    simp [hasNul, among] at noNul
  simpa using utf8EncodeChar_ne_zero notNul b octet

/-- What follows a leading octet carries six bits. -/
theorem lead_bounds : ∀ n < 256, ∀ l ∈ lead (UInt8.ofNat n),
    0x80 ≤ l.low.toNat ∧ l.high.toNat ≤ 0xBF := by
  decide +kernel

set_option synthInstance.maxSize 256 in
/-- Any leading octet is one of those of two, three or four octets. -/
theorem lead_cases : ∀ n < 256, ∀ l ∈ lead (UInt8.ofNat n),
    (l.more = 1 ∧ n = l.bits + 0xC0 ∧ 2 ≤ l.bits ∧ l.bits < 32) ∨
    (l.more = 2 ∧ n = l.bits + 0xE0 ∧ l.bits < 16 ∧
      (l.bits ≠ 0 ∨ 0xA0 ≤ l.low.toNat) ∧ (l.bits ≠ 13 ∨ l.high.toNat ≤ 0x9F)) ∨
    (l.more = 3 ∧ n = l.bits + 0xF0 ∧ l.bits < 5 ∧
      (l.bits ≠ 0 ∨ 0x90 ≤ l.low.toNat) ∧ (l.bits ≠ 4 ∨ l.high.toNat ≤ 0x8F)) := by
  decide +kernel

/-- A following octet, as the bits it carries. -/
theorem eq_followBits {b : UInt8} (low : 0x80 ≤ b.toNat) (high : b.toNat ≤ 0xBF) :
    followBits b + 0x80 = b.toNat ∧ followBits b < 64 ∧ b = UInt8.ofNat (followBits b + 0x80) := by
  have carried : followBits b + 0x80 = b.toNat := Nat.sub_add_cancel low
  refine ⟨carried, by omega, ?_⟩
  rw [carried, UInt8.ofNat_toNat]

/-- A character that was read on takes one following octet after the other. -/
theorem of_follow {n bits width : Nat} {bytes rest : Bytes} {c : Char}
    (h : follow (n + 1) bits width bytes = .char c rest) :
    ∃ k < 64, ∃ more, bytes = UInt8.ofNat (k + 0x80) :: more ∧
      follow n (bits * 64 + k) (width + 1) more = .char c rest := by
  cases bytes with
  | nil => cases h
  | cons b more =>
    rw [follow] at h
    split at h
    · rename_i between
      simp only [Bool.and_eq_true, decide_eq_true_eq, UInt8.le_iff_toNat_le,
        UInt8.reduceToNat] at between
      obtain ⟨-, small, eq⟩ := eq_followBits between.1 between.2
      exact ⟨_, small, more, by rw [← eq], h⟩
    · cases h

theorem toNat_char {v : Nat} (valid : v < 0xD800 ∨ 0xDFFF < v ∧ v < 0x110000) :
    (Char.ofNat v).val.toNat = v := by
  have h : v.isValidChar := valid
  rw [Char.ofNat, dif_pos h]
  rfl

theorem encodeChar_two {n k : Nat} (low : 2 ≤ n) (high : n < 32) (hk : k < 64) :
    String.utf8EncodeChar (Char.ofNat (n * 64 + k)) =
      [UInt8.ofNat (n + 0xC0), UInt8.ofNat (k + 0x80)] := by
  have lead : (n * 64 + k) / 64 % 32 = n := by omega
  have last : (n * 64 + k) % 64 = k := by omega
  rw [String.utf8EncodeChar, toNat_char (by omega), if_neg (by omega), if_pos (by omega), lead,
    last]

theorem encodeChar_three {n k m : Nat} (high : n < 16) (hk : k < 64) (hm : m < 64)
    (long : n = 0 → 32 ≤ k) (valid : n = 13 → k < 32) :
    String.utf8EncodeChar (Char.ofNat ((n * 64 + k) * 64 + m)) =
      [UInt8.ofNat (n + 0xE0), UInt8.ofNat (k + 0x80), UInt8.ofNat (m + 0x80)] := by
  have lead : ((n * 64 + k) * 64 + m) / 4096 % 16 = n := by omega
  have middle : ((n * 64 + k) * 64 + m) / 64 % 64 = k := by omega
  have last : ((n * 64 + k) * 64 + m) % 64 = m := by omega
  rw [String.utf8EncodeChar, toNat_char (by omega), if_neg (by omega), if_neg (by omega),
    if_pos (by omega), lead, middle, last]

theorem encodeChar_four {n k m p : Nat} (high : n < 5) (hk : k < 64) (hm : m < 64) (hp : p < 64)
    (long : n = 0 → 16 ≤ k) (valid : n = 4 → k < 16) :
    String.utf8EncodeChar (Char.ofNat (((n * 64 + k) * 64 + m) * 64 + p)) =
      [UInt8.ofNat (n + 0xF0), UInt8.ofNat (k + 0x80), UInt8.ofNat (m + 0x80),
        UInt8.ofNat (p + 0x80)] := by
  have lead : (((n * 64 + k) * 64 + m) * 64 + p) / 262144 % 8 = n := by omega
  have second : (((n * 64 + k) * 64 + m) * 64 + p) / 4096 % 64 = k := by omega
  have third : (((n * 64 + k) * 64 + m) * 64 + p) / 64 % 64 = m := by omega
  have last : (((n * 64 + k) * 64 + m) * 64 + p) % 64 = p := by omega
  rw [String.utf8EncodeChar, toNat_char (by omega), if_neg (by omega), if_neg (by omega),
    if_neg (by omega), lead, second, third, last]

/-- What was read as a character is the octets of the character. -/
theorem eq_of_head {b : UInt8} {more rest : Bytes} {c : Char} (h : head b more = .char c rest) :
    b :: more = String.utf8EncodeChar c ++ rest := by
  simp only [head] at h
  split at h
  · rename_i ascii
    rw [UInt8.lt_iff_toNat_lt] at ascii
    simp only [UInt8.reduceToNat] at ascii
    obtain ⟨rfl, rfl⟩ := Head.char.inj h
    rw [String.utf8EncodeChar, toNat_char (by omega), if_pos (by omega), UInt8.ofNat_toNat]
    rfl
  · split at h
    · cases h
    · cases h
    · rename_i l c' more' leading
      split at h
      · rename_i between
        simp only [Bool.and_eq_true, decide_eq_true_eq, UInt8.le_iff_toNat_le] at between
        have leader : UInt8.ofNat b.toNat = b := UInt8.ofNat_toNat
        have among : l ∈ lead (UInt8.ofNat b.toNat) := by rw [leader]; exact leading
        have bounds := lead_bounds b.toNat (UInt8.toNat_lt b) l among
        have forms := lead_cases b.toNat (UInt8.toNat_lt b) l among
        obtain ⟨carried, small, eq⟩ := eq_followBits (b := c') (by omega) (by omega)
        rw [← leader, eq]
        generalize followBits c' = k at *
        rcases forms with ⟨two, lead, atLeast, below⟩ | ⟨three, lead, below, low, high⟩ |
          ⟨four, lead, below, low, high⟩
        · rw [two] at h
          obtain ⟨rfl, rfl⟩ := Head.char.inj h
          rw [encodeChar_two atLeast below small, lead]
          rfl
        · rw [three] at h
          obtain ⟨m, hm, more, rfl, last⟩ := of_follow h
          obtain ⟨rfl, rfl⟩ := Head.char.inj last
          rw [encodeChar_three below small hm (by omega) (by omega), lead]
          rfl
        · rw [four] at h
          obtain ⟨m, hm, more, rfl, further⟩ := of_follow h
          obtain ⟨p, hp, more, rfl, last⟩ := of_follow further
          obtain ⟨rfl, rfl⟩ := Head.char.inj last
          rw [encodeChar_four below small hm hp (by omega) (by omega), lead]
          rfl
      · cases h

theorem flatMap_of_read {start : Nat} {bytes : Bytes} {text : List Char}
    (h : read start bytes = .ok text) : text.flatMap String.utf8EncodeChar = bytes := by
  induction start, bytes using read.induct generalizing text with
  | case1 =>
    rw [read] at h
    cases h
    rfl
  | case2 start b more c rest front ih =>
    rw [read] at h
    split at h
    · rename_i c' rest' same
      rw [front, Head.char.injEq] at same
      obtain ⟨rfl, rfl⟩ := same
      cases tail : read (start + c.utf8Size) rest with
      | error fault =>
        rw [tail] at h
        cases h
      | ok text' =>
        rw [tail] at h
        cases h
        rw [List.flatMap_cons, ih tail, eq_of_head front]
    · cases h
    · cases h
  | case3 start b more width front =>
    rw [read] at h
    split at h
    · rename_i same
      rw [front] at same
      cases same
    · cases h
    · cases h
  | case4 start b more front =>
    rw [read] at h
    split at h
    · rename_i same
      rw [front] at same
      cases same
    · cases h
    · cases h

/-- Octets that read as a text are the octets of this text. -/
theorem encode_of_decode {octets : Bytes} {text : String} (h : decode octets = .ok text) :
    encode text = octets := by
  rw [decode] at h
  cases whole : read 0 octets with
  | error fault =>
    rw [whole] at h
    cases h
  | ok chars =>
    rw [whole] at h
    cases h
    rw [encode, String.toList_ofList, flatMap_of_read whole]

end CodeIndex.Utf8
