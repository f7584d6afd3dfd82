/-
UTF-8 reads back what it writes: the encoding of a code point is one piece, whatever follows it, and
the piece is that code point. Each of the four lengths has its own range of first bytes, so a shorter
form is never found where a longer one was written. And whatever a text is cut into, put together it
is the text again.
-/
import StackTypes.Text.Utf8

namespace StackTypes.Utf8

theorem toNat_toUInt8 {n : Nat} (h : n < 256) : n.toUInt8.toNat = n :=
  UInt8.toNat_ofNat_of_lt' h

theorem toNat_tail (n : Nat) : (0x80 + n % 64).toUInt8.toNat = 0x80 + n % 64 :=
  toNat_toUInt8 (by omega)

theorem isTail_tail (n : Nat) : isTail (0x80 + n % 64).toUInt8 = true := by
  unfold isTail
  simp only [UInt8.le_iff_toNat_le, toNat_tail, Bool.and_eq_true, decide_eq_true_eq]
  exact ⟨Nat.le_add_right _ _, by simp; omega⟩

theorem payload_tail (n : Nat) : payload (0x80 + n % 64).toUInt8 = n % 64 := by
  unfold payload
  rw [toNat_tail]
  omega

/-! ## First bytes -/

theorem decodeTwo?_eq_none {a : UInt8} (h : 0xE0 ≤ a.toNat) (b : UInt8) : decodeTwo? a b = none := by
  have ha : ¬ a ≤ 0xDF := by
    rw [UInt8.le_iff_toNat_le]
    simp
    omega
  unfold decodeTwo?
  simp [ha]

theorem decodeThree?_eq_none {a : UInt8} (h : 0xF0 ≤ a.toNat) (b c : UInt8) :
    decodeThree? a b c = none := by
  have ha : ¬ a ≤ 0xEF := by
    rw [UInt8.le_iff_toNat_le]
    simp
    omega
  unfold decodeThree?
  simp [ha]

theorem decodeTwo?_bytes {n : Nat} (hlow : 0x80 ≤ n) (hhigh : n < 0x800) :
    decodeTwo? (0xC0 + n / 64).toUInt8 (0x80 + n % 64).toUInt8 = some n := by
  have ha : (0xC0 + n / 64).toUInt8.toNat = 0xC0 + n / 64 := toNat_toUInt8 (by omega)
  unfold decodeTwo?
  rw [if_pos, ha, payload_tail]
  · congr 1
    omega
  · simp only [UInt8.le_iff_toNat_le, ha, isTail_tail, Bool.and_eq_true, decide_eq_true_eq]
    simp
    omega

theorem decodeThree?_bytes {n : Nat} (hscalar : isScalar n = true) (hlow : 0x800 ≤ n)
    (hhigh : n < 0x10000) :
    decodeThree? (0xE0 + n / 4096).toUInt8 (0x80 + n / 64 % 64).toUInt8 (0x80 + n % 64).toUInt8 =
      some n := by
  have ha : (0xE0 + n / 4096).toUInt8.toNat = 0xE0 + n / 4096 := toNat_toUInt8 (by omega)
  have hn : (0xE0 + n / 4096) % 16 * 4096 + n / 64 % 64 * 64 + n % 64 = n := by omega
  unfold decodeThree?
  simp only [ha, payload_tail, hn, isTail_tail, hscalar]
  rw [if_pos]
  simp only [UInt8.le_iff_toNat_le, ha, Bool.and_eq_true, decide_eq_true_eq]
  simp
  omega

theorem decodeFour?_bytes {n : Nat} (hscalar : isScalar n = true) (hlow : 0x10000 ≤ n)
    (hhigh : n ≤ 0x10FFFF) :
    decodeFour? (0xF0 + n / 262144).toUInt8 (0x80 + n / 4096 % 64).toUInt8
      (0x80 + n / 64 % 64).toUInt8 (0x80 + n % 64).toUInt8 = some n := by
  have ha : (0xF0 + n / 262144).toUInt8.toNat = 0xF0 + n / 262144 := toNat_toUInt8 (by omega)
  have hn : (0xF0 + n / 262144) % 8 * 262144 + n / 4096 % 64 * 4096 + n / 64 % 64 * 64 + n % 64 = n := by
    omega
  unfold decodeFour?
  simp only [ha, payload_tail, hn, isTail_tail, hscalar]
  rw [if_pos]
  simp only [UInt8.le_iff_toNat_le, ha, Bool.and_eq_true, decide_eq_true_eq]
  simp
  omega

/-! ## Whole encodings -/

theorem not_ascii {a : UInt8} (h : 0x80 ≤ a.toNat) : ¬ a < 0x80 := by
  rw [UInt8.lt_iff_toNat_lt]
  simp
  omega

theorem decodeHead?_two {a b : UInt8} {n : Nat} (h : 0x80 ≤ a.toNat) (hn : decodeTwo? a b = some n)
    (r : Bytes) : decodeHead? (a :: b :: r) = some (n, r) := by
  unfold decodeHead?
  simp [not_ascii h, hn]

theorem decodeHead?_three {a b c : UInt8} {n : Nat} (h : 0xE0 ≤ a.toNat)
    (hn : decodeThree? a b c = some n) (r : Bytes) : decodeHead? (a :: b :: c :: r) = some (n, r) := by
  unfold decodeHead?
  simp [not_ascii (Nat.le_trans (by decide) h), decodeTwo?_eq_none h, hn]

theorem decodeHead?_four {a b c d : UInt8} {n : Nat} (h : 0xF0 ≤ a.toNat)
    (hn : decodeFour? a b c d = some n) (r : Bytes) :
    decodeHead? (a :: b :: c :: d :: r) = some (n, r) := by
  unfold decodeHead?
  simp [not_ascii (Nat.le_trans (by decide) h), decodeTwo?_eq_none (Nat.le_trans (by decide) h),
    decodeThree?_eq_none h, hn]

/-- The encoding of a code point is decoded again, whatever follows it. -/
theorem decodeHead?_encode_append {n : Nat} (h : isScalar n = true) (r : Bytes) :
    decodeHead? (encode n ++ r) = some (n, r) := by
  have hmax : n ≤ 0x10FFFF := by
    unfold isScalar at h
    simp only [Bool.or_eq_true, Bool.and_eq_true, decide_eq_true_eq] at h
    omega
  -- one case for each length of the encoding
  unfold encode
  rw [if_neg (by simp [h])]
  split
  · rename_i hn
    have ha : n.toUInt8.toNat = n := toNat_toUInt8 (by omega)
    have hlt : n.toUInt8 < 0x80 := by
      rw [UInt8.lt_iff_toNat_lt, ha]
      exact hn
    simp only [List.cons_append, List.nil_append, decodeHead?]
    rw [if_pos hlt, ha]
  · rename_i h₁
    split
    · rename_i h₂
      have ha : (0xC0 + n / 64).toUInt8.toNat = 0xC0 + n / 64 := toNat_toUInt8 (by omega)
      exact decodeHead?_two (by omega) (decodeTwo?_bytes (by omega) h₂) r
    · rename_i h₂
      split
      · rename_i h₃
        have ha : (0xE0 + n / 4096).toUInt8.toNat = 0xE0 + n / 4096 := toNat_toUInt8 (by omega)
        exact decodeHead?_three (by omega) (decodeThree?_bytes h (by omega) h₃) r
      · have ha : (0xF0 + n / 262144).toUInt8.toNat = 0xF0 + n / 262144 := toNat_toUInt8 (by omega)
        exact decodeHead?_four (by omega) (decodeFour?_bytes h (by omega) hmax) r

theorem encode_ne_nil (n : Nat) : encode n ≠ [] := by
  unfold encode
  repeat' split
  all_goals simp

/-- The encoding of a code point is one piece. -/
theorem pieces_encode {n : Nat} (h : isScalar n = true) : pieces (encode n) = [.code n] := by
  have hhead := decodeHead?_encode_append h []
  rw [List.append_nil] at hhead
  have hnil : pieces [] = [] := by
    rw [pieces]
    rfl
  rw [pieces]
  split
  · rename_i hsome
    rw [hhead] at hsome
    cases hsome
    rw [hnil]
  · rename_i hnone
    rw [hhead] at hnone
    cases hnone

/-- The encoding of a code point is read as that one character. -/
theorem single?_encode {n : Nat} (h : isScalar n = true) : single? (encode n) = some n := by
  unfold single?
  rw [pieces_encode h]
  rfl

/-! ## Nothing is lost -/

theorem isTail_iff {b : UInt8} : isTail b = true ↔ 0x80 ≤ b.toNat ∧ b.toNat ≤ 0xBF := by
  simp [isTail, UInt8.le_iff_toNat_le]

theorem eq_toUInt8 {a : UInt8} {n : Nat} (h : n = a.toNat) : n.toUInt8 = a := by
  rw [h]
  exact UInt8.ofNat_toNat

theorem eq_encode_of_decodeTwo? {a b : UInt8} {n : Nat} (h : decodeTwo? a b = some n) :
    isScalar n = true ∧ encode n = [a, b] := by
  unfold decodeTwo? payload at h
  split at h
  · rename_i hab
    simp only [UInt8.le_iff_toNat_le, Bool.and_eq_true, decide_eq_true_eq, isTail_iff] at hab
    obtain ⟨⟨ha₁, ha₂⟩, hb₁, hb₂⟩ := hab
    simp only [UInt8.reduceToNat] at ha₁ ha₂
    cases h
    generalize hn : a.toNat % 32 * 64 + b.toNat % 64 = n
    have hscalar : isScalar n = true := by simp [isScalar]; omega
    refine ⟨hscalar, ?_⟩
    unfold encode
    rw [if_neg (by simp [hscalar]), if_neg (by omega), if_pos (by omega), eq_toUInt8 (a := a) (by omega),
      eq_toUInt8 (a := b) (by omega)]
  · cases h

theorem eq_encode_of_decodeThree? {a b c : UInt8} {n : Nat} (h : decodeThree? a b c = some n) :
    isScalar n = true ∧ encode n = [a, b, c] := by
  unfold decodeThree? payload at h
  dsimp only at h
  split at h
  · rename_i habc
    simp only [UInt8.le_iff_toNat_le, Bool.and_eq_true, decide_eq_true_eq, isTail_iff] at habc
    obtain ⟨⟨⟨⟨⟨ha₁, ha₂⟩, hb₁, hb₂⟩, hc₁, hc₂⟩, hlow⟩, hscalar⟩ := habc
    simp only [UInt8.reduceToNat] at ha₁ ha₂
    cases h
    generalize hn : a.toNat % 16 * 4096 + b.toNat % 64 * 64 + c.toNat % 64 = n at hlow hscalar ⊢
    refine ⟨hscalar, ?_⟩
    unfold encode
    rw [if_neg (by simp [hscalar]), if_neg (by omega), if_neg (by omega), if_pos (by omega),
      eq_toUInt8 (a := a) (by omega), eq_toUInt8 (a := b) (by omega), eq_toUInt8 (a := c) (by omega)]
  · cases h

theorem eq_encode_of_decodeFour? {a b c d : UInt8} {n : Nat} (h : decodeFour? a b c d = some n) :
    isScalar n = true ∧ encode n = [a, b, c, d] := by
  unfold decodeFour? payload at h
  dsimp only at h
  split at h
  · rename_i habcd
    simp only [UInt8.le_iff_toNat_le, Bool.and_eq_true, decide_eq_true_eq, isTail_iff] at habcd
    obtain ⟨⟨⟨⟨⟨⟨ha₁, ha₂⟩, hb₁, hb₂⟩, hc₁, hc₂⟩, hd₁, hd₂⟩, hlow⟩, hscalar⟩ := habcd
    simp only [UInt8.reduceToNat] at ha₁ ha₂
    cases h
    generalize hn : a.toNat % 8 * 262144 + b.toNat % 64 * 4096 + c.toNat % 64 * 64 + d.toNat % 64 = n
      at hlow hscalar ⊢
    refine ⟨hscalar, ?_⟩
    unfold encode
    rw [if_neg (by simp [hscalar]), if_neg (by omega), if_neg (by omega), if_neg (by omega),
      eq_toUInt8 (a := a) (by omega), eq_toUInt8 (a := b) (by omega), eq_toUInt8 (a := c) (by omega),
      eq_toUInt8 (a := d) (by omega)]
  · cases h

theorem encode_ascii {a : UInt8} (h : a < 0x80) : isScalar a.toNat = true ∧ encode a.toNat = [a] := by
  rw [UInt8.lt_iff_toNat_lt] at h
  simp only [UInt8.reduceToNat] at h
  have hscalar : isScalar a.toNat = true := by simp [isScalar]; omega
  refine ⟨hscalar, ?_⟩
  unfold encode
  rw [if_neg (by simp [hscalar]), if_pos h, eq_toUInt8 rfl]

/-- What is decoded is a code point, and its encoding is what was there. -/
theorem eq_append_of_decodeHead? {s r : Bytes} {n : Nat} (h : decodeHead? s = some (n, r)) :
    isScalar n = true ∧ s = encode n ++ r := by
  unfold decodeHead? at h
  split at h
  · cases h
  rename_i a s
  split at h
  · rename_i ha
    cases h
    rw [(encode_ascii ha).2]
    exact ⟨(encode_ascii ha).1, rfl⟩
  split at h
  · cases h
  rename_i b s
  split at h
  · rename_i m hm
    cases h
    obtain ⟨hscalar, hencode⟩ := eq_encode_of_decodeTwo? hm
    rw [hencode]
    exact ⟨hscalar, rfl⟩
  split at h
  · cases h
  rename_i c s
  split at h
  · rename_i m hm
    cases h
    obtain ⟨hscalar, hencode⟩ := eq_encode_of_decodeThree? hm
    rw [hencode]
    exact ⟨hscalar, rfl⟩
  split at h
  · cases h
  rename_i d s
  obtain ⟨m, hm, heq⟩ := Option.map_eq_some_iff.1 h
  cases heq
  obtain ⟨hscalar, hencode⟩ := eq_encode_of_decodeFour? hm
  rw [hencode]
  exact ⟨hscalar, rfl⟩

/-- A piece that a text can be cut into: a stray byte is none that could stand alone. -/
def Piece.Proper : Piece → Prop
  | .code n => isScalar n = true
  | .stray b => 0x80 ≤ b

/-- The pieces of a text are the text again. -/
theorem flatMap_bytes_pieces (s : Bytes) : (pieces s).flatMap Piece.bytes = s := by
  fun_induction pieces s with
  | case1 s n r h ih =>
    rw [List.flatMap_cons, ih]
    exact (eq_append_of_decodeHead? h).2.symm
  | case2 => rfl
  | case3 b r h ih =>
    rw [List.flatMap_cons, ih]
    rfl

/-- A text is cut into proper pieces only. -/
theorem proper_of_mem_pieces {s : Bytes} {p : Piece} (hp : p ∈ pieces s) : p.Proper := by
  fun_induction pieces s with
  | case1 s n r h ih =>
    rcases List.mem_cons.1 hp with rfl | hp
    · exact (eq_append_of_decodeHead? h).1
    · exact ih hp
  | case2 => cases hp
  | case3 b r h ih =>
    rcases List.mem_cons.1 hp with rfl | hp
    · by_cases hb : b < 0x80
      · simp [decodeHead?, hb] at h
      · exact UInt8.not_lt.1 hb
    · exact ih hp

end StackTypes.Utf8
