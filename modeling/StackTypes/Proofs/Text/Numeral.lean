/-
Numerals are read back as the numbers they were written for, so different numbers are written
differently. This holds in every base, whichever characters the digits have, and zeros on the left do
not matter; a numeral of fixed width therefore tells both its number and where it ends. Zeros are only
written where a numeral would be too short without them.
-/
import StackTypes.Text.Integer
import StackTypes.Text.Numeral
import Mathlib.Data.List.Basic

namespace StackTypes.Numeral

open Integer (digit? isDecimal isHex)

/-- The number that the characters of a text stand for as digits. -/
def valueOf (base : Nat) (s : Bytes) : Nat :=
  s.foldl (fun n c => n * base + (digit? c).getD 0) 0

theorem valueOf_concat (base : Nat) (s : Bytes) (c : UInt8) :
    valueOf base (s ++ [c]) = valueOf base s * base + (digit? c).getD 0 := by
  simp [valueOf]

/-- Zeros on the left do not change the value. -/
theorem valueOf_zeros_append (base k : Nat) (s : Bytes) :
    valueOf base (List.replicate k 0x30 ++ s) = valueOf base s := by
  induction k with
  | zero => rfl
  | succ k ih =>
    have hzero : digit? 0x30 = some 0 := by decide
    rw [← ih, List.replicate_succ, List.cons_append]
    simp only [valueOf, List.foldl_cons, hzero, Option.getD_some, Nat.zero_mul, Nat.add_zero]

/-! ## Digits -/

/-- The lower-case digit of a number below 16 is read as that number. -/
theorem digit?_lower {d : Nat} (h : d < 16) : digit? (lower d) = some d := by
  revert d
  decide

/-- The upper-case digit of a number below 16 is read as that number. -/
theorem digit?_upper {d : Nat} (h : d < 16) : digit? (upper d) = some d := by
  revert d
  decide

theorem isDecimal_lower {d : Nat} (h : d < 10) : isDecimal (lower d) = true := by
  revert d
  decide

theorem isHex_upper {d : Nat} (h : d < 16) : isHex (upper d) = true := by
  revert d
  decide

theorem digits_ne_nil (base n : Nat) : digits base n ≠ [] := by
  rw [digits]
  split <;> simp

/-- Every digit is below the base. -/
theorem lt_of_mem_digits {base n d : Nat} (hb : 2 ≤ base) (hd : d ∈ digits base n) : d < base := by
  fun_induction digits base n with
  | case1 n h =>
    obtain rfl := List.mem_singleton.1 hd
    omega
  | case2 n h ih =>
    rcases List.mem_append.1 hd with hd | hd
    · exact ih hd
    · obtain rfl := List.mem_singleton.1 hd
      exact Nat.mod_lt n (by omega)

/-- The digits of a number have its value, in whichever characters they are written. -/
theorem valueOf_digits {base : Nat} (hb : 2 ≤ base) {digit : Nat → UInt8}
    (hdigit : ∀ d < base, digit? (digit d) = some d) (n : Nat) :
    valueOf base ((digits base n).map digit) = n := by
  fun_induction digits base n with
  | case1 n h => simp [valueOf, hdigit n (by omega)]
  | case2 n h ih =>
    have hmod : n % base < base := Nat.mod_lt n (by omega)
    rw [List.map_append, List.map_singleton, valueOf_concat, ih, hdigit _ hmod, Option.getD_some,
      Nat.div_add_mod']

/-- A number below a power of the base has no more digits than the exponent. -/
theorem length_digits_le {base n w : Nat} (h : n < Nat.pow base (w + 1)) :
    (digits base n).length ≤ w + 1 := by
  induction w generalizing n with
  | zero =>
    have hn : n < base := by simpa using h
    rw [digits, dif_pos (.inr hn)]
    exact Nat.le_refl _
  | succ w ih =>
    rw [digits]
    split
    · simp
    · have hdiv : n / base < Nat.pow base (w + 1) := Nat.div_lt_of_lt_mul (by
        rw [Nat.mul_comm]
        exact h)
      have hlen := ih hdiv
      rw [List.length_append, List.length_singleton]
      omega

/-- A positive number does not start with the digit zero. -/
theorem head?_digits_ne_zero {base n : Nat} (hn : 0 < n) : (digits base n).head? ≠ some 0 := by
  fun_induction digits base n with
  | case1 n h => simpa using Nat.ne_of_gt hn
  | case2 n h ih =>
    have hdiv : 0 < n / base := Nat.div_pos (by omega) (by omega)
    rw [List.head?_append_of_ne_nil _ (digits_ne_nil base _)]
    exact ih hdiv

theorem head?_map_digits_ne_zero {base n : Nat} (hb : 2 ≤ base) {digit : Nat → UInt8}
    (hdigit : ∀ d < base, digit? (digit d) = some d) (hn : 0 < n) :
    ((digits base n).map digit).head? ≠ some 0x30 := by
  intro h
  rw [List.head?_map, Option.map_eq_some_iff] at h
  obtain ⟨d, hd, hzero⟩ := h
  have hvalue := hdigit d (lt_of_mem_digits hb (List.mem_of_mem_head? hd))
  rw [hzero] at hvalue
  obtain rfl : 0 = d := Option.some.inj hvalue
  exact head?_digits_ne_zero hn hd

theorem pos_of_one_lt_length_digits {base n : Nat} (h : 1 < (digits base n).length) : 0 < n := by
  rcases Nat.eq_zero_or_pos n with rfl | hn
  · rw [digits, dif_pos (by omega)] at h
    exact absurd h (Nat.lt_irrefl 1)
  · exact hn

/-! ## Decimal numerals -/

/-- A decimal numeral has the value of the number it was written for. -/
theorem valueOf_ofNat (n : Nat) : valueOf 10 (ofNat n) = n :=
  valueOf_digits (by omega) (fun _ hd => digit?_lower (by omega)) n

/-- A decimal numeral without a sign is made of decimal digits. -/
theorem isDecimal_of_mem_ofNat {n : Nat} {c : UInt8} (hc : c ∈ ofNat n) : isDecimal c = true := by
  obtain ⟨d, hd, rfl⟩ := List.mem_map.1 hc
  exact isDecimal_lower (lt_of_mem_digits (by omega) hd)

theorem ofNat_ne_nil (n : Nat) : ofNat n ≠ [] := by
  simpa [ofNat] using digits_ne_nil 10 n

/-- A decimal numeral is a row of digits, with a minus sign in front or without. -/
theorem ofInt_cases (n : Int) :
    (∃ k, n = Int.ofNat k ∧ ofInt n = ofNat k) ∨
      ∃ k, n = Int.negSucc k ∧ ofInt n = 0x2D :: ofNat (k + 1) := by
  unfold ofInt
  cases n with
  | ofNat k => exact .inl ⟨k, rfl, if_neg (by simp)⟩
  | negSucc k => exact .inr ⟨k, rfl, if_pos (Int.negSucc_lt_zero k)⟩

theorem ofNat_ne_minus (k : Nat) (s : Bytes) : ofNat k ≠ 0x2D :: s := by
  intro h
  have hm : isDecimal 0x2D = true := isDecimal_of_mem_ofNat (n := k) (by rw [h]; simp)
  exact absurd hm (by decide)

theorem ofInt_ne_nil (n : Int) : ofInt n ≠ [] := by
  rcases ofInt_cases n with ⟨k, -, hk⟩ | ⟨k, -, hk⟩ <;> rw [hk]
  · exact ofNat_ne_nil k
  · exact List.cons_ne_nil _ _

/-- A decimal numeral is made of decimal digits and the minus sign. -/
theorem byte_of_mem_ofInt {n : Int} {c : UInt8} (hc : c ∈ ofInt n) :
    (isDecimal c || c == 0x2D) = true := by
  rcases ofInt_cases n with ⟨k, -, hk⟩ | ⟨k, -, hk⟩ <;> rw [hk] at hc
  · rw [isDecimal_of_mem_ofNat hc]
    rfl
  · rcases List.mem_cons.1 hc with rfl | hc
    · decide
    · rw [isDecimal_of_mem_ofNat hc]
      rfl

/-- The number that a decimal numeral stands for. -/
def readInt : Bytes → Int
  | 0x2D :: s => -(valueOf 10 s : Int)
  | s => valueOf 10 s

/-- An integer is read back from its decimal numeral. -/
theorem readInt_ofInt (n : Int) : readInt (ofInt n) = n := by
  rcases ofInt_cases n with ⟨k, rfl, hk⟩ | ⟨k, rfl, hk⟩
  · rw [hk]
    unfold readInt
    split
    · exact absurd ‹_› (ofNat_ne_minus k _)
    · rw [valueOf_ofNat]
      rfl
  · rw [hk, readInt, valueOf_ofNat]
    rfl

/-! ## Hexadecimal numerals -/

/-- A padded hexadecimal numeral has the value of its number. -/
theorem valueOf_hex {digit : Nat → UInt8} (hdigit : ∀ d < 16, digit? (digit d) = some d)
    (w n : Nat) : valueOf 16 (hex digit w n) = n := by
  unfold hex
  rw [valueOf_zeros_append, valueOf_digits (by omega) hdigit]

/-- A number that fits the width is written in exactly that many hexadecimal digits. -/
theorem length_hex (digit : Nat → UInt8) {w n : Nat} (h : n < Nat.pow 16 (w + 1)) :
    (hex digit (w + 1) n).length = w + 1 := by
  have hlen := length_digits_le h
  simp only [hex, List.length_append, List.length_replicate, List.length_map]
  omega

theorem isHex_of_mem_hex_upper {w n : Nat} {c : UInt8} (hc : c ∈ hex upper w n) : isHex c = true := by
  rcases List.mem_append.1 hc with hc | hc
  · obtain rfl := List.eq_of_mem_replicate hc
    decide
  · obtain ⟨d, hd, rfl⟩ := List.mem_map.1 hc
    exact isHex_upper (lt_of_mem_digits (by omega) hd)

/-! ## Numerals without spare zeros -/

/-- How numbers are written: the base, the least number of digits, and what the digits are. -/
structure Style where
  base : Nat
  width : Nat
  isDigit : UInt8 → Bool

/-- Decimal with one digit at least. -/
def decimal : Style := ⟨10, 1, isDecimal⟩

/-- A decimal digit or one of the capitals from A to F. -/
def isUpperHex (c : UInt8) : Bool :=
  isDecimal c || (0x41 ≤ c && c ≤ 0x46)

/-- Upper-case hexadecimal with six digits at least. -/
def sixHex : Style := ⟨16, 6, isUpperHex⟩

namespace Style

/-- The numeral of a number: digits with its value, as many as there must be at least, and no zero in
front of more than these. -/
structure Spells (st : Style) (s : Bytes) (n : Nat) : Prop where
  digits : ∀ c ∈ s, st.isDigit c = true
  value : valueOf st.base s = n
  width_le : st.width ≤ s.length
  no_spare_zero : st.width < s.length → s.head? ≠ some 0x30

/-- The digits of a number, with zeros in front up to the width, spell the number. -/
theorem spells_padded (st : Style) (hbase : 2 ≤ st.base) (hwidth : 0 < st.width)
    {digit : Nat → UInt8} (hdigit : ∀ d < st.base, digit? (digit d) = some d)
    (hclass : ∀ d < st.base, st.isDigit (digit d) = true) (hzero : digit 0 = 0x30) {n : Nat}
    {ds : Bytes} (hds : (Numeral.digits st.base n).map digit = ds) :
    st.Spells (List.replicate (st.width - ds.length) 0x30 ++ ds) n where
  digits := by
    subst hds
    intro c hc
    rcases List.mem_append.1 hc with hc | hc
    · rw [List.eq_of_mem_replicate hc, ← hzero]
      exact hclass 0 (by omega)
    · obtain ⟨d, hd, rfl⟩ := List.mem_map.1 hc
      exact hclass d (lt_of_mem_digits hbase hd)
  value := by rw [valueOf_zeros_append, ← hds, valueOf_digits hbase hdigit]
  width_le := by
    rw [List.length_append, List.length_replicate]
    omega
  no_spare_zero := by
    intro hlt
    rw [List.length_append, List.length_replicate] at hlt
    -- more digits than there must be are those of the number alone
    have hpad : st.width - ds.length = 0 := by omega
    have hlen : 1 < (Numeral.digits st.base n).length := by
      rw [← List.length_map digit, hds]
      omega
    rw [hpad, List.replicate_zero, List.nil_append, ← hds]
    exact head?_map_digits_ne_zero hbase hdigit (pos_of_one_lt_length_digits hlen)

/-- A decimal numeral spells its number. -/
theorem spells_ofNat (n : Nat) : decimal.Spells (ofNat n) n := by
  have hdigit : ∀ d < 10, digit? (lower d) = some d := fun _ hd => digit?_lower (by omega)
  have hpadded : decimal.Spells (List.replicate (1 - (ofNat n).length) 0x30 ++ ofNat n) n :=
    spells_padded decimal (by decide) (by decide) hdigit (fun _ => isDecimal_lower) rfl rfl
  have hlen : 1 ≤ (ofNat n).length := List.length_pos_iff.2 (ofNat_ne_nil n)
  rwa [Nat.sub_eq_zero_of_le hlen, List.replicate_zero, List.nil_append] at hpadded

/-- An upper-case hexadecimal numeral of six digits or more spells its number. -/
theorem spells_hex (n : Nat) : sixHex.Spells (hex upper 6 n) n := by
  have hclass : ∀ d < 16, isUpperHex (upper d) = true := by decide
  exact spells_padded sixHex (by decide) (by decide) (fun _ => digit?_upper) hclass rfl rfl

end Style

end StackTypes.Numeral
