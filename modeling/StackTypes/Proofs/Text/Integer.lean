/-
Integers that are read from decimal text. A numeral is a row of digits with a sign in front or without
one, and it may start with zeros; every numeral of a number that fits is read as this number. Where
the text may name its base, the numerals without zeros in front are in base ten.
-/
import StackTypes.Proofs.Text.Numeral
import Mathlib.Data.List.Induction

namespace StackTypes.Integer

open Numeral (valueOf valueOf_concat valueOf_ofNat)

/-- A row of decimal digits. -/
structure IsDigits (ds : Bytes) : Prop where
  ne_nil : ds ≠ []
  decimal : ∀ c ∈ ds, isDecimal c = true

/-- The decimal numerals of an integer. -/
inductive Decimal : Bytes → Int → Prop
  | unsigned {ds : Bytes} (h : IsDigits ds) : Decimal ds (valueOf 10 ds)
  | plus {ds : Bytes} (h : IsDigits ds) : Decimal (0x2B :: ds) (valueOf 10 ds)
  | minus {ds : Bytes} (h : IsDigits ds) : Decimal (0x2D :: ds) (-(valueOf 10 ds : Int))

theorem isDigits_ofNat (n : Nat) : IsDigits (Numeral.ofNat n) :=
  ⟨Numeral.ofNat_ne_nil n, fun _ hc => Numeral.isDecimal_of_mem_ofNat hc⟩

/-- A number as it is written is one of its numerals. -/
theorem decimal_ofInt (n : Int) : Decimal (Numeral.ofInt n) n := by
  rcases Numeral.ofInt_cases n with ⟨k, rfl, hk⟩ | ⟨k, rfl, hk⟩
  · have h := Decimal.unsigned (isDigits_ofNat k)
    rw [valueOf_ofNat] at h
    rw [hk]
    exact h
  · have h := Decimal.minus (isDigits_ofNat (k + 1))
    rw [valueOf_ofNat] at h
    rw [hk]
    exact h

/-! ## Digits -/

theorem digit?_of_isDecimal {c : UInt8} (h : isDecimal c = true) :
    c ≠ 0x5F ∧ c ≠ 0x2B ∧ c ≠ 0x2D ∧ ∃ d < 10, digit? c = some d := by
  simp only [isDecimal, Bool.and_eq_true, decide_eq_true_eq] at h
  have hle : c.toNat ≤ 0x39 := UInt8.le_iff_toNat_le.1 h.2
  refine ⟨?_, ?_, ?_, c.toNat - 0x30, by omega, by rw [digit?, if_pos h]⟩ <;>
  · rintro rfl
    revert h
    decide

theorem valueOf_le_append {base : Nat} (hb : 0 < base) (p s : Bytes) :
    valueOf base p ≤ valueOf base (p ++ s) := by
  induction s using List.reverseRecOn with
  | nil => simp
  | append_singleton s c ih =>
    rw [← List.append_assoc, valueOf_concat]
    have := Nat.le_mul_of_pos_right (valueOf base (p ++ s)) hb
    omega

/-- Digits behind those that have been read already. -/
theorem readDigits_append (underscores : Bool) {p s : Bytes} (hs : ∀ c ∈ s, isDecimal c = true)
    (hlt : valueOf 10 (p ++ s) < unsignedLimit) :
    readDigits 10 underscores s (valueOf 10 p) = .ok (valueOf 10 (p ++ s)) := by
  induction s generalizing p with
  | nil => rw [List.append_nil, readDigits]
  | cons c s ih =>
    obtain ⟨hscore, -, -, d, hd, hc⟩ := digit?_of_isDecimal (hs c List.mem_cons_self)
    have hvalue : valueOf 10 (p ++ [c]) = valueOf 10 p * 10 + d := by
      rw [valueOf_concat, hc, Option.getD_some]
    rw [List.append_cons] at hlt ⊢
    -- what is read up to here is no larger than the whole number
    have hup : valueOf 10 p * 10 + d < unsignedLimit :=
      hvalue ▸ Nat.lt_of_le_of_lt (valueOf_le_append (by omega) (p ++ [c]) s) hlt
    have hnot : (underscores && c == 0x5F) = false := by simp [hscore]
    rw [readDigits, hnot, hc]
    simp only [Bool.false_eq_true, if_false, if_neg (Nat.not_le.2 hd), if_neg (Nat.not_le.2 hup)]
    rw [← hvalue]
    exact ih (fun b hb => hs b (List.mem_cons_of_mem c hb)) hlt

theorem readDigits_decimal (underscores : Bool) {ds : Bytes} (h : ∀ c ∈ ds, isDecimal c = true)
    (hlt : valueOf 10 ds < unsignedLimit) : readDigits 10 underscores ds 0 = .ok (valueOf 10 ds) :=
  readDigits_append underscores (p := []) h hlt

theorem readNat_decimal {ds : Bytes} (h : IsDigits ds) (hlt : valueOf 10 ds < unsignedLimit) :
    readNat 10 ds = .ok (valueOf 10 ds) := by
  rw [readNat, if_neg (by simpa using h.ne_nil), readDigits_decimal false h.decimal hlt]

/-! ## Signs -/

section Signed

variable {read : Bytes → Except Fault Nat} {ds : Bytes} {k : Nat}

theorem splitSign_digits (h : IsDigits ds) : splitSign ds = (false, ds) := by
  obtain ⟨c, s, rfl⟩ := List.exists_cons_of_ne_nil h.ne_nil
  obtain ⟨-, hplus, hminus, -⟩ := digit?_of_isDecimal (h.decimal c List.mem_cons_self)
  unfold splitSign
  split
  · simp_all
  · simp_all
  · rfl

theorem readSigned_unsigned (h : IsDigits ds) (hread : read ds = .ok k) (hk : k < signedLimit) :
    readSigned read ds = .ok (Int64.ofInt k) := by
  rw [readSigned, if_neg (by simpa using h.ne_nil), splitSign_digits h]
  simp only [hread, Bool.false_eq_true, if_false, if_neg (Nat.not_le.2 hk), Int64.ofInt_eq_ofNat]

theorem readSigned_plus (hread : read ds = .ok k) (hk : k < signedLimit) :
    readSigned read (0x2B :: ds) = .ok (Int64.ofInt k) := by
  simp only [readSigned, splitSign, List.isEmpty_cons, hread, Bool.false_eq_true, if_false,
    if_neg (Nat.not_le.2 hk), Int64.ofInt_eq_ofNat]

theorem readSigned_minus (hread : read ds = .ok k) (hk : k ≤ signedLimit) :
    readSigned read (0x2D :: ds) = .ok (Int64.ofInt (-(k : Int))) := by
  simp only [readSigned, splitSign, List.isEmpty_cons, hread, Bool.false_eq_true, if_false, if_true,
    if_neg (Nat.not_lt.2 hk)]

end Signed

/-- A numeral of a 64-bit number is read as this number. -/
theorem readInt_decimal {s : Bytes} {n : Int64} (h : Decimal s n.toInt) : readInt 10 s = .ok n := by
  have hlow := n.le_toInt
  have hhigh := n.toInt_lt
  have hlimits : signedLimit < unsignedLimit := by decide
  have hsigned : (signedLimit : Int) = 9223372036854775808 := rfl
  rw [← n.ofInt_toInt]
  generalize n.toInt = m at *
  unfold readInt
  cases h with
  | unsigned h => exact readSigned_unsigned h (readNat_decimal h (by omega)) (by omega)
  | plus h => exact readSigned_plus (readNat_decimal h (by omega)) (by omega)
  | minus h => exact readSigned_minus (readNat_decimal h (by omega)) (by omega)

/-! ## Numbers that may name their base -/

theorem splitBase_ofNat {n : Nat} (hn : 0 < n) :
    splitBase (Numeral.ofNat n) = (10, Numeral.ofNat n) := by
  have hhead : (Numeral.ofNat n).head? ≠ some 0x30 :=
    Numeral.head?_map_digits_ne_zero (by omega) (fun _ hd => Numeral.digit?_lower (by omega)) hn
  unfold splitBase
  split
  · simp_all
  · simp_all
  · rfl

theorem readPrefixedNat_ofNat {n : Nat} (hn : n < unsignedLimit) :
    readPrefixedNat (Numeral.ofNat n) = .ok n := by
  have hdigits := isDigits_ofNat n
  have hempty : (Numeral.ofNat n).isEmpty = false := by simpa using hdigits.ne_nil
  have hscore : (Numeral.ofNat n).contains 0x5F = false := by
    rw [List.contains_eq_mem, decide_eq_false_iff_not]
    exact fun h => (digit?_of_isDecimal (hdigits.decimal _ h)).1 rfl
  rcases Nat.eq_zero_or_pos n with rfl | hpos
  · decide +kernel
  · have hread := readDigits_decimal true hdigits.decimal (by rwa [valueOf_ofNat])
    rw [valueOf_ofNat] at hread
    simp only [readPrefixedNat, hempty, splitBase_ofNat hpos, hread, hscore]
    rfl

/-- A 64-bit number as it is written is read as this number. -/
theorem readPrefixedInt_ofInt (n : Int64) : readPrefixedInt (Numeral.ofInt n.toInt) = .ok n := by
  have hlow := n.le_toInt
  have hhigh := n.toInt_lt
  have hlimits : signedLimit < unsignedLimit := by decide
  have hsigned : (signedLimit : Int) = 9223372036854775808 := rfl
  unfold readPrefixedInt
  rcases Numeral.ofInt_cases n.toInt with ⟨k, hn, hk⟩ | ⟨k, hn, hk⟩
  · have hn : n.toInt = (k : Int) := hn
    rw [hk, readSigned_unsigned (isDigits_ofNat k) (readPrefixedNat_ofNat (by omega)) (by omega),
      ← hn, n.ofInt_toInt]
  · have hn : n.toInt = -((k + 1 : Nat) : Int) := hn
    rw [hk, readSigned_minus (readPrefixedNat_ofNat (by omega)) (by omega), ← hn, n.ofInt_toInt]

end StackTypes.Integer
