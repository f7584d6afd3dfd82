/-
Numbers as text: digits in a base, decimal with a sign, and hexadecimal padded with zeros.
-/
import StackTypes.Text.Bytes

namespace StackTypes.Numeral

/-- The digits of `n` in `base`, the most significant first. -/
def digits (base n : Nat) : List Nat :=
  if _h : base < 2 ∨ n < base then [n]
  else digits base (n / base) ++ [n % base]
termination_by n
decreasing_by
  have : 1 < base ∧ base ≤ n := by omega
  exact Nat.div_lt_self (by omega) this.1

/-- The lower-case character of a digit. -/
def lower (d : Nat) : UInt8 :=
  if d < 10 then (0x30 + d).toUInt8 else (0x57 + d).toUInt8

/-- The upper-case character of a digit. -/
def upper (d : Nat) : UInt8 :=
  if d < 10 then (0x30 + d).toUInt8 else (0x37 + d).toUInt8

/-- A number in decimal. -/
def ofNat (n : Nat) : Bytes :=
  (digits 10 n).map lower

/-- A number in decimal, a minus sign in front of a negative one. -/
def ofInt (n : Int) : Bytes :=
  if n < 0 then 0x2D :: ofNat n.natAbs else ofNat n.natAbs

/-- At least `width` digits of `n` in base 16, filled up with zeros on the left. -/
def hex (digit : Nat → UInt8) (width n : Nat) : Bytes :=
  let ds := (digits 16 n).map digit
  List.replicate (width - ds.length) 0x30 ++ ds

end StackTypes.Numeral
