/-
Floating-point numbers of 64 bits: the number nearest to a decimal one, a tie going to the even
neighbour, and its integer part. All arithmetic is on exact integers.
-/
import StackTypes.Text.Integer

namespace StackTypes

/-- A floating-point number; a finite one is its mantissa times a power of two. -/
inductive Binary64 where
  | nan
  | infinite (negative : Bool)
  | finite (negative : Bool) (mantissa : Nat) (exponent : Int)
deriving DecidableEq, Repr

namespace Binary64

/-- The quotient rounded to the nearest integer, a tie to the even one. -/
def roundQuotient (num den : Nat) : Nat :=
  let q := num / den
  let r := num % den
  if den < 2 * r ∨ (2 * r = den ∧ q % 2 = 1) then q + 1 else q

/-- The whole part of the binary logarithm of a ratio of positive numbers. -/
def floorLog2 (num den : Nat) : Int :=
  let e : Int := num.log2 - den.log2
  let reached := if 0 ≤ e then den <<< e.toNat ≤ num else den ≤ num <<< (-e).toNat
  if reached then e else e - 1

/-- The number nearest to a ratio of positive numbers, unless it is too large. -/
def ofRatio? (negative : Bool) (num den : Nat) : Option Binary64 :=
  let e := max (floorLog2 num den - 52) (-1074)
  let m := if 0 ≤ e then roundQuotient num (den <<< e.toNat)
    else roundQuotient (num <<< (-e).toNat) den
  if 0 ≤ e ∧ 1 <<< 1024 ≤ m <<< e.toNat then none else some (.finite negative m e)

/-- The powers of ten beyond which every number is too large, or rounds to zero. -/
def reach : Int := 400

/-- The number nearest to `digits` times a power of ten, unless it is too large. -/
def ofDecimal? (negative : Bool) (digits : Nat) (exponent : Int) : Option Binary64 :=
  let magnitude : Int := exponent + digits.log2 / 3
  if digits = 0 then some (.finite negative 0 0)
  else if reach < exponent ∧ reach < magnitude then none
  else if magnitude < -2 * reach then some (.finite negative 0 0)
  else if 0 ≤ exponent then ofRatio? negative (digits * Nat.pow 10 exponent.toNat) 1
  else ofRatio? negative digits (Nat.pow 10 (-exponent).toNat)

/-- The number nearest to an integer. -/
def ofInt? (n : Int) : Option Binary64 :=
  ofDecimal? (n < 0) n.natAbs 0

/-- The integer part of a finite number, cut off toward zero. -/
def truncate? : Binary64 → Option Int
  | .finite negative m e =>
    let n : Nat := if 0 ≤ e then m <<< e.toNat else m >>> (-e).toNat
    some (if negative then -(n : Int) else n)
  | _ => none

/-! ## Decimal text -/

/-- The decimal digits at the start of a text, and the rest. -/
def takeDigits (s : Bytes) : Bytes × Bytes :=
  (s.takeWhile Integer.isDecimal, s.dropWhile Integer.isDecimal)

/-- The number that decimal digits write. -/
def digitsValue (ds : Bytes) : Nat :=
  ds.foldl (fun n d => n * 10 + (d.toNat - 0x30)) 0

/-- The exponent at the end of a number: a sign and digits after the letter, or nothing. -/
def readExponent? : Bytes → Option Int
  | [] => some 0
  | c :: s =>
    if c = 0x65 ∨ c = 0x45 then
      let (negative, ds) := Integer.splitSign s
      if ds.isEmpty || !ds.all Integer.isDecimal then none
      else some (if negative then -(digitsValue ds : Int) else digitsValue ds)
    else none

/-- The number that a decimal text writes: a sign, digits with at most one point and at least one
digit, and perhaps an exponent. None if the text is something else or the number too large. -/
def ofText? (s : Bytes) : Option Binary64 := do
  let (negative, s) := Integer.splitSign s
  let (whole, s) := takeDigits s
  let (fraction, s) := match s with
    | 0x2E :: s => takeDigits s
    | s => ([], s)
  if whole.isEmpty && fraction.isEmpty then none
  let e ← readExponent? s
  ofDecimal? negative (digitsValue (whole ++ fraction)) (e - fraction.length)

end Binary64

end StackTypes
