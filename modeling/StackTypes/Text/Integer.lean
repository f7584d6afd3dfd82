/-
Integers read from text. Digits are read from left to right, so a number that grows too large is
reported before a bad character that follows. With `prefixed` set the base is taken from the text
(`0x`, `0o`, `0b`, or a leading zero for base eight) and underscores may stand between digits.
-/
import StackTypes.Text.Bytes

namespace StackTypes.Integer

/-- Why a text is no integer. -/
inductive Fault where
  | malformed
  | outOfRange
deriving DecidableEq, Repr

/-- The text of a fault. -/
def Fault.message : Fault → Bytes
  | .malformed => utf8 "invalid syntax"
  | .outOfRange => utf8 "value out of range"

/-- The value of a digit in any base up to 36. -/
def digit? (c : UInt8) : Option Nat :=
  if 0x30 ≤ c ∧ c ≤ 0x39 then some (c.toNat - 0x30)
  else if 0x61 ≤ c ∧ c ≤ 0x7A then some (c.toNat - 0x57)
  else if 0x41 ≤ c ∧ c ≤ 0x5A then some (c.toNat - 0x37)
  else none

/-- How many numbers 64 bits hold. -/
def unsignedLimit : Nat := 18446744073709551616

/-- How many numbers 63 bits hold: those of a signed number with 64 bits that are not negative. -/
def signedLimit : Nat := 9223372036854775808

/-- The digits of a number below 2^64, with what has been read so far. -/
def readDigits (base : Nat) (underscores : Bool) : Bytes → Nat → Except Fault Nat
  | [], n => .ok n
  | c :: s, n =>
    if underscores && c == 0x5F then readDigits base underscores s n
    else match digit? c with
      | none => .error .malformed
      | some d =>
        if base ≤ d then .error .malformed
        else if unsignedLimit ≤ n * base + d then .error .outOfRange
        else readDigits base underscores s (n * base + d)

/-- Does every underscore stand between two digits? The flag says whether a digit went before. -/
def underscoresApart (isDigit : UInt8 → Bool) : Bool → Bytes → Bool
  | _, [] => true
  | before, c :: s =>
    if c = 0x5F then
      before && (match s with
        | d :: _ => isDigit d
        | [] => false) && underscoresApart isDigit false s
    else underscoresApart isDigit (isDigit c) s

/-- Is `c` a decimal digit? -/
def isDecimal (c : UInt8) : Bool :=
  0x30 ≤ c && c ≤ 0x39

/-- Is `c` a hexadecimal digit? -/
def isHex (c : UInt8) : Bool :=
  isDecimal c || (0x41 ≤ c && c ≤ 0x46) || (0x61 ≤ c && c ≤ 0x66)

/-- The base that the start of the text names, and the digits after that start. -/
def splitBase : Bytes → Nat × Bytes
  | 0x30 :: m :: d :: s =>
    if m = 0x62 ∨ m = 0x42 then (2, d :: s)
    else if m = 0x6F ∨ m = 0x4F then (8, d :: s)
    else if m = 0x78 ∨ m = 0x58 then (16, d :: s)
    else (8, m :: d :: s)
  | 0x30 :: s => (8, s)
  | s => (10, s)

/-- May the underscores of a number with a base in front stand where they do? -/
def underscoresAllowed : Bytes → Bool
  | 0x30 :: m :: s =>
    if m = 0x78 ∨ m = 0x58 then underscoresApart isHex true s
    else if m = 0x62 ∨ m = 0x42 ∨ m = 0x6F ∨ m = 0x4F then underscoresApart isDecimal true s
    else underscoresApart isDecimal false (0x30 :: m :: s)
  | s => underscoresApart isDecimal false s

/-- A number below 2^64 in a fixed base. -/
def readNat (base : Nat) (s : Bytes) : Except Fault Nat :=
  if s.isEmpty then .error .malformed else readDigits base false s 0

/-- A number below 2^64 whose base is named by the text. -/
def readPrefixedNat (s : Bytes) : Except Fault Nat :=
  if s.isEmpty then .error .malformed
  else do
    let (base, ds) := splitBase s
    let n ← readDigits base true ds 0
    if s.contains 0x5F && !underscoresAllowed s then .error .malformed else .ok n

/-- The sign in front and the rest. -/
def splitSign : Bytes → Bool × Bytes
  | 0x2B :: s => (false, s)
  | 0x2D :: s => (true, s)
  | s => (false, s)

/-- A signed 64-bit number, its digits read by `read`. -/
def readSigned (read : Bytes → Except Fault Nat) (s : Bytes) : Except Fault Int64 :=
  if s.isEmpty then .error .malformed
  else
    let (negative, ds) := splitSign s
    match read ds with
    | .error e => .error e
    | .ok n =>
      if negative then
        if signedLimit < n then .error .outOfRange else .ok (Int64.ofInt (-(n : Int)))
      else if signedLimit ≤ n then .error .outOfRange
      else .ok (Int64.ofNat n)

/-- A signed 64-bit number in a fixed base. -/
def readInt (base : Nat) (s : Bytes) : Except Fault Int64 :=
  readSigned (readNat base) s

/-- A signed 64-bit number whose base is named by the text. -/
def readPrefixedInt (s : Bytes) : Except Fault Int64 :=
  readSigned readPrefixedNat s

end StackTypes.Integer
