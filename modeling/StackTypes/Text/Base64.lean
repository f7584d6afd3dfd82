/-
Bytes in base 64: four characters for three bytes, the last group filled up with equals signs. Line
breaks between the characters do not count.
-/
import StackTypes.Text.Bytes

namespace StackTypes.Base64

/-- The six bits of a character. -/
def digit? (c : UInt8) : Option Nat :=
  if 0x41 ≤ c ∧ c ≤ 0x5A then some (c.toNat - 0x41)
  else if 0x61 ≤ c ∧ c ≤ 0x7A then some (c.toNat - 0x61 + 26)
  else if 0x30 ≤ c ∧ c ≤ 0x39 then some (c.toNat - 0x30 + 52)
  else if c = 0x2B then some 62
  else if c = 0x2F then some 63
  else none

/-- The bytes of groups of four characters. -/
def groups? : Bytes → Option Bytes
  | [] => some []
  | [a, b, 0x3D, 0x3D] => do
    let n := (← digit? a) * 64 + (← digit? b)
    some [(n / 16).toUInt8]
  | [a, b, c, 0x3D] => do
    let n := ((← digit? a) * 64 + (← digit? b)) * 64 + (← digit? c)
    some [(n / 1024).toUInt8, (n / 4).toUInt8]
  | a :: b :: c :: d :: s => do
    let n := (((← digit? a) * 64 + (← digit? b)) * 64 + (← digit? c)) * 64 + (← digit? d)
    let rest ← groups? s
    some ((n / 65536).toUInt8 :: (n / 256).toUInt8 :: n.toUInt8 :: rest)
  | _ => none

/-- The bytes that a text in base 64 stands for. -/
def decode? (s : Bytes) : Option Bytes :=
  groups? (s.filter fun c => c != 0x0A && c != 0x0D)

end StackTypes.Base64
