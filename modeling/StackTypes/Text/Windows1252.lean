/-
The Windows-1252 character set: one byte for one character. Five bytes are assigned to no character
and read as U+FFFD; all bytes outside 80 to 9F stand for the code point of the same number.
-/
import StackTypes.Text.Utf8

namespace StackTypes.Windows1252

/-- The code points of the bytes 80 to 9F. -/
def upperControls : List Nat :=
  [0x20AC, 0xFFFD, 0x201A, 0x0192, 0x201E, 0x2026, 0x2020, 0x2021,
    0x02C6, 0x2030, 0x0160, 0x2039, 0x0152, 0xFFFD, 0x017D, 0xFFFD,
    0xFFFD, 0x2018, 0x2019, 0x201C, 0x201D, 0x2022, 0x2013, 0x2014,
    0x02DC, 0x2122, 0x0161, 0x203A, 0x0153, 0xFFFD, 0x017E, 0x0178]

/-- The code point of a byte. -/
def decode (b : UInt8) : Nat :=
  if 0x80 ≤ b ∧ b < 0xA0 then upperControls.getD (b.toNat - 0x80) Utf8.replacement else b.toNat

/-- The first byte that stands for a code point. -/
def encode? (n : Nat) : Option UInt8 :=
  ((List.range 256).map Nat.toUInt8).find? fun b => decode b == n

/-- The UTF-8 text of Windows-1252 bytes. -/
def decodeText (s : Bytes) : Bytes :=
  s.flatMap fun b => Utf8.encode (decode b)

end StackTypes.Windows1252
