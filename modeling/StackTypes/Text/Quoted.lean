/-
Quoted text. A quoted text is printable: the delimiter and the backslash get a backslash, the usual
control characters their letter, and every other character that is not printable is given by its
number. A stray byte is given as two hexadecimal digits, so no text loses a byte.
-/
import StackTypes.Text.Numeral
import StackTypes.Text.Printable
import StackTypes.Text.Utf8

namespace StackTypes.Quoted

/-- The letter that stands for a control character after a backslash. -/
def letter? (n : Nat) : Option UInt8 :=
  match n with
  | 0x07 => some 0x61
  | 0x08 => some 0x62
  | 0x0C => some 0x66
  | 0x0A => some 0x6E
  | 0x0D => some 0x72
  | 0x09 => some 0x74
  | 0x0B => some 0x76
  | _ => none

/-- A character as it stands between two delimiters. -/
def character (delimiter n : Nat) : Bytes :=
  if n = delimiter ∨ n = 0x5C then [0x5C, n.toUInt8]
  else if Printable.isPrintable n then Utf8.encode n
  else match letter? n with
    | some c => [0x5C, c]
    | none =>
      if n < 0x20 ∨ n = 0x7F then utf8 "\\x" ++ Numeral.hex Numeral.lower 2 n
      else if n < 0x10000 then utf8 "\\u" ++ Numeral.hex Numeral.lower 4 n
      else utf8 "\\U" ++ Numeral.hex Numeral.lower 8 n

/-- A piece of a text as it stands between two delimiters. -/
def piece (delimiter : Nat) : Utf8.Piece → Bytes
  | .code n => character delimiter n
  | .stray b => utf8 "\\x" ++ Numeral.hex Numeral.lower 2 b.toNat

/-- The text between double quotes. -/
def text (s : Bytes) : Bytes :=
  [0x22] ++ (Utf8.pieces s).flatMap (piece 0x22) ++ [0x22]

/-- The code point between single quotes; a number that is no code point counts as U+FFFD. -/
def codePoint (v : Int32) : Bytes :=
  let n := v.toInt
  let c := if 0 ≤ n ∧ Utf8.isScalar n.toNat then n.toNat else Utf8.replacement
  [0x27] ++ character 0x27 c ++ [0x27]

end StackTypes.Quoted
