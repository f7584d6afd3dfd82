/-
The characters of a YAML text. The bytes are UTF-8, or UTF-16 if they start with its byte order mark,
and come in blocks of 512. A block that holds a bad character is not used at all: the text then ends
before that block and is marked as cut, and reading beyond its end is an error.
-/
import StackTypes.Text.Utf8

namespace StackTypes.Yaml

/-- The characters of a text, and whether unusable bytes follow them. -/
structure Source where
  chars : List Char
  cut : Bool
deriving Repr

namespace Source

/-- May the character stand in a YAML text? -/
def allowed (n : Nat) : Bool :=
  n == 0x09 || n == 0x0A || n == 0x0D || (0x20 ≤ n && n ≤ 0x7E) || n == 0x85
    || (0xA0 ≤ n && n ≤ 0xD7FF) || (0xE000 ≤ n && n ≤ 0xFFFD) || (0x10000 ≤ n && n ≤ 0x10FFFF)

/-- What bytes start with. -/
inductive Head where
  | character (c : Char) (rest : Bytes)
  /-- The beginning of a character whose other bytes are still to come. -/
  | unfinished
  | bad

/-- The character of a code point that may stand in a text. -/
def Head.ofCode (n : Nat) (rest : Bytes) : Head :=
  if allowed n then .character (Char.ofNat n) rest else .bad

/-- How many bytes a UTF-8 character takes by its first byte; none for a byte that starts none. -/
def width? (b : UInt8) : Option Nat :=
  if b < 0x80 then some 1
  else if b < 0xC0 then none
  else if b < 0xE0 then some 2
  else if b < 0xF0 then some 3
  else if b < 0xF8 then some 4
  else none

/-- The first character of UTF-8 bytes. -/
def utf8Head : Bytes → Head
  | [] => .unfinished
  | b :: s =>
    match width? b with
    | none => .bad
    | some w =>
      if s.length + 1 < w then .unfinished
      else match Utf8.decodeHead? (b :: s) with
        | some (n, rest) => .ofCode n rest
        | none => .bad

/-- The first character of UTF-16 bytes; `unit` makes a number of two bytes. -/
def utf16Head (unit : UInt8 → UInt8 → Nat) : Bytes → Head
  | a :: b :: s =>
    let n := unit a b
    if 0xDC00 ≤ n ∧ n ≤ 0xDFFF then .bad
    else if 0xD800 ≤ n ∧ n ≤ 0xDBFF then
      match s with
      | c :: d :: s =>
        let m := unit c d
        if 0xDC00 ≤ m ∧ m ≤ 0xDFFF then
          .ofCode (0x10000 + (n - 0xD800) * 0x400 + (m - 0xDC00)) s
        else .bad
      | _ => .unfinished
    else .ofCode n s
  | _ => .unfinished

/-- All characters of a block and the bytes left over, unless the block is bad. -/
def block? (head : Bytes → Head) : Nat → Bytes → Option (List Char × Bytes)
  | 0, s => some ([], s)
  | n + 1, s =>
    match head s with
    | .unfinished => some ([], s)
    | .bad => none
    | .character c rest => (block? head n rest).map fun (cs, left) => (c :: cs, left)

/-- The size of a block. -/
def blockSize : Nat := 512

/-- The characters of the blocks up to a bad one; `left` are the bytes left over by the block
before, and `room` the bytes that the next block takes. -/
def blocks (head : Bytes → Head) : Nat → (room : Nat) → (left s : Bytes) → Source
  | 0, _, _, _ => ⟨[], true⟩
  | n + 1, room, left, s =>
    if s.isEmpty then ⟨[], !left.isEmpty⟩
    else
      let bytes := left ++ s.take room
      match block? head bytes.length bytes with
      | none => ⟨[], true⟩
      | some (cs, left) =>
        let after := blocks head n (blockSize - left.length) left (s.drop room)
        ⟨cs ++ after.chars, after.cut⟩

/-- The characters of a text. -/
def ofBytes : Bytes → Source
  | 0xFF :: 0xFE :: s =>
    blocks (utf16Head fun a b => b.toNat * 256 + a.toNat) (s.length + 1) (blockSize - 2) [] s
  | 0xFE :: 0xFF :: s =>
    blocks (utf16Head fun a b => a.toNat * 256 + b.toNat) (s.length + 1) (blockSize - 2) [] s
  | 0xEF :: 0xBB :: 0xBF :: s => blocks utf8Head (s.length + 1) (blockSize - 3) [] s
  | s => blocks utf8Head (s.length + 1) blockSize [] s

end Source

end StackTypes.Yaml
