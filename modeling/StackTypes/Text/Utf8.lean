/-
UTF-8 on texts that may be damaged. A text splits into pieces: whole encodings of a code point, and
stray bytes that belong to none. `pieces` never loses a byte, and a valid text has no stray pieces.
-/
import StackTypes.Text.Bytes

namespace StackTypes.Utf8

/-- Stands for a code point that has no encoding. -/
def replacement : Nat := 0xFFFD

/-- Is `n` a code point that UTF-8 can encode: not a surrogate and not above 10FFFF? -/
def isScalar (n : Nat) : Bool :=
  n < 0xD800 || (0xDFFF < n && n ≤ 0x10FFFF)

/-- The encoding of a code point; one without an encoding is written as U+FFFD. -/
def encode (n : Nat) : Bytes :=
  if !isScalar n then [0xEF, 0xBF, 0xBD]
  else if n < 0x80 then [n.toUInt8]
  else if n < 0x800 then [(0xC0 + n / 64).toUInt8, (0x80 + n % 64).toUInt8]
  else if n < 0x10000 then
    [(0xE0 + n / 4096).toUInt8, (0x80 + n / 64 % 64).toUInt8, (0x80 + n % 64).toUInt8]
  else
    [(0xF0 + n / 262144).toUInt8, (0x80 + n / 4096 % 64).toUInt8, (0x80 + n / 64 % 64).toUInt8,
      (0x80 + n % 64).toUInt8]

/-- Is `b` a continuation byte? -/
def isTail (b : UInt8) : Bool :=
  0x80 ≤ b && b ≤ 0xBF

/-- The six payload bits of a continuation byte. -/
def payload (b : UInt8) : Nat :=
  b.toNat % 64

/-- The code point encoded by two bytes, the shortest form only. -/
def decodeTwo? (a b : UInt8) : Option Nat :=
  if 0xC2 ≤ a && a ≤ 0xDF && isTail b then some (a.toNat % 32 * 64 + payload b) else none

/-- The code point encoded by three bytes, the shortest form only and no surrogate. -/
def decodeThree? (a b c : UInt8) : Option Nat :=
  let n := a.toNat % 16 * 4096 + payload b * 64 + payload c
  if 0xE0 ≤ a && a ≤ 0xEF && isTail b && isTail c && 0x800 ≤ n && isScalar n then some n else none

/-- The code point encoded by four bytes, the shortest form only. -/
def decodeFour? (a b c d : UInt8) : Option Nat :=
  let n := a.toNat % 8 * 262144 + payload b * 4096 + payload c * 64 + payload d
  if 0xF0 ≤ a && a ≤ 0xF4 && isTail b && isTail c && isTail d && 0x10000 ≤ n && isScalar n then
    some n
  else none

/-- The code point whose encoding starts the text, and what follows it. -/
def decodeHead? : Bytes → Option (Nat × Bytes)
  | [] => none
  | a :: r =>
    if a < 0x80 then some (a.toNat, r)
    else match r with
      | [] => none
      | b :: r =>
        match decodeTwo? a b with
        | some n => some (n, r)
        | none => match r with
          | [] => none
          | c :: r =>
            match decodeThree? a b c with
            | some n => some (n, r)
            | none => match r with
              | [] => none
              | d :: r => (decodeFour? a b c d).map (·, r)

theorem length_decodeHead? {s r : Bytes} {n : Nat} (h : decodeHead? s = some (n, r)) :
    r.length < s.length := by
  unfold decodeHead? at h
  split at h
  · cases h
  · split at h
    · cases h; simp
    · split at h
      · cases h
      · split at h
        · cases h; simp only [List.length_cons]; omega
        · split at h
          · cases h
          · split at h
            · cases h; simp only [List.length_cons]; omega
            · split at h
              · cases h
              · simp only [Option.map_eq_some_iff, Prod.mk.injEq] at h
                obtain ⟨_, _, _, rfl⟩ := h
                simp only [List.length_cons]; omega

/-- A part of a text: an encoded code point, or a byte that belongs to no encoding. -/
inductive Piece where
  | code (n : Nat)
  | stray (b : UInt8)
deriving DecidableEq, Repr

/-- The bytes a piece stands for. -/
def Piece.bytes : Piece → Bytes
  | .code n => encode n
  | .stray b => [b]

/-- The code point that a reader sees in place of a piece. -/
def Piece.seen : Piece → Nat
  | .code n => n
  | .stray _ => replacement

/-- The text cut into pieces. -/
def pieces (s : Bytes) : List Piece :=
  match _h : decodeHead? s with
  | some (n, r) => .code n :: pieces r
  | none => match s with
    | [] => []
    | b :: r => .stray b :: pieces r
termination_by s.length
decreasing_by
  · exact length_decodeHead? (by assumption)
  · simp

/-- How many pieces the text has. -/
def count (s : Bytes) : Nat :=
  (pieces s).length

/-- The code point that a reader sees, if the text is a single piece. -/
def single? (s : Bytes) : Option Nat :=
  match pieces s with
  | [p] => some p.seen
  | _ => none

/-- The text of a list of characters. -/
def ofChars (cs : List Char) : Bytes :=
  cs.flatMap fun c => encode c.toNat

end StackTypes.Utf8
