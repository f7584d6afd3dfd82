/-
Blank characters, those with the Unicode property White_Space, and texts without blanks at their
ends. Bytes that are not part of an encoding are not blank.
-/
import StackTypes.Text.Utf8

namespace StackTypes.Blank

/-- The blank code points. -/
def codes : List Nat :=
  [0x09, 0x0A, 0x0B, 0x0C, 0x0D, 0x20, 0x85, 0xA0, 0x1680, 0x2000, 0x2001, 0x2002, 0x2003, 0x2004,
    0x2005, 0x2006, 0x2007, 0x2008, 0x2009, 0x200A, 0x2028, 0x2029, 0x202F, 0x205F, 0x3000]

/-- The encodings of the blank code points. -/
def spellings : List Bytes :=
  codes.map Utf8.encode

/-- What follows the one of `ws` that starts `s`. -/
def dropOne? (ws : List Bytes) (s : Bytes) : Option Bytes :=
  ws.findSome? fun w => Bytes.dropLead? w s

/-- `s` without any of `ws` at its start. -/
def dropAll (ws : List Bytes) (s : Bytes) : Bytes :=
  match dropOne? ws s with
  | none => s
  | some r => if r.length < s.length then dropAll ws r else s
termination_by s.length

/-- The text without blanks at its start. -/
def trimStart (s : Bytes) : Bytes :=
  dropAll spellings s

/-- The text without blanks at its end. -/
def trimEnd (s : Bytes) : Bytes :=
  (dropAll (spellings.map List.reverse) s.reverse).reverse

/-- The text without blanks at either end. -/
def trim (s : Bytes) : Bytes :=
  trimEnd (trimStart s)

theorem length_dropAll_le (ws : List Bytes) (s : Bytes) : (dropAll ws s).length ≤ s.length := by
  fun_induction dropAll ws s with
  | case1 => simp
  | case2 s r _ hlt ih => omega
  | case3 => simp

theorem length_trim_le (s : Bytes) : (trim s).length ≤ s.length := by
  have h1 := length_dropAll_le spellings s
  have h2 := length_dropAll_le (spellings.map List.reverse) (trimStart s).reverse
  simp only [trim, trimEnd, List.length_reverse] at *
  unfold trimStart at *
  omega

end StackTypes.Blank
