/-
Text as bytes. Names, descriptors and literals come from files and arguments that need not hold
valid UTF-8, so a text is a list of bytes throughout and `utf8` gives the bytes of a fixed text.
-/

namespace StackTypes

/-- A text: bytes, as a rule UTF-8. -/
abbrev Bytes := List UInt8

/-- The UTF-8 bytes of a fixed text. -/
def utf8 (s : String) : Bytes :=
  s.toList.flatMap String.utf8EncodeChar

/-- What follows `lead` in `s`, if `s` starts with `lead`. -/
def Bytes.dropLead? : Bytes → Bytes → Option Bytes
  | [], s => some s
  | _ :: _, [] => none
  | a :: lead, b :: s => if a = b then Bytes.dropLead? lead s else none

/-- Does `s` start with `lead`? -/
def Bytes.startsWith (s lead : Bytes) : Bool :=
  (Bytes.dropLead? lead s).isSome

/-- The texts in order with `sep` between neighbours. -/
def Bytes.joinWith (sep : Bytes) (parts : List Bytes) : Bytes :=
  List.intercalate sep parts

/-- A text is cut at the first `b` in it. -/
theorem Bytes.eq_append_of_dropWhile_ne {b c : UInt8} {s rest : Bytes}
    (h : s.dropWhile (· != b) = c :: rest) :
    b ∉ s.takeWhile (· != b) ∧ s = s.takeWhile (· != b) ++ b :: rest := by
  induction s with
  | nil => cases h
  | cons a s ih =>
    by_cases ha : a = b
    · subst ha
      simp_all
    · have hne : (a != b) = true := by simpa using ha
      simp only [List.dropWhile_cons, hne, if_true] at h
      obtain ⟨hm, hs⟩ := ih h
      simp only [List.takeWhile_cons, hne, if_true]
      refine ⟨?_, ?_⟩
      · rw [List.mem_cons, not_or]
        exact ⟨fun hb => ha hb.symm, hm⟩
      · rw [List.cons_append, ← hs]

end StackTypes
