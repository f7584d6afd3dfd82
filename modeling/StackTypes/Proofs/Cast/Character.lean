/-
Integer constants cast to characters, and how far the printed character gives the constant back. The
cast keeps the code unit, which is all that is stored. The text does not: half of a surrogate pair is
no code point, so all halves are printed as U+FFFD, as that character itself is.
-/
import StackTypes.Expr.Printer
import StackTypes.Proofs.Cast
import StackTypes.Proofs.Text.Quoted

namespace StackTypes.Expr

theorem castTo_char (v : Int32) (it : Interner) :
    ((Expr.int v).castTo (.atomic .char) it).1 = .ok (.build (.char (codeUnit v))) := rfl

theorem codeUnit_eq_iff (v w : Int32) :
    codeUnit v = codeUnit w ↔ v.toInt % 65536 = w.toInt % 65536 := by
  rw [← Int32.toInt_inj, toInt_codeUnit, toInt_codeUnit]

/-- A number whose code unit is one half of a surrogate pair. -/
def Surrogate (v : Int32) : Prop :=
  0xD800 ≤ v.toInt % 65536 ∧ v.toInt % 65536 ≤ 0xDFFF

/-- A number whose code unit is printed as U+FFFD. -/
def Blurred (v : Int32) : Prop :=
  Surrogate v ∨ v.toInt % 65536 = 0xFFFD

theorem isCodePoint_codeUnit (v : Int32) :
    Quoted.isCodePoint (codeUnit v) = true ↔ ¬ Surrogate v := by
  simp only [Quoted.isCodePoint, Utf8.isScalar, Surrogate, toInt_codeUnit, Bool.and_eq_true,
    Bool.or_eq_true, decide_eq_true_eq]
  omega

theorem shown_codeUnit_of_not_blurred {v : Int32} (h : ¬ Blurred v) :
    Quoted.shown (codeUnit v) = codeUnit v := by
  have hpoint := (isCodePoint_codeUnit v).2 fun hs => h (.inl hs)
  rw [Quoted.shown, if_pos hpoint]

theorem shown_codeUnit_eq_replacement (v : Int32) :
    Quoted.shown (codeUnit v) = 0xFFFD ↔ Blurred v := by
  have hunit : codeUnit v = 0xFFFD ↔ v.toInt % 65536 = 0xFFFD := by
    rw [← Int32.toInt_inj, toInt_codeUnit]
    rfl
  rw [Quoted.shown, Blurred, ← hunit]
  by_cases hs : Surrogate v
  · have hpoint : ¬ Quoted.isCodePoint (codeUnit v) = true := fun h =>
      (isCodePoint_codeUnit v).1 h hs
    simp [hpoint, hs]
  · simp [(isCodePoint_codeUnit v).2 hs, hs]

theorem shown_codeUnit_eq_iff (v w : Int32) :
    Quoted.shown (codeUnit v) = Quoted.shown (codeUnit w) ↔
      v.toInt % 65536 = w.toInt % 65536 ∨ (Blurred v ∧ Blurred w) := by
  rw [← codeUnit_eq_iff]
  constructor
  · intro h
    by_cases hv : Blurred v
    · have hw := (shown_codeUnit_eq_replacement v).2 hv
      rw [h, shown_codeUnit_eq_replacement] at hw
      exact .inr ⟨hv, hw⟩
    · have hw : ¬ Blurred w := by
        rwa [← shown_codeUnit_eq_replacement, ← h, shown_codeUnit_eq_replacement]
      rw [shown_codeUnit_of_not_blurred hv, shown_codeUnit_of_not_blurred hw] at h
      exact .inl h
  · rintro (h | ⟨hv, hw⟩)
    · rw [h]
    · rw [(shown_codeUnit_eq_replacement v).2 hv, (shown_codeUnit_eq_replacement w).2 hw]

/-- Every integer constant can be cast to a character, and two of the results are printed alike if and
only if they have the same code unit, or the code units of both are printed as U+FFFD. -/
theorem print_charCast_eq_iff (v w : Int32) (it it' : Interner) :
    ∃ r s, ((Expr.int v).castTo (.atomic .char) it).1 = .ok (.build r) ∧
      ((Expr.int w).castTo (.atomic .char) it').1 = .ok (.build s) ∧
      (r.print = s.print ↔
        v.toInt % 65536 = w.toInt % 65536 ∨ (Blurred v ∧ Blurred w)) := by
  refine ⟨_, _, castTo_char v it, castTo_char w it', ?_⟩
  rw [print, print, Quoted.codePoint_eq_iff, shown_codeUnit_eq_iff]

/-- The first two halves of surrogate pairs. -/
theorem print_charCast_surrogates :
    ((Expr.int 0xD800).castTo (.atomic .char) .shared).1 = .ok (.build (.char 0xD800)) ∧
      ((Expr.int 0xD801).castTo (.atomic .char) .shared).1 = .ok (.build (.char 0xD801)) ∧
      (Expr.char 0xD800).print = (Expr.char 0xD801).print ∧
      (0xD800 : Int32).toInt % 65536 ≠ (0xD801 : Int32).toInt % 65536 := by
  refine ⟨rfl, rfl, ?_, ?_⟩ <;> decide +kernel

end StackTypes.Expr
