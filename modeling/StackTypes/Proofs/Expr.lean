/-
Types of expressions. Asking for the type of a tuple may register it, and its place depends on what
was registered before; its members do not. So the type of an expression has the same members in every
state of the interner, and is the same type when it is atomic.
-/
import StackTypes.Expr
import StackTypes.Proofs.Interner

namespace StackTypes

/-! ## Types with the same members -/

namespace Ty

@[simp] theorem sameMembers_refl (t : Ty) : t.sameMembers t = true := by
  cases t <;> simp [sameMembers]

theorem sameMembers_comm (t u : Ty) : t.sameMembers u = u.sameMembers t := by
  cases t <;> cases u <;> simp [sameMembers, Bool.beq_comm]

/-- Types with the same members are flattened to the same sequence. -/
theorem flatten_eq_of_sameMembers {t u : Ty} (h : t.sameMembers u = true) : t.flatten = u.flatten := by
  cases t <;> cases u <;> simp_all [sameMembers, flatten]

/-- Of two types with the same members, any third type has the members of both or of neither. -/
theorem sameMembers_congr {t u : Ty} (h : t.sameMembers u = true) (v : Ty) :
    v.sameMembers t = v.sameMembers u := by
  cases t <;> cases u <;> cases v <;> simp_all [sameMembers]

theorem eq_atomic_iff_of_sameMembers {t u : Ty} (h : t.sameMembers u = true) (a : Atomic) :
    t = .atomic a ↔ u = .atomic a := by
  cases t <;> cases u <;> simp_all [sameMembers]

end Ty

/-- Interners that are asked for the same sequence give types with the same members. -/
theorem Interner.sameMembers_of (it it' : Interner) (s : List Atomic) :
    (it.of s).1.sameMembers (it'.of s).1 = true := by
  rcases Nat.lt_or_ge s.length 2 with h | h
  · rw [of_short it it' h]
    exact Ty.sameMembers_refl _
  · rw [of_eq it h, of_eq it' h]
    simp [Ty.sameMembers]

namespace Expr

/-! ## Types in different states of the interner -/

mutual

/-- The type of an expression has the same members whatever is registered. -/
theorem sameMembers_type : (e : Expr) → (it it' : Interner) →
    (e.type it).1.sameMembers (e.type it').1 = true
  | .int _, _, _ | .nullable _, _, _ | .long _, _, _ | .string _, _, _ | .boolean _, _, _
  | .char _, _, _ | .var _ _, _, _ | .placeholder _, _, _ | .cast _ _, _, _ | .location _, _, _
  | .widget _, _, _ | .color _, _, _ => by simp [type]
  | .tuple es, it, it' => by
    simp only [type]
    rw [memberTypes_eq es it it']
    exact Interner.sameMembers_of _ _ _

theorem memberTypes_eq : (es : List Expr) → (it it' : Interner) →
    (memberTypes es it).1 = (memberTypes es it').1
  | [], _, _ => rfl
  | e :: es, it, it' => by
    simp only [memberTypes]
    rw [Ty.flatten_eq_of_sameMembers (sameMembers_type e it it'),
      memberTypes_eq es (e.type it).2 (e.type it').2]

end

end Expr

end StackTypes
