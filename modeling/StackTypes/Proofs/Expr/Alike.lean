/-
Expressions that are the same but for the places of composites in their types. What can be seen of an
expression is its outline, in which each type shows its members and slots but not its place; alike
expressions have the same outline and the same text. Asking for their types from two states of the
interner gives alike types, and asks for the same sequences.
-/
import StackTypes.Expr.Printer
import StackTypes.Proofs.Cast
import StackTypes.Proofs.Expr
import StackTypes.Proofs.Interner.Agree

namespace StackTypes

open Interner

/-! ## Types -/

namespace Ty

/-- What can be seen of a type: everything but its place in an interner. -/
structure View where
  isComposite : Bool
  members : List Atomic
  footprint : Footprint
  text : Bytes
deriving DecidableEq, Repr

/-- Everything of a type but its place. -/
def view (t : Ty) : View :=
  ⟨t.isComposite, t.flatten, t.footprint, t.toText⟩

/-- The same type but for the place. -/
def Alike (t u : Ty) : Prop :=
  t.sameMembers u = true

namespace Alike

variable {t u : Ty}

theorem refl (t : Ty) : t.Alike t :=
  sameMembers_refl t

/-- Alike types look the same. -/
theorem view_eq (h : t.Alike u) : t.view = u.view := by
  have hflatten := flatten_eq_of_sameMembers h
  have hfootprint := footprint_eq_of_sameMembers h
  cases t <;> cases u <;> simp_all [Alike, sameMembers, view, isComposite, toText]

theorem toText_eq (h : t.Alike u) : t.toText = u.toText :=
  congrArg View.text h.view_eq

/-- A type alike to an atomic one is that type, for an atomic type has no place. -/
theorem eq_atomic_iff (h : t.Alike u) (a : Atomic) : t = .atomic a ↔ u = .atomic a :=
  eq_atomic_iff_of_sameMembers h a

end Alike

end Ty

namespace Interner

/-- The interner asked for a type, as a computation. -/
def ask (s : List Atomic) : StateM Interner Ty :=
  fun it => it.of s

/-- Any two interners, asked for the same members, give alike types. -/
theorem agree_ask (s : List Atomic) : Agree Ty.Alike (ask s) (ask s) :=
  fun it it' => ⟨sameMembers_of it it' s, [s], rfl, rfl⟩

end Interner

/-! ## Outlines -/

/-- An expression with something else in the place of its types. -/
inductive Outline (τ : Type) where
  | int (v : Int32)
  | long (v : Int64)
  | string (s : Bytes)
  | boolean (b : Bool)
  | char (v : Int32)
  | nullable (v : Int32)
  | var (name : Bytes) (type : τ)
  | placeholder (type : τ)
  | location (o : Outline τ)
  | widget (o : Outline τ)
  | color (o : Outline τ)
  | cast (target : τ) (o : Outline τ)
  | tuple (os : List (Outline τ))
deriving Repr

namespace Expr

mutual

/-- What can be seen of an expression. -/
def outline : Expr → Outline Ty.View
  | .int v => .int v
  | .long v => .long v
  | .string s => .string s
  | .boolean b => .boolean b
  | .char v => .char v
  | .nullable v => .nullable v
  | .var name t => .var name t.view
  | .placeholder t => .placeholder t.view
  | .location e => .location e.outline
  | .widget e => .widget e.outline
  | .color e => .color e.outline
  | .cast t e => .cast t.view e.outline
  | .tuple es => .tuple (outlineAll es)

/-- The outlines of several expressions, in order. -/
def outlineAll : List Expr → List (Outline Ty.View)
  | [] => []
  | e :: es => e.outline :: outlineAll es

end

/-! ## Alike expressions -/

/-- The same expression but for the places of its types. -/
inductive Alike : Expr → Expr → Prop
  | int (v : Int32) : Alike (.int v) (.int v)
  | long (v : Int64) : Alike (.long v) (.long v)
  | string (s : Bytes) : Alike (.string s) (.string s)
  | boolean (b : Bool) : Alike (.boolean b) (.boolean b)
  | char (v : Int32) : Alike (.char v) (.char v)
  | nullable (v : Int32) : Alike (.nullable v) (.nullable v)
  | var (name : Bytes) {t u : Ty} (ht : t.Alike u) : Alike (.var name t) (.var name u)
  | placeholder {t u : Ty} (ht : t.Alike u) : Alike (.placeholder t) (.placeholder u)
  | location {e f : Expr} (h : Alike e f) : Alike (.location e) (.location f)
  | widget {e f : Expr} (h : Alike e f) : Alike (.widget e) (.widget f)
  | color {e f : Expr} (h : Alike e f) : Alike (.color e) (.color f)
  | cast {t u : Ty} {e f : Expr} (ht : t.Alike u) (h : Alike e f) : Alike (.cast t e) (.cast u f)
  | tuple {es fs : List Expr} (h : List.Forall₂ Alike es fs) : Alike (.tuple es) (.tuple fs)

mutual

/-- Alike expressions have the same outline. -/
theorem Alike.outline_eq : {e f : Expr} → e.Alike f → e.outline = f.outline
  | _, _, .int _ | _, _, .long _ | _, _, .string _ | _, _, .boolean _ | _, _, .char _
  | _, _, .nullable _ => rfl
  | _, _, .var _ ht | _, _, .placeholder ht => by simp only [outline, ht.view_eq]
  | _, _, .location h | _, _, .widget h | _, _, .color h => by simp only [outline, h.outline_eq]
  | _, _, .cast ht h => by simp only [outline, ht.view_eq, h.outline_eq]
  | _, _, .tuple h => by simp only [outline, outlineAll_eq h]

theorem outlineAll_eq : {es fs : List Expr} → List.Forall₂ Alike es fs → outlineAll es = outlineAll fs
  | _, _, .nil => rfl
  | _, _, .cons h hs => by simp only [outlineAll, h.outline_eq, outlineAll_eq hs]

end

theorem Alike.packed?_eq {e f : Expr} (h : e.Alike f) : e.packed? = f.packed? := by
  cases h <;> rfl

mutual

/-- Alike expressions are printed alike. -/
theorem Alike.print_eq : {e f : Expr} → e.Alike f → e.print = f.print
  | _, _, .int _ | _, _, .long _ | _, _, .string _ | _, _, .boolean _ | _, _, .char _
  | _, _, .nullable _ | _, _, .var _ _ => by simp only [print]
  | _, _, .placeholder ht => by simp only [print, ht.toText_eq]
  | _, _, .location h | _, _, .widget h | _, _, .color h => by
    simp only [print, h.packed?_eq, h.print_eq]
  | _, _, .cast ht h => by simp only [print, ht.toText_eq, h.print_eq]
  | _, _, .tuple h => by simp only [print, printAll_eq h]

theorem printAll_eq : {es fs : List Expr} → List.Forall₂ Alike es fs → printAll es = printAll fs
  | _, _, .nil => rfl
  | _, _, .cons h hs => by simp only [printAll, h.print_eq, printAll_eq hs]

end

/-! ## Their types -/

/-- The type of a tuple is asked for once the types of its elements have been. -/
theorem type_tuple (es : List Expr) :
    (Expr.tuple es).type = (memberTypes es >>= ask : StateM Interner Ty) := by
  funext it
  rw [type]
  rfl

theorem memberTypes_cons (e : Expr) (es : List Expr) :
    memberTypes (e :: es) = (do
      let t ← e.type
      let s ← memberTypes es
      return t.flatten ++ s : StateM Interner (List Atomic)) := by
  funext it
  rw [memberTypes]
  rfl

mutual

/-- Alike expressions have alike types, and ask for the same sequences. -/
theorem Alike.agree_type : {e f : Expr} → e.Alike f → Agree Ty.Alike e.type f.type
  | _, _, .int _ | _, _, .nullable _ | _, _, .long _ | _, _, .string _ | _, _, .boolean _
  | _, _, .char _ | _, _, .location _ | _, _, .widget _ | _, _, .color _ => Agree.pure (.refl _)
  | _, _, .var _ ht | _, _, .placeholder ht | _, _, .cast ht _ => Agree.pure ht
  | _, _, .tuple h => by
    rw [type_tuple, type_tuple]
    refine Agree.bind (agree_memberTypes h) ?_
    rintro s _ rfl
    exact agree_ask s

theorem agree_memberTypes : {es fs : List Expr} → List.Forall₂ Alike es fs →
    Agree Eq (memberTypes es) (memberTypes fs)
  | _, _, .nil => Agree.pure rfl
  | _, _, .cons h hs => by
    rw [memberTypes_cons, memberTypes_cons]
    refine Agree.bind h.agree_type fun t u htu => ?_
    refine Agree.bind (agree_memberTypes hs) ?_
    rintro s _ rfl
    exact Agree.pure (by rw [Ty.flatten_eq_of_sameMembers htu])

end

mutual

theorem Alike.refl : (e : Expr) → e.Alike e
  | .int v => .int v
  | .long v => .long v
  | .string s => .string s
  | .boolean b => .boolean b
  | .char v => .char v
  | .nullable v => .nullable v
  | .var name t => .var name (.refl t)
  | .placeholder t => .placeholder (.refl t)
  | .location e => .location (Alike.refl e)
  | .widget e => .widget (Alike.refl e)
  | .color e => .color (Alike.refl e)
  | .cast t e => .cast (.refl t) (Alike.refl e)
  | .tuple es => .tuple (alike_all es)

theorem alike_all : (es : List Expr) → List.Forall₂ Alike es es
  | [] => .nil
  | e :: es => .cons (Alike.refl e) (alike_all es)

end

/-! ## Asking again -/

/-- What asking for a type does to the interner is to ask it for some sequences. -/
theorem exists_calls_type (e : Expr) (it : Interner) : ∃ calls, (e.type it).2 = it.after calls := by
  obtain ⟨-, calls, hcalls, -⟩ := (Alike.refl e).agree_type it it
  exact ⟨calls, hcalls⟩

/-- Asking for the type of an expression keeps what is registered. -/
theorem type_extends (e : Expr) (it : Interner) : Extends it (e.type it).2 := by
  obtain ⟨calls, hcalls⟩ := exists_calls_type e it
  rw [hcalls]
  exact after_extends it calls

theorem memberTypes_extends (es : List Expr) (it : Interner) : Extends it (memberTypes es it).2 := by
  obtain ⟨-, calls, hcalls, -⟩ := agree_memberTypes (alike_all es) it it
  have hcalls : (memberTypes es it).2 = it.after calls := hcalls
  rw [hcalls]
  exact after_extends it calls

mutual

/-- An expression has its type ever after, and asking for it again registers nothing. -/
theorem type_of_extends : (e : Expr) → {it it' : Interner} → Extends (e.type it).2 it' →
    e.type it' = ((e.type it).1, it')
  | .int _, _, _, _ | .nullable _, _, _, _ | .long _, _, _, _ | .string _, _, _, _
  | .boolean _, _, _, _ | .char _, _, _, _ | .var _ _, _, _, _ | .placeholder _, _, _, _
  | .cast _ _, _, _, _ | .location _, _, _, _ | .widget _, _, _, _ | .color _, _, _, _ => by
    simp only [type]
  | .tuple es, it, it', h => by
    simp only [type] at h ⊢
    rw [memberTypes_of_extends es ((of_extends _ _).trans h)]
    exact of_of_extends h

theorem memberTypes_of_extends : (es : List Expr) → {it it' : Interner} →
    Extends (memberTypes es it).2 it' → memberTypes es it' = ((memberTypes es it).1, it')
  | [], _, _, _ => rfl
  | e :: es, it, it', h => by
    simp only [memberTypes] at h ⊢
    rw [type_of_extends e ((memberTypes_extends es _).trans h), memberTypes_of_extends es h]

end

end Expr

end StackTypes
