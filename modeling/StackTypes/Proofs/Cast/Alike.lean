/-
Casts of alike expressions to alike types. The rules look at types in two ways, whether they have the
same members or slots and whether they are a certain atomic type, and at the outermost node of the
expression; all of it is the same for alike expressions and types. So casts from two states of the
interner have the same outcome: alike results, of which the same ones are the expression itself, or
failures that look the same.
-/
import StackTypes.Proofs.Expr.Alike

namespace StackTypes

open Interner

/-! ## Outcomes -/

/-- Both fail or both succeed, with related errors or results. -/
inductive SameOutcome {ε ε' α β : Type} (R : ε → ε' → Prop) (S : α → β → Prop) :
    Except ε α → Except ε' β → Prop
  | error {e : ε} {e' : ε'} (h : R e e') : SameOutcome R S (.error e) (.error e')
  | ok {a : α} {b : β} (h : S a b) : SameOutcome R S (.ok a) (.ok b)

/-- Two choices on equivalent conditions have the same outcome when their branches do. -/
theorem SameOutcome.ite {ε ε' α β : Type} {R : ε → ε' → Prop} {S : α → β → Prop} {p q : Prop}
    [Decidable p] [Decidable q] {x x' : Except ε α} {y y' : Except ε' β} (h : p ↔ q)
    (hx : SameOutcome R S x y) (hx' : SameOutcome R S x' y') :
    SameOutcome R S (if p then x else x') (if q then y else y') := by
  by_cases hp : p
  · rwa [if_pos hp, if_pos (h.1 hp)]
  · rwa [if_neg hp, if_neg fun hq => hp (h.2 hq)]

/-- The kinds of failure. -/
inductive FaultKind where
  | placeholder
  | incompatible
  | arity
deriving DecidableEq, Repr

/-- What can be seen of a failure. -/
structure Fault where
  kind : FaultKind
  types : List Ty.View
  message : Bytes
deriving DecidableEq, Repr

/-- What can be seen of a cast that fails: its kind, the types that it names and its text. -/
def CastError.fault : CastError → Fault
  | .placeholder required =>
    ⟨.placeholder, [required.view], (CastError.placeholder required).message⟩
  | .incompatible source required =>
    ⟨.incompatible, [source.view, required.view], (CastError.incompatible source required).message⟩

/-- A cast that fails inside a call is seen as its failure, with the text of the call error. -/
def CallError.fault : CallError → Fault
  | .arity expected given => ⟨.arity, [], (CallError.arity expected given).message⟩
  | .argument index cause => { cause.fault with message := (CallError.argument index cause).message }

theorem CastError.message_fault (err : CastError) : err.fault.message = err.message := by
  cases err <;> rfl

/-- The same coercion but for the places of types. -/
inductive Coercion.Alike : Coercion → Coercion → Prop
  | keep : Alike .keep .keep
  | build {r s : Expr} (h : r.Alike s) : Alike (.build r) (.build s)

/-- Alike coercions of alike expressions give alike results. -/
theorem Coercion.Alike.apply {c d : Coercion} {e f : Expr} (hc : c.Alike d) (he : e.Alike f) :
    (c.apply e).Alike (d.apply f) := by
  cases hc with
  | keep => exact he
  | build h => exact h

/-- Alike coercions both keep the expression or both build another. -/
theorem Coercion.Alike.isKeep_eq {c d : Coercion} (hc : c.Alike d) : c.isKeep = d.isKeep := by
  cases hc <;> rfl

/-- Casts with the same outcome but for the places of types. -/
abbrev SameCast : Except CastError Coercion → Except CastError Coercion → Prop :=
  SameOutcome (fun err err' => err.fault = err'.fault) Coercion.Alike

namespace Ty.Alike

variable {s s' t t' : Ty}

/-- Whether two types have the same members can be asked of types alike to them. -/
theorem sameMembers_eq (hs : s.Alike s') (ht : t.Alike t') : s.sameMembers t = s'.sameMembers t' := by
  rw [sameMembers_congr ht, sameMembers_comm, sameMembers_congr hs, sameMembers_comm]

theorem isUnknown_eq (ht : t.Alike t') : t.isUnknown = t'.isUnknown := by
  unfold isUnknown
  rw [Bool.eq_iff_iff, beq_iff_eq, beq_iff_eq]
  exact ht.eq_atomic_iff .unknown

/-- Whether two types are compatible can be asked of types alike to them. -/
theorem compatible_eq (hs : s.Alike s') (ht : t.Alike t') : s.compatible t = s'.compatible t' := by
  rw [compatible, compatible, hs.isUnknown_eq, ht.isUnknown_eq, footprint_eq_of_sameMembers hs,
    footprint_eq_of_sameMembers ht]

end Ty.Alike

namespace Expr

theorem Alike.isPlaceholder_eq {e f : Expr} (h : e.Alike f) : e.isPlaceholder = f.isPlaceholder := by
  cases h <;> rfl

theorem Alike.colorOf {e f : Expr} (h : e.Alike f) : e.colorOf.Alike f.colorOf := by
  cases h with
  | widget h => exact .color h
  | int | long | string | boolean | char | nullable | var | placeholder | location | color | cast
  | tuple => exact .color (by constructor <;> assumption)

/-- Alike expressions become the same literal, if any, when they are cast to alike types. -/
theorem Alike.coerceLiteral?_eq {e f : Expr} {t u : Ty} (h : e.Alike f) (ht : t.Alike u) :
    e.coerceLiteral? t = f.coerceLiteral? u := by
  have hfootprint := Ty.footprint_eq_of_sameMembers ht
  cases h with
  | int v =>
    cases t with
    | atomic a => rw [(ht.eq_atomic_iff a).1 rfl]
    | composite c =>
      cases u with
      | atomic b => cases ht
      | composite d => simp only [coerceLiteral?, hfootprint]
  | long | string | boolean | char | nullable | var | placeholder | location | widget | color | cast
  | tuple => rfl

/-! ## The outcome of a cast -/

/-- Every rule of a cast decides the same for alike expressions, sources and targets. -/
theorem Alike.coerce {e f : Expr} {s s' t t' : Ty} (h : e.Alike f) (hs : s.Alike s')
    (ht : t.Alike t') :
    SameCast (e.coerce s t) (f.coerce s' t') := by
  unfold Expr.coerce
  -- one rule after the other, each with the same condition on both sides
  refine .ite (by rw [hs.sameMembers_eq ht]) (.ok .keep) ?_
  refine .ite (by rw [h.isPlaceholder_eq]) (.error ?_) ?_
  · simp only [CastError.fault, CastError.message, ht.view_eq, ht.toText_eq]
  refine .ite (by rw [ht.isUnknown_eq]) (.ok .keep) ?_
  refine .ite (ht.eq_atomic_iff _) (.ok (.build (.location h))) ?_
  refine .ite (ht.eq_atomic_iff _) (.ok (.build (.widget h))) ?_
  refine .ite (ht.eq_atomic_iff _) (.ok (.build h.colorOf)) ?_
  refine .ite (and_congr (or_congr (hs.eq_atomic_iff _) (hs.eq_atomic_iff _)) (ht.eq_atomic_iff _))
    (.ok .keep) ?_
  rw [h.coerceLiteral?_eq ht]
  cases f.coerceLiteral? t' with
  | some r => exact .ok (.build (.refl r))
  | none =>
    refine .ite (by rw [ht.compatible_eq hs]) (.ok (.build (.cast ht h))) (.error ?_)
    simp only [CastError.fault, CastError.message, hs.view_eq, ht.view_eq, hs.toText_eq, ht.toText_eq]

theorem castTo_eq (e : Expr) (t : Ty) :
    e.castTo t = (do
      let source ← (e.type : StateM Interner Ty)
      return e.coerce source t : StateM Interner (Except CastError Coercion)) :=
  rfl

/-- Casts of alike expressions to alike types have the same outcome, whatever is registered. -/
theorem Alike.agree_castTo {e f : Expr} {t u : Ty} (h : e.Alike f) (ht : t.Alike u) :
    Agree SameCast (e.castTo t) (f.castTo u) := by
  rw [castTo_eq, castTo_eq]
  exact h.agree_type.bind fun s s' hs => .pure (h.coerce hs ht)

end Expr

/-! ## Calls -/

theorem castFrom_cons (index : Nat) (e : Expr) (t : Ty) (rest : List (Expr × Ty)) :
    castFrom index ((e, t) :: rest) = (do
      match ← (e.castTo t : StateM Interner (Except CastError Coercion)) with
      | .error cause => return .error (.argument index cause)
      | .ok c =>
        match ← (castFrom (index + 1) rest : StateM Interner (Except CallError _)) with
        | .error err => return .error err
        | .ok cs => return .ok ((e, c) :: cs) :
      StateM Interner (Except CallError (List (Expr × Coercion)))) := by
  funext it
  rw [castFrom]
  simp only [bind, StateT.bind]
  rcases e.castTo t it with ⟨cause | c, it₁⟩
  · rfl
  · simp only [bind, StateT.bind]
    rcases castFrom (index + 1) rest it₁ with ⟨err | cs, it₂⟩ <;> rfl

/-- An argument, or the cast of one, that is the same but for the places of types. -/
def AlikeWith {α : Type} (R : α → α → Prop) (p q : Expr × α) : Prop :=
  p.1.Alike q.1 ∧ R p.2 q.2

/-- Calls with the same outcome but for the places of types. -/
abbrev SameCall : Except CallError (List (Expr × Coercion)) → Except CallError (List (Expr × Coercion)) →
    Prop :=
  SameOutcome (fun err err' => err.fault = err'.fault) (List.Forall₂ (AlikeWith Coercion.Alike))

theorem forall₂_zip {es fs : List Expr} {ts us : List Ty} (he : List.Forall₂ Expr.Alike es fs)
    (ht : List.Forall₂ Ty.Alike ts us) :
    List.Forall₂ (AlikeWith Ty.Alike) (es.zip ts) (fs.zip us) := by
  induction he generalizing ts us with
  | nil => exact .nil
  | cons h _ ih =>
    cases ht with
    | nil => exact .nil
    | cons h' ht => exact .cons ⟨h, h'⟩ (ih ht)

/-- The casts of alike arguments, from some place of a call on, have the same outcome. -/
theorem agree_castFrom (index : Nat) {args args' : List (Expr × Ty)}
    (h : List.Forall₂ (AlikeWith Ty.Alike) args args') :
    Agree SameCall (castFrom index args) (castFrom index args') := by
  induction h generalizing index with
  | nil => exact .pure (.ok .nil)
  | @cons p q rest rest' hpq _ ih =>
    obtain ⟨e, t⟩ := p
    obtain ⟨f, u⟩ := q
    rw [castFrom_cons, castFrom_cons]
    refine (hpq.1.agree_castTo hpq.2).bind ?_
    rintro _ _ (⟨herr⟩ | ⟨hc⟩)
    · refine .pure (.error ?_)
      simp only [CallError.fault, CallError.message, ← CastError.message_fault, herr]
    · refine (ih (index + 1)).bind ?_
      rintro _ _ (⟨herr⟩ | ⟨hcs⟩)
      · exact .pure (.error herr)
      · exact .pure (.ok (.cons ⟨hpq.1, hc⟩ hcs))

theorem castAll_eq (es : List Expr) (ts : List Ty) :
    castAll es ts = (if es.length ≠ ts.length then
        return .error (.arity ts.length es.length)
      else castFrom 0 (es.zip ts) :
      StateM Interner (Except CallError (List (Expr × Coercion)))) := by
  funext it
  rw [castAll]
  split <;> rfl

/-- Calls with alike arguments and alike expected types have the same outcome. -/
theorem agree_castAll {es fs : List Expr} {ts us : List Ty} (he : List.Forall₂ Expr.Alike es fs)
    (ht : List.Forall₂ Ty.Alike ts us) :
    Agree SameCall (castAll es ts) (castAll fs us) := by
  rw [castAll_eq, castAll_eq, he.length_eq, ht.length_eq]
  split
  · exact .pure (.error rfl)
  · exact agree_castFrom 0 (forall₂_zip he ht)

end StackTypes
