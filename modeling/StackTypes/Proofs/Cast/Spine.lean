/-
Well-formed spines. The spine of an expression is the run of wrappers and casts from its outermost
node down to the core. On a good spine nothing is put around a value that is not resolved, and every
cast is one that is needed and that no other rule would have done. Casting keeps spines good: each
rule adds a node whose conditions are the ones under which the rule was reached, and the one rule that
takes a node away leaves a spine that was good before.

The conditions speak of the operand's type, which does not depend on the state of the interner in
which it is asked for (`Good.congr`).
-/
import StackTypes.Proofs.Cast.Alike
import StackTypes.Proofs.Cast.Chain

namespace StackTypes

namespace Expr

/-! ## Good spines -/

/-- A cast that belongs where it is: the types have the same slots and differ, the target is not made
in another way, and the operand is neither a constant that can be written anew nor a value that is
stored as an integer anyway. -/
structure Needed (it : Interner) (target : Ty) (operand : Expr) : Prop where
  compatible : target.compatible (operand.type it).1 = true
  differ : target.sameMembers (operand.type it).1 = false
  known : target ≠ .atomic .unknown
  unwrapped : target ≠ .atomic .location ∧ target ≠ .atomic .widget ∧ target ≠ .atomic .color
  literal : ∀ v, operand ≠ .int v
  stored : ¬ (target = .atomic .int ∧
    ((operand.type it).1 = .atomic .boolean ∨ (operand.type it).1 = .atomic .color))

/-- What stands right under a node of the spine. -/
def operand? : Expr → Option Expr
  | .location e | .widget e | .color e | .cast _ e => some e
  | _ => none

/-- No node of the spine has an unresolved value right under it, and every cast on it is needed. -/
inductive Good (it : Interner) : Expr → Prop
  | core {e : Expr} (h : e.operand? = none) : Good it e
  | node {e o : Expr} (h : e.operand? = some o) (resolved : ∀ slot, o ≠ .placeholder slot)
      (needed : ∀ t, e = .cast t o → Needed it t o) (good : Good it o) : Good it e

theorem Needed.congr {it : Interner} {t : Ty} {e : Expr} (h : Needed it t e) (it' : Interner) :
    Needed it' t e := by
  have hsame := sameMembers_type e it it'
  refine ⟨?_, ?_, h.known, h.unwrapped, h.literal, ?_⟩
  · rw [← Ty.Alike.compatible_eq (.refl t) hsame]
    exact h.compatible
  · rw [← Ty.sameMembers_congr hsame]
    exact h.differ
  · rw [← Ty.eq_atomic_iff_of_sameMembers hsame, ← Ty.eq_atomic_iff_of_sameMembers hsame]
    exact h.stored

/-- A spine that is good in one state of the interner is good in every state. -/
theorem Good.congr {e : Expr} {it : Interner} (h : e.Good it) (it' : Interner) : e.Good it' := by
  induction h with
  | core h => exact .core h
  | node h resolved needed _ ih => exact .node h resolved (fun t ht => (needed t ht).congr it') ih

theorem Rewritten.good {v : Int32} {t : Ty} {r : Expr} (h : Rewritten v t r) (it : Interner) :
    r.Good it := by
  cases h <;> exact .core rfl

/-- Wrapping adds a node, except that a colour takes the place of a component pointer. -/
theorem Wrapped.good {e r : Expr} {t : Ty} {it : Interner} (hw : Wrapped e t r) (h : e.Good it)
    (he : ∀ slot, e ≠ .placeholder slot) : r.Good it := by
  cases hw with
  | location | widget | color => exact .node rfl he (by simp) h
  | recolor o =>
    cases h with
    | core h => simp [operand?] at h
    | node h resolved _ good =>
      cases h
      exact .node rfl resolved (by simp) good

/-! ## Casting keeps them good -/

theorem Pending.ne_placeholder {e : Expr} {source required : Ty} (p : Pending e source required)
    (slot : Ty) : e ≠ .placeholder slot := by
  rintro rfl
  have := p.resolved
  simp [isPlaceholder] at this

theorem good_castOn {e : Expr} {it : Interner} (h : e.Good it) (t : Ty) : (e.castOn t it).1.Good it := by
  have hc := castTo_coerced e t it
  rw [castOn_eq]
  generalize (e.castTo t it).1 = outcome at hc
  cases hc with
  | same | unresolved | unknown | stored | incompatible => exact h
  | location p => exact (Wrapped.location e).good h p.ne_placeholder
  | widget p => exact (Wrapped.widget e).good h p.ne_placeholder
  | color p => exact (wrapped_colorOf e).good h p.ne_placeholder
  | literal _ _ hr => exact hr.good it
  | reread p hv hu hw hs hcomp =>
    refine .node rfl p.ne_placeholder (fun t' ht' => ?_) h
    cases ht'
    refine ⟨hcomp, ?_, hu, by simpa [wrappers] using hw, hv, ?_⟩
    · rw [Ty.sameMembers_comm]
      exact p.differ
    · rintro ⟨ht, hsource⟩
      exact hs ⟨hsource, ht⟩

theorem good_castChain {e : Expr} {it : Interner} (h : e.Good it) (ts : List Ty) :
    (e.castChain ts it).1.Good (e.castChain ts it).2 := by
  induction ts generalizing e it with
  | nil => exact h
  | cons t ts ih => exact ih ((good_castOn h t).congr _)

/-- A chain of casts that starts with a good spine has good spines all along, whatever the types
required and whatever the interner holds in the meantime. -/
theorem chain_keeps_good {e : Expr} {it₀ : Interner} (h : e.Good it₀) (ts : List Ty) (it it₁ : Interner)
    (n : Nat) : (e.current ts it n).Good it₁ :=
  (good_castChain (h.congr it) (ts.take n)).congr it₁

/-- A colour is made of what is under a component pointer, and is then stored as an integer. -/
theorem pointer_to_color_keeps_good :
    let e : Expr := .widget (.cast (.atomic .sprite) (.var (utf8 "x") (.atomic .int)))
    let ts : List Ty := [.atomic .color, .atomic .int, .atomic .sprite]
    e.Good .shared ∧
      e.current ts .shared 3 =
        .cast (.atomic .sprite) (.color (.cast (.atomic .sprite) (.var (utf8 "x") (.atomic .int)))) ∧
      (e.current ts .shared 3).Good .shared := by
  intro e ts
  have hvar : Good .shared (.var (utf8 "x") (.atomic .int)) := .core rfl
  have hcast : Good .shared (.cast (.atomic .sprite) (.var (utf8 "x") (.atomic .int))) := by
    refine .node rfl (by simp) (fun t ht => ?_) hvar
    cases ht
    exact ⟨by decide, by decide, by decide, by decide, by simp, by decide⟩
  have he : e.Good .shared := .node rfl (by simp) (by simp [e]) hcast
  exact ⟨he, rfl, chain_keeps_good he ts .shared .shared 3⟩

end Expr

end StackTypes
