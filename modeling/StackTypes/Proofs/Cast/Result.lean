/-
Results of casts that succeed. As a rule the result has the required type. There are three exceptions:
the unknown type leaves the expression as it is, a truth value or colour is an integer already, and an
integer constant for a handle type is written as a constant that may stand for no value, whose type is
`int` again. The last is the only one that shows when the cast is repeated: the constant does not tell
what it was written for, so that it is read as the required type once more, and then stays.
-/
import StackTypes.Proofs.Cast.Alike
import StackTypes.Proofs.Cast.Chain
import StackTypes.Proofs.Interner.Reachable

namespace StackTypes

theorem Ty.sameMembers_atomic_iff {t : Ty} {a : Atomic} :
    t.sameMembers (.atomic a) = true ↔ t = .atomic a := by
  cases t <;> simp [sameMembers]

namespace Expr

open Interner

/-! ## How a cast ends -/

/-- A value of this type is stored as an integer. -/
def Stored (source required : Ty) : Prop :=
  required = .atomic .int ∧ (source = .atomic .boolean ∨ source = .atomic .color)

/-- The constant is written as one that may stand for no value: as a truth value that is not there, or
for a type with the slots of an integer for which there is no other rule. -/
def BecomesNullable (v : Int32) (required : Ty) : Prop :=
  required = .atomic .boolean ∧ v = -1 ∨
    required.footprint = ⟨1, 0, 0⟩ ∧
      required ∉ [.atomic .int, .atomic .boolean, .atomic .char, .atomic .location, .atomic .widget,
        .atomic .color]

theorem BecomesNullable.footprint_eq {v : Int32} {t : Ty} (h : BecomesNullable v t) :
    t.footprint = Atomic.int.footprint := by
  rcases h with ⟨rfl, -⟩ | ⟨hf, -⟩
  · rfl
  · exact hf

theorem BecomesNullable.ne_int {v : Int32} {t : Ty} (h : BecomesNullable v t) : t ≠ .atomic .int := by
  rintro rfl
  rcases h with ⟨h, -⟩ | ⟨-, h⟩ <;> simp at h

theorem BecomesNullable.ne_unknown {v : Int32} {t : Ty} (h : BecomesNullable v t) :
    t ≠ .atomic .unknown := by
  rintro rfl
  exact absurd h.footprint_eq (by decide)

theorem BecomesNullable.not_mem_wrappers {v : Int32} {t : Ty} (h : BecomesNullable v t) :
    t ∉ wrappers := by
  rcases h with ⟨rfl, -⟩ | ⟨-, h⟩
  · decide
  · simp_all [wrappers]

theorem rewritten_nullable_iff {v w : Int32} {t : Ty} :
    Rewritten v t (.nullable w) ↔ w = v ∧ BecomesNullable v t := by
  constructor
  · intro h
    cases h with
    | noBoolean hv => exact ⟨rfl, .inl ⟨rfl, hv⟩⟩
    | handle hf hi hb hc hw => exact ⟨rfl, .inr ⟨hf, by simp_all [wrappers]⟩⟩
  · rintro ⟨rfl, ⟨rfl, hv⟩ | ⟨hf, ht⟩⟩
    · exact .noBoolean hv
    · simp only [List.mem_cons, List.not_mem_nil, or_false, not_or] at ht
      exact .handle hf ht.1 ht.2.1 ht.2.2.1 (by simp [wrappers, ht])

/-- How a cast ends that succeeds: with a result of the required type, or in one of three other
ways. -/
inductive Ends (e : Expr) (source t : Ty) : Coercion → Prop
  | typed {c : Coercion} (hr : ∀ it, ((c.apply e).type it).1.sameMembers t = true)
      (unknown : t = .atomic .unknown → c = .keep ∧ source = .atomic .unknown)
      (stored : ¬ Stored source t)
      (nullable : ∀ v, e = .int v → ¬ BecomesNullable v t ∧ ∀ w, c.apply e ≠ .nullable w) :
      Ends e source t c
  | unknown (ht : t = .atomic .unknown) (hs : source ≠ .atomic .unknown) : Ends e source t .keep
  | stored (h : Stored source t) : Ends e source t .keep
  | nullable {v : Int32} (hv : e = .int v) (h : BecomesNullable v t) :
      Ends e source t (.build (.nullable v))

/-- A result of an atomic type that has no other rule is of the required type. -/
theorem Ends.of_atomic {e r : Expr} {source : Ty} {a : Atomic}
    (hr : ∀ it, (r.type it).1 = .atomic a) (hu : a ≠ .unknown) (hi : a ≠ .int)
    (hn : ∀ v, e = .int v → ¬ BecomesNullable v (.atomic a)) (hw : ∀ w, r ≠ .nullable w) :
    Ends e source (.atomic a) (.build r) := by
  refine .typed (fun it => ?_) ?_ ?_ fun v hv => ⟨hn v hv, hw⟩
  · rw [Coercion.apply, hr]
    exact Ty.sameMembers_refl _
  · rintro ⟨⟩
    exact absurd rfl hu
  · rintro ⟨⟨⟩, -⟩
    exact absurd rfl hi

theorem Ends.of_wrapped {e r : Expr} {source t : Ty} (h : Wrapped e t r) :
    Ends e source t (.build r) := by
  cases h <;>
    exact .of_atomic (by simp [type]) (by decide) (by decide) (by simp [BecomesNullable]) (by simp)

theorem ends_of_castTo {e : Expr} {t : Ty} {it : Interner} {c : Coercion}
    (h : (e.castTo t it).1 = .ok c) : Ends e (e.type it).1 t c := by
  have hint : ∀ v, e = .int v → (e.type it).1 = .atomic .int := by rintro v rfl; simp [type]
  have hc := castTo_coerced e t it
  rw [h] at hc
  cases hc with
  | same hsame =>
    refine .typed (fun it' => ?_) (fun ht => ⟨rfl, ?_⟩) ?_ fun v hv => ⟨fun hn => ?_, ?_⟩
    · exact ((Ty.Alike.sameMembers_eq (sameMembers_type e it it') (.refl t)).symm).trans hsame
    · rw [ht] at hsame
      exact Ty.sameMembers_atomic_iff.1 hsame
    · rintro ⟨rfl, hs⟩
      rw [Ty.sameMembers_atomic_iff.1 hsame] at hs
      simp at hs
    · rw [hint v hv, Ty.sameMembers_comm] at hsame
      exact hn.ne_int (Ty.sameMembers_atomic_iff.1 hsame)
    · rw [hv]
      simp [Coercion.apply]
  | unknown p ht =>
    refine .unknown ht fun hs => ?_
    have := p.differ
    rw [hs, ht] at this
    simp at this
  | location _ ht =>
    rw [ht]
    exact .of_wrapped (.location e)
  | widget _ ht =>
    rw [ht]
    exact .of_wrapped (.widget e)
  | color _ ht =>
    rw [ht]
    exact .of_wrapped (wrapped_colorOf e)
  | stored _ hs ht => exact .stored ⟨ht, hs⟩
  | literal _ hv hr =>
    cases hr with
    | boolean hne =>
      exact .of_atomic (by simp [type]) (by decide) (by decide)
        (by rintro w hw; rw [hv] at hw; cases hw; simp [BecomesNullable, hne]) (by simp)
    | char =>
      exact .of_atomic (by simp [type]) (by decide) (by decide) (by simp [BecomesNullable]) (by simp)
    | noBoolean hv' => exact .nullable hv (.inl ⟨rfl, hv'⟩)
    | handle hf hi hb hc hw =>
      exact .nullable hv (rewritten_nullable_iff.1 (.handle hf hi hb hc hw)).2
  | reread _ hv hu _ hs =>
    refine .typed (fun it' => ?_) (fun ht => absurd ht hu) (fun h => hs ⟨h.2, h.1⟩) fun v h => ?_
    · simp [Coercion.apply, type]
    · exact absurd h (hv v)

/-! ## The type of the result -/

section Result

variable {e : Expr} {t : Ty} {it : Interner} {c : Coercion}

/-- An expression that is kept has the type after the cast that it had in it. -/
theorem type_after_castTo (e : Expr) (t : Ty) (it : Interner) :
    (e.type (e.castTo t it).2).1 = (e.type it).1 := by
  have hagain := type_of_extends e (Extends.refl (e.type it).2)
  exact congrArg Prod.fst hagain

/-- The result has the slots of the required type, unless that is unknown. -/
theorem footprint_of_castTo (h : (e.castTo t it).1 = .ok c) (ht : t ≠ .atomic .unknown) :
    ((c.apply e).type (e.castTo t it).2).1.footprint = t.footprint := by
  cases ends_of_castTo h with
  | typed hr => exact Ty.footprint_eq_of_sameMembers (hr _)
  | unknown hu => exact absurd hu ht
  | stored hs =>
    rw [Coercion.apply, type_after_castTo]
    obtain ⟨rfl, hs | hs⟩ := hs <;> rw [hs] <;> rfl
  | nullable _ hn =>
    rw [hn.footprint_eq]
    simp [Coercion.apply, type, Ty.footprint]

theorem sameMembers_eq_false_iff (h : (e.castTo t it).1 = .ok c) :
    ((c.apply e).type (e.castTo t it).2).1.sameMembers t = false ↔
      (t = .atomic .unknown ∧ (e.type it).1 ≠ .atomic .unknown) ∨ Stored (e.type it).1 t ∨
        ∃ v, e = .int v ∧ BecomesNullable v t := by
  cases ends_of_castTo h with
  | typed hr hunknown hstored hnullable =>
    rw [hr]
    simp only [Bool.true_eq_false, false_iff]
    rintro (⟨ht, hs⟩ | hs | ⟨v, hv, hn⟩)
    · exact hs (hunknown ht).2
    · exact hstored hs
    · exact (hnullable v hv).1 hn
  | unknown ht hs =>
    refine ⟨fun _ => .inl ⟨ht, hs⟩, fun _ => ?_⟩
    rw [Coercion.apply, type_after_castTo, ht, ← Bool.not_eq_true, Ty.sameMembers_atomic_iff]
    exact hs
  | stored hs =>
    refine ⟨fun _ => .inr (.inl hs), fun _ => ?_⟩
    rw [Coercion.apply, type_after_castTo]
    obtain ⟨rfl, hs | hs⟩ := hs <;> rw [hs] <;> rfl
  | nullable hv hn =>
    refine ⟨fun _ => .inr (.inr ⟨_, hv, hn⟩), fun _ => ?_⟩
    rw [Ty.sameMembers_comm, ← Bool.not_eq_true]
    simpa [Coercion.apply, type, Ty.sameMembers_atomic_iff] using hn.ne_int

theorem apply_eq_nullable_iff {v : Int32} (h : ((Expr.int v).castTo t it).1 = .ok c) (w : Int32) :
    c.apply (.int v) = .nullable w ↔ w = v ∧ BecomesNullable v t := by
  cases ends_of_castTo h with
  | typed _ _ _ hnullable =>
    obtain ⟨hn, hw⟩ := hnullable v rfl
    exact ⟨fun heq => absurd heq (hw w), fun hv => absurd hv.2 hn⟩
  | unknown ht =>
    exact ⟨fun heq => by simp [Coercion.apply] at heq, fun hv => absurd ht hv.2.ne_unknown⟩
  | stored hs =>
    exact ⟨fun heq => by simp [Coercion.apply] at heq, fun hv => absurd hs.1 hv.2.ne_int⟩
  | nullable hv hn =>
    cases hv
    simp [Coercion.apply, hn, eq_comm]

/-! ### The very type -/

/-- The type that an expression carries with it. -/
def carried? : Expr → Option Ty
  | .var _ t | .placeholder t | .cast t _ => some t
  | _ => none

theorem holds_type (h : ∀ u, e.carried? = some u → it.Holds u) : (e.type it).2.Holds (e.type it).1 := by
  cases e with
  | var | placeholder | cast => simpa [type] using h _ rfl
  | tuple es =>
    simp only [type]
    exact holds_of _ _
  | int | long | string | boolean | char | nullable | location | widget | color =>
    simp only [type]
    exact .atomic _

theorem Wrapped.carried?_eq {e r : Expr} {t : Ty} (h : Wrapped e t r) : r.carried? = none := by
  cases h <;> rfl

theorem carried?_of_build {r : Expr} (h : (e.castTo t it).1 = .ok (.build r)) {u : Ty}
    (hu : r.carried? = some u) : u = t := by
  have hc := castTo_coerced e t it
  rw [h] at hc
  cases hc with
  | location | widget => simp [carried?] at hu
  | color => simp [(wrapped_colorOf e).carried?_eq] at hu
  | literal _ _ hr => cases hr <;> simp [carried?] at hu
  | reread => simpa [carried?, eq_comm] using hu

/-- Among types of one interner, to have the members of the required type is to be that type. -/
theorem type_eq_of_sameMembers (h : (e.castTo t it).1 = .ok c) (hit : it.Reachable) (ht : it.Holds t)
    (he : ∀ u, e.carried? = some u → it.Holds u)
    (hsame : ((c.apply e).type (e.castTo t it).2).1.sameMembers t = true) :
    ((c.apply e).type (e.castTo t it).2).1 = t := by
  have hext : Extends it (e.castTo t it).2 := type_extends e it
  have hr : ∀ u, (c.apply e).carried? = some u → (e.castTo t it).2.Holds u := by
    intro u hu
    cases c with
    | keep => exact (he u hu).extends hext
    | build r =>
      rw [carried?_of_build h hu]
      exact ht.extends hext
  obtain ⟨calls, hcalls⟩ := exists_calls_type e it
  obtain ⟨calls', hcalls'⟩ := exists_calls_type (c.apply e) (e.castTo t it).2
  have hreach : ((c.apply e).type (e.castTo t it).2).2.Reachable := by
    rw [hcalls', show (e.castTo t it).2 = it.after calls from hcalls]
    exact (hit.after calls).after calls'
  exact hreach.eq_of_flatten_eq (holds_type hr) (ht.extends (hext.trans (type_extends _ _)))
    (Ty.flatten_eq_of_sameMembers hsame)

/-- The result of a cast has the required type, and is of that very type when all are types of one
interner, except exactly in three cases; it always has slots that go with the required type. -/
theorem type_of_result (h : (e.castTo t it).1 = .ok c) :
    let source := (e.type it).1
    let r := c.apply e
    let result := (r.type (e.castTo t it).2).1
    (result.sameMembers t = false ↔
      (t = .atomic .unknown ∧ source ≠ .atomic .unknown) ∨ Stored source t ∨
        ∃ v, e = .int v ∧ BecomesNullable v t) ∧
    (it.Reachable → it.Holds t → (∀ u, e.carried? = some u → it.Holds u) →
      result.sameMembers t = true → result = t) ∧
    (t = .atomic .unknown → c = .keep ∧ result = source) ∧
    (Stored source t → c = .keep ∧ result = source) ∧
    (∀ v, e = .int v → (∀ w, r = .nullable w ↔ w = v ∧ BecomesNullable v t) ∧
      (BecomesNullable v t → result = .atomic .int)) ∧
    result.compatible t = true ∧ (t ≠ .atomic .unknown → result.footprint = t.footprint) := by
  intro source r result
  have hkeep : c = .keep → c = .keep ∧ result = source := by
    rintro rfl
    exact ⟨rfl, type_after_castTo e t it⟩
  refine ⟨sameMembers_eq_false_iff h, type_eq_of_sameMembers h, ?_, ?_, ?_, ?_,
    footprint_of_castTo h⟩
  · intro ht
    apply hkeep
    cases ends_of_castTo h with
    | typed _ hunknown => exact (hunknown ht).1
    | unknown | stored => rfl
    | nullable _ hn => exact absurd ht hn.ne_unknown
  · intro hs
    apply hkeep
    cases ends_of_castTo h with
    | typed _ _ hstored => exact absurd hs hstored
    | unknown | stored => rfl
    | nullable _ hn => exact absurd hs.1 hn.ne_int
  · rintro v rfl
    refine ⟨apply_eq_nullable_iff h, fun hn => ?_⟩
    have hr : r = .nullable v := (apply_eq_nullable_iff h v).2 ⟨rfl, hn⟩
    simp only [result, hr, type]
  · by_cases ht : t = .atomic .unknown
    · simp [Ty.compatible, Ty.isUnknown, ht]
    · exact Ty.compatible_of_footprint_eq (footprint_of_castTo h ht)

/-- A composite that looks like an integer, since one of its members has no slots: a constant cast to
it is of type `int`, and a tuple with its members is of that very type. -/
theorem type_of_padded_handle :
    let it := (Interner.empty .shared).after [[.item, .void]]
    let t : Ty := .composite ⟨.shared, 0, [.item, .void]⟩
    let pair : Expr := .tuple [.var (utf8 "x") (.atomic .item), .var (utf8 "y") (.atomic .void)]
    ((Expr.int 7).castTo t it).1 = .ok (.build (.nullable 7)) ∧ BecomesNullable 7 t ∧
      ((Expr.nullable 7).type ((Expr.int 7).castTo t it).2).1 = .atomic .int ∧
      (Ty.atomic .int).footprint = t.footprint ∧
      (pair.castTo t it).1 = .ok .keep ∧ it.Holds t ∧ (pair.type (pair.castTo t it).2).1 = t := by
  intro it t pair
  have hconstant : ((Expr.int 7).castTo t it).1 = .ok (.build (.nullable 7)) := rfl
  have hnullable : BecomesNullable 7 t := .inr ⟨by decide, by decide⟩
  have hpair : (pair.castTo t it).1 = .ok .keep := rfl
  have hreach : it.Reachable := (Reachable.empty .shared).after _
  have hholds : it.Holds t := .composite (by decide)
  obtain ⟨-, -, -, -, hint, -, hfootprint⟩ := type_of_result hconstant
  obtain ⟨-, hvery, -⟩ := type_of_result hpair
  exact ⟨hconstant, hnullable, (hint 7 rfl).2 hnullable, hfootprint (by decide), hpair, hholds,
    hvery hreach hholds (by simp [pair, carried?]) rfl⟩

end Result

/-! ## Repeating a cast -/

theorem castTo_of_sameMembers {e : Expr} {t : Ty} {it : Interner}
    (h : (e.type it).1.sameMembers t = true) : (e.castTo t it).1 = .ok .keep := by
  show e.coerce (e.type it).1 t = _
  rw [coerce, if_pos h]

/-- An expression that is kept by a cast is kept whatever is registered. -/
theorem castTo_keep_congr {e : Expr} {t : Ty} {it : Interner} (h : (e.castTo t it).1 = .ok .keep)
    (it' : Interner) : (e.castTo t it').1 = .ok .keep := by
  obtain ⟨hsame, -⟩ := (Alike.refl e).agree_castTo (.refl t) it it'
  change SameOutcome _ _ (e.castTo t it).1 (e.castTo t it').1 at hsame
  rw [h] at hsame
  generalize (e.castTo t it').1 = outcome at hsame ⊢
  cases hsame with
  | ok hc =>
    cases hc
    rfl

/-- A constant that may stand for no value does not tell for which type it was written. -/
theorem castTo_nullable {v : Int32} {t : Ty} (h : BecomesNullable v t) (it : Interner) :
    ((Expr.nullable v).castTo t it).1 = .ok (.build (.cast t (.nullable v))) := by
  have htype : ((Expr.nullable v).type it).1 = .atomic .int := by simp [type]
  have hc := castTo_coerced (.nullable v) t it
  rw [htype] at hc
  generalize ((Expr.nullable v).castTo t it).1 = outcome at hc ⊢
  cases hc with
  | reread => rfl
  | same hsame =>
    rw [Ty.sameMembers_comm, Ty.sameMembers_atomic_iff] at hsame
    exact absurd hsame h.ne_int
  | unresolved _ he => simp [isPlaceholder] at he
  | unknown _ ht => exact absurd ht h.ne_unknown
  | location _ ht | widget _ ht | color _ ht =>
    exact absurd (by simp [ht, wrappers]) h.not_mem_wrappers
  | stored _ hs => simp at hs
  | literal _ hv => cases hv
  | incompatible _ _ hcomp =>
    rw [Ty.compatible_of_footprint_eq h.footprint_eq] at hcomp
    cases hcomp

theorem castOn_of_ok {e : Expr} {t : Ty} {it : Interner} {c : Coercion}
    (h : (e.castTo t it).1 = .ok c) : (e.castOn t it).1 = c.apply e := by
  rw [castOn_eq, h]

theorem castChain_replicate {e : Expr} {t : Ty} (h : ∀ it, (e.castTo t it).1 = .ok .keep) (n : Nat)
    (it : Interner) : (e.castChain (List.replicate n t) it).1 = e := by
  induction n generalizing it with
  | zero => rfl
  | succ n ih =>
    rw [List.replicate_succ, castChain, castOn_of_ok (h it)]
    exact ih _

/-- An integer constant, and one that may stand for no value. -/
def MadeNullable (e r : Expr) : Prop :=
  (∃ v, e = .int v) ∧ ∃ v, r = .nullable v

theorem recast_of_madeNullable {e : Expr} {t : Ty} {it : Interner} {c : Coercion}
    (h : (e.castTo t it).1 = .ok c) (hm : MadeNullable e (c.apply e)) (it₁ : Interner) :
    ((c.apply e).castTo t it₁).1 = .ok (.build (.cast t (c.apply e))) := by
  obtain ⟨⟨v, rfl⟩, w, hw⟩ := hm
  obtain ⟨rfl, hn⟩ := (apply_eq_nullable_iff h w).1 hw
  rw [hw]
  exact castTo_nullable hn it₁

theorem recast_of_not_madeNullable {e : Expr} {t : Ty} {it : Interner} {c : Coercion}
    (h : (e.castTo t it).1 = .ok c) (hm : ¬ MadeNullable e (c.apply e)) (it₁ : Interner) :
    ((c.apply e).castTo t it₁).1 = .ok .keep := by
  cases ends_of_castTo h with
  | typed hr => exact castTo_of_sameMembers (hr it₁)
  | unknown | stored => exact castTo_keep_congr h it₁
  | nullable hv => exact absurd ⟨⟨_, hv⟩, _, rfl⟩ hm

/-- Casts to a type again and again, when the second gives `c` and the third keeps the expression. -/
theorem castChain_replicate_succ {e : Expr} {t : Ty} {c : Coercion}
    (h : ∀ it, (e.castTo t it).1 = .ok c) (hc : ∀ it, ((c.apply e).castTo t it).1 = .ok .keep) (n : Nat)
    (it : Interner) : (e.castChain (List.replicate (n + 1) t) it).1 = c.apply e := by
  rw [List.replicate_succ, castChain, castOn_of_ok (h it)]
  exact castChain_replicate hc n _

/-- Repeating a cast settles. The second cast keeps the first result, except that a constant which
may now stand for no value is read as the required type once; from then on nothing changes, and no
cast of the repetition fails, whatever is registered in the meantime. -/
theorem recast_settles {e : Expr} {t : Ty} {it : Interner} {c : Coercion}
    (h : (e.castTo t it).1 = .ok c) :
    let r₁ := c.apply e
    ∃ c₂ : Coercion,
      let r₂ := c₂.apply r₁
      (∀ it₁, (r₁.castTo t it₁).1 = .ok c₂) ∧
      (c₂ = .keep ↔ ¬ MadeNullable e r₁) ∧ (c₂ = .build (.cast t r₁) ↔ MadeNullable e r₁) ∧
      (∀ it₂, (r₂.castTo t it₂).1 = .ok .keep) ∧
      ∀ n it₁, (r₁.castChain (List.replicate (n + 1) t) it₁).1 = r₂ := by
  intro r₁
  by_cases hm : MadeNullable e r₁
  · have h₁ := recast_of_madeNullable h hm
    have h₂ : ∀ it₂, ((Expr.cast t r₁).castTo t it₂).1 = .ok .keep := by
      intro it₂
      exact castTo_of_sameMembers (by simp [type])
    exact ⟨.build (.cast t r₁), h₁, by simp [hm], by simp [hm], h₂, castChain_replicate_succ h₁ h₂⟩
  · have h₁ := recast_of_not_madeNullable h hm
    exact ⟨.keep, h₁, by simp [hm], by simp [hm], h₁, castChain_replicate_succ h₁ h₁⟩

/-- A truth value that is not there. -/
theorem recast_of_null_boolean :
    let t : Ty := .atomic .boolean
    let r₁ : Expr := .nullable (-1)
    ((Expr.int (-1)).castTo t .shared).1 = .ok (.build r₁) ∧
      (r₁.castTo t .shared).1 = .ok (.build (.cast t r₁)) ∧
      (r₁.castChain (List.replicate 5 t) .shared).1 = .cast t r₁ := by
  intro t r₁
  have h : ((Expr.int (-1)).castTo t .shared).1 = .ok (.build r₁) := rfl
  obtain ⟨c₂, h₁, -, hbuild, -, hchain⟩ := recast_settles h
  obtain rfl : c₂ = .build (.cast t r₁) := hbuild.2 ⟨⟨_, rfl⟩, _, rfl⟩
  exact ⟨h, h₁ .shared, hchain 4 .shared⟩

end Expr

end StackTypes
