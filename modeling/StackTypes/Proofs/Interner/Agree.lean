/-
Runs from two states of the interner. A computation that asks an interner for types sees what was
registered before only in the places of the composites it is given. So two runs are compared without
places: they agree when, from any two states, they ask for the same sequences in the same order and
their results are related. Agreement is kept by running one computation after another, as long as the
second does the same for related results of the first.
-/
import StackTypes.Proofs.Interner
import Mathlib.Data.List.Forall2

namespace StackTypes.Interner

variable {α β γ δ : Type}

/-- From any two states `x` and `y` ask for the same sequences, and give related results. -/
def Agree (R : α → β → Prop) (x : StateM Interner α) (y : StateM Interner β) : Prop :=
  ∀ it it', R (x.run it).1 (y.run it').1 ∧
    ∃ calls, (x.run it).2 = it.after calls ∧ (y.run it').2 = it'.after calls

/-- Computations that ask for nothing agree when their results are related. -/
theorem Agree.pure {R : α → β → Prop} {a : α} {b : β} (h : R a b) :
    Agree R (Pure.pure a) (Pure.pure b) :=
  fun _ _ => ⟨h, [], rfl, rfl⟩

/-- Agreement goes through a sequence, if the second parts agree on related results of the first. -/
theorem Agree.bind {R : α → β → Prop} {S : γ → δ → Prop} {x : StateM Interner α}
    {y : StateM Interner β} {k : α → StateM Interner γ} {l : β → StateM Interner δ}
    (hx : Agree R x y) (hk : ∀ a b, R a b → Agree S (k a) (l b)) : Agree S (x >>= k) (y >>= l) := by
  intro it it'
  obtain ⟨hR, calls₁, hx₁, hy₁⟩ := hx it it'
  obtain ⟨hS, calls₂, hx₂, hy₂⟩ := hk _ _ hR (x.run it).2 (y.run it').2
  refine ⟨hS, calls₁ ++ calls₂, ?_, ?_⟩
  · rw [after_append, ← hx₁]
    exact hx₂
  · rw [after_append, ← hy₁]
    exact hy₂

/-- Agreement goes through lists whose elements are related one by one. -/
theorem Agree.mapM {R : α → β → Prop} {f : α → StateM Interner γ} {g : β → StateM Interner γ}
    (h : ∀ a b, R a b → Agree Eq (f a) (g b)) {as : List α} {bs : List β} (hs : List.Forall₂ R as bs) :
    Agree Eq (as.mapM f) (bs.mapM g) := by
  induction hs with
  | nil => exact Agree.pure rfl
  | cons hab _ ih =>
    rw [List.mapM_cons, List.mapM_cons]
    refine (h _ _ hab).bind ?_
    rintro c _ rfl
    refine ih.bind ?_
    rintro cs _ rfl
    exact Agree.pure rfl

/-! ## Computations that can fail -/

/-- A computation that asks for types and may fail; what it has registered stays. -/
abbrev Asking := OptionT (StateM Interner)

/-- A sequence stops where its first part fails, with what this has registered. -/
theorem Asking.bind_apply (x : Asking α) (k : α → Asking β) (it : Interner) :
    (x >>= k) it =
      match x it with
      | (none, it) => (none, it)
      | (some a, it) => k a it := by
  show (x >>= k).run.run it = _
  rw [OptionT.run_bind, Option.elimM, StateT.run_bind]
  show (match x it with | (o, it) => (o.elim (pure none) fun a => (k a).run).run it) = _
  rcases x it with ⟨_ | a, it'⟩ <;> rfl

/-- The runs agree on whether there is a result, and results are related. -/
def AgreeOption (R : α → β → Prop) (x : Asking α) (y : Asking β) : Prop :=
  Agree (Option.Rel R) x.run y.run

theorem AgreeOption.pure {R : α → β → Prop} {a : α} {b : β} (h : R a b) :
    AgreeOption R (Pure.pure a) (Pure.pure b) :=
  Agree.pure (.some h)

/-- Agreement goes through a sequence that can fail in either part. -/
theorem AgreeOption.bind {R : α → β → Prop} {S : γ → δ → Prop} {x : Asking α} {y : Asking β}
    {k : α → Asking γ} {l : β → Asking δ} (hx : AgreeOption R x y)
    (hk : ∀ a b, R a b → AgreeOption S (k a) (l b)) : AgreeOption S (x >>= k) (y >>= l) := by
  unfold AgreeOption
  rw [OptionT.run_bind, OptionT.run_bind]
  refine Agree.bind hx ?_
  rintro _ _ (h | _)
  · exact hk _ _ h
  · exact Agree.pure .none

/-- Agreement goes through a list: both runs fail, or all their results are related. -/
theorem AgreeOption.mapM {R : α → β → Prop} {f : γ → Asking α} {g : γ → Asking β}
    (h : ∀ c, AgreeOption R (f c) (g c)) (cs : List γ) :
    AgreeOption (List.Forall₂ R) (cs.mapM f) (cs.mapM g) := by
  induction cs with
  | nil => exact AgreeOption.pure .nil
  | cons c cs ih =>
    rw [List.mapM_cons, List.mapM_cons]
    refine (h c).bind fun a b hab => ih.bind fun as bs hs => ?_
    exact AgreeOption.pure (.cons hab hs)

/-- Computations that agree and cannot fail agree among those that can. -/
theorem AgreeOption.lift {R : α → β → Prop} {x : StateM Interner α} {y : StateM Interner β}
    (h : Agree R x y) : AgreeOption R (liftM x) (liftM y) :=
  Agree.bind h fun _ _ hab => Agree.pure (.some hab)

end StackTypes.Interner
