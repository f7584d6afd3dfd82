/-
Chains of casts. An expression is cast to one required type after the other, and a cast that fails
leaves it as it is. What a chain does not touch is the core of the expression, the value under all
its wrappers. The rules look at the outermost node only, so a constant can be written anew as long
as nothing is around it; the first cast that does anything to it settles the core for good.
-/
import StackTypes.Proofs.Cast

namespace StackTypes.Expr

/-! ## One cast of a chain -/

/-- The expression after a cast, and the shared interner; a cast that fails leaves the expression. -/
def castOn (e : Expr) (t : Ty) (it : Interner) : Expr × Interner :=
  match e.castTo t it with
  | (.error _, it) => (e, it)
  | (.ok c, it) => (c.apply e, it)

theorem castOn_eq (e : Expr) (t : Ty) (it : Interner) :
    (e.castOn t it).1 =
      match (e.castTo t it).1 with
      | .error _ => e
      | .ok c => c.apply e := by
  unfold castOn
  obtain ⟨outcome, it'⟩ := e.castTo t it
  cases outcome <;> rfl

/-- `r` is `e` wrapped as a value of the given type. A colour does not keep a component pointer. -/
inductive Wrapped : Expr → Ty → Expr → Prop
  | location (e : Expr) : Wrapped e (.atomic .location) (.location e)
  | widget (e : Expr) : Wrapped e (.atomic .widget) (.widget e)
  | color {e : Expr} (h : ∀ o, e ≠ .widget o) : Wrapped e (.atomic .color) (.color e)
  | recolor (o : Expr) : Wrapped (.widget o) (.atomic .color) (.color o)

theorem wrapped_colorOf (e : Expr) : Wrapped e (.atomic .color) e.colorOf := by
  unfold colorOf
  split
  · exact .recolor _
  · rename_i h; exact .color h

/-- A cast of a chain keeps the expression, wraps it, writes a constant anew, or reads anything but
a constant as another type. -/
theorem castOn_cases (e : Expr) (t : Ty) (it : Interner) :
    (e.castOn t it).1 = e ∨ Wrapped e t (e.castOn t it).1 ∨
      (∃ v, e = .int v ∧ Rewritten v t (e.castOn t it).1) ∨
      ((∀ v, e ≠ .int v) ∧ (e.castOn t it).1 = .cast t e) := by
  have h := castTo_coerced e t it
  rw [castOn_eq]
  generalize (e.castTo t it).1 = outcome at h
  cases h with
  | same | unresolved | unknown | stored | incompatible => exact .inl rfl
  | location _ ht => rw [ht]; exact .inr (.inl (.location e))
  | widget _ ht => rw [ht]; exact .inr (.inl (.widget e))
  | color _ ht => rw [ht]; exact .inr (.inl (wrapped_colorOf e))
  | literal _ hv hr => exact .inr (.inr (.inl ⟨_, hv, hr⟩))
  | reread _ hv => exact .inr (.inr (.inr ⟨hv, rfl⟩))

/-- A type other than `int` with the slots of one. -/
def IntShaped (t : Ty) : Prop :=
  t ≠ .atomic .int ∧ t.footprint = Atomic.int.footprint

/-- A constant does not stay as it is when such a type is required. -/
theorem castOn_int_ne (v : Int32) {t : Ty} (ht : IntShaped t) (it : Interner) :
    ((Expr.int v).castOn t it).1 ≠ .int v := by
  obtain ⟨hi, hf⟩ := ht
  have htype : ((Expr.int v).type it).1 = .atomic .int := by simp [type]
  have h := castTo_coerced (.int v) t it
  rw [castOn_eq]
  rw [htype] at h
  generalize ((Expr.int v).castTo t it).1 = outcome at h
  cases h with
  | same h => cases t <;> simp_all [Ty.sameMembers]
  | unresolved _ he => simp [isPlaceholder] at he
  | unknown _ hu => rw [hu] at hf; exact absurd hf (by decide)
  | location | widget => simp [Coercion.apply]
  | color => simp [Coercion.apply, colorOf]
  | stored _ hs => simp at hs
  | literal _ _ hr => cases hr <;> simp [Coercion.apply]
  | reread _ hv => exact absurd rfl (hv v)
  | incompatible _ _ hc => rw [Ty.compatible_of_footprint_eq hf] at hc; cases hc

/-! ## The core -/

/-- The value under all wrappers and casts around it. -/
def core : Expr → Expr
  | .location e | .widget e | .color e | .cast _ e => core e
  | e => e

theorem core_int (v : Int32) : (Expr.int v).core = .int v := by
  simp [core]

theorem Wrapped.core_eq {e r : Expr} {t : Ty} (h : Wrapped e t r) : r.core = e.core := by
  cases h <;> simp [core]

theorem Wrapped.ne_int {e r : Expr} {t : Ty} (h : Wrapped e t r) (v : Int32) : r ≠ .int v := by
  cases h <;> simp

theorem Rewritten.core_eq {v : Int32} {t : Ty} {r : Expr} (h : Rewritten v t r) : r.core = r := by
  cases h <;> simp [core]

theorem Rewritten.ne_int {v : Int32} {t : Ty} {r : Expr} (h : Rewritten v t r) (u : Int32) :
    r ≠ .int u := by
  cases h <;> simp

/-- A cast keeps the core of anything but a bare constant, and does not lay one bare. -/
theorem core_castOn {e : Expr} (he : ∀ v, e ≠ .int v) (t : Ty) (it : Interner) :
    (e.castOn t it).1.core = e.core ∧ ∀ v, (e.castOn t it).1 ≠ .int v := by
  rcases castOn_cases e t it with h | h | ⟨v, hv, -⟩ | ⟨-, h⟩
  · rw [h]; exact ⟨rfl, he⟩
  · exact ⟨h.core_eq, h.ne_int⟩
  · exact absurd hv (he v)
  · rw [h]; exact ⟨by rw [core], by simp⟩

/-! ## Whole chains -/

/-- The expression after casts to all the types in order, and the shared interner. -/
def castChain (e : Expr) : List Ty → Interner → Expr × Interner
  | [], it => (e, it)
  | t :: ts, it => castChain (e.castOn t it).1 ts (e.castOn t it).2

theorem core_castChain {e : Expr} (he : ∀ v, e ≠ .int v) (ts : List Ty) (it : Interner) :
    (e.castChain ts it).1.core = e.core := by
  induction ts generalizing e it with
  | nil => rfl
  | cons t ts ih =>
    obtain ⟨hcore, hne⟩ := core_castOn he t it
    rw [castChain, ih hne, hcore]

/-- The expression after the first `n` casts of a chain. -/
def current (e : Expr) (ts : List Ty) (it : Interner) (n : Nat) : Expr :=
  (e.castChain (ts.take n) it).1

theorem current_zero (e : Expr) (ts : List Ty) (it : Interner) : e.current ts it 0 = e := rfl

theorem current_succ (e : Expr) (t : Ty) (ts : List Ty) (it : Interner) (n : Nat) :
    e.current (t :: ts) it (n + 1) = (e.castOn t it).1.current ts (e.castOn t it).2 n := rfl

theorem core_current {e : Expr} (he : ∀ v, e ≠ .int v) (ts : List Ty) (it : Interner) (n : Nat) :
    (e.current ts it n).core = e.core :=
  core_castChain he (ts.take n) it

/-- What becomes of a constant in a chain: it is left alone if no type asks for more, or left alone
up to some cast `k` that wraps it or writes it anew. What is the core after that cast is the core
from then on. -/
inductive Settled (v : Int32) (ts : List Ty) (stage : Nat → Expr) : Prop
  | untouched (h : ∀ n, stage n = .int v) (hts : ∀ t ∈ ts, ¬ IntShaped t)
  | wrapped (k : Nat) (t : Ty) (ht : ts[k]? = some t) (before : ∀ n ≤ k, stage n = .int v)
      (step : Wrapped (.int v) t (stage (k + 1))) (after : ∀ n, (stage n).core = .int v)
  | rewritten (k : Nat) (t : Ty) (ht : ts[k]? = some t) (before : ∀ n ≤ k, stage n = .int v)
      (step : Rewritten v t (stage (k + 1)))
      (after : ∀ n, k < n → (stage n).core = stage (k + 1))

/-- A cast that keeps the constant in front of a chain only moves the step that settles it. -/
theorem Settled.cons {v : Int32} {t : Ty} {ts : List Ty} {stage later : Nat → Expr}
    (h : Settled v ts later) (h₀ : stage 0 = .int v) (hs : ∀ n, stage (n + 1) = later n)
    (ht : ¬ IntShaped t) : Settled v (t :: ts) stage := by
  have hb : ∀ k, (∀ n ≤ k, later n = .int v) → ∀ n ≤ k + 1, stage n = .int v := by
    intro k before n hn
    cases n with
    | zero => exact h₀
    | succ n => rw [hs]; exact before n (by omega)
  cases h with
  | untouched h hts =>
    refine .untouched (fun n => ?_) (List.forall_mem_cons.2 ⟨ht, hts⟩)
    cases n with
    | zero => exact h₀
    | succ n => rw [hs]; exact h n
  | wrapped k u hu before step after =>
    refine .wrapped (k + 1) u hu (hb k before) (by rw [hs]; exact step) fun n => ?_
    cases n with
    | zero => rw [h₀, core_int]
    | succ n => rw [hs]; exact after n
  | rewritten k u hu before step after =>
    refine .rewritten (k + 1) u hu (hb k before) (by rw [hs]; exact step) fun n hn => ?_
    cases n with
    | zero => omega
    | succ n => rw [hs, hs]; exact after n (by omega)

theorem settled_int (v : Int32) (ts : List Ty) (it : Interner) :
    Settled v ts ((Expr.int v).current ts it) := by
  induction ts generalizing it with
  | nil => exact .untouched (fun n => by rw [current, List.take_nil]; rfl) (by simp)
  | cons t ts ih =>
    have before : ∀ n ≤ 0, (Expr.int v).current (t :: ts) it n = .int v := by
      intro n hn
      rw [Nat.le_zero.1 hn, current_zero]
    rcases castOn_cases (.int v) t it with h | h | ⟨u, hu, h⟩ | ⟨h, -⟩
    · -- nothing happens yet, and the rest of the chain decides
      have ht : ¬ IntShaped t := fun ht => castOn_int_ne v ht it h
      refine (ih ((Expr.int v).castOn t it).2).cons rfl (fun n => ?_) ht
      rw [current_succ, h]
    · refine .wrapped 0 t rfl before h fun n => ?_
      cases n with
      | zero => rw [current_zero, core_int]
      | succ n => rw [current_succ, core_current h.ne_int, h.core_eq, core_int]
    · cases hu
      refine .rewritten 0 t rfl before h fun n hn => ?_
      cases n with
      | zero => omega
      | succ n =>
        rw [current_succ, core_current h.ne_int, h.core_eq]
        rfl
    · exact absurd rfl (h v)

/-- No chain of casts loses or changes the value under the wrappers. Only a bare constant can be
written anew, once, by the first cast that does anything to it. -/
theorem chain_keeps_core (e : Expr) (ts : List Ty) (it : Interner) :
    ((∀ v, e ≠ .int v) → ∀ n, (e.current ts it n).core = e.core) ∧
      ∀ v, e = .int v → Settled v ts (e.current ts it) := by
  constructor
  · intro he n
    exact core_current he ts it n
  · rintro v rfl
    exact settled_int v ts it

end StackTypes.Expr
