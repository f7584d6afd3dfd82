/-
Types of tuples. How the values of a tuple are grouped into inner tuples does not matter for its
type: the type has the leaves of the tuple as its members, so that among the types of one interner it
is the type of these leaves. What grouping changes is what is registered on the way, one sequence for
each tuple, those of inner tuples first.
-/
import StackTypes.Proofs.Cast.Result

namespace StackTypes

open Interner

/-! ## Slots of several members -/

namespace Footprint

theorem sum_cons (f : Footprint) (fs : List Footprint) : sum (f :: fs) = f.add (sum fs) := by
  simp only [sum_eq, List.map_cons, List.sum_cons, add]

theorem sum_append (fs gs : List Footprint) : sum (fs ++ gs) = (sum fs).add (sum gs) := by
  simp only [sum_eq, List.map_append, List.sum_append, add]

end Footprint

theorem Ty.footprint_eq_sum (t : Ty) :
    t.footprint = Footprint.sum (t.flatten.map Atomic.footprint) := by
  cases t with
  | atomic a => simp [footprint, flatten, Footprint.sum_eq]
  | composite c => rfl

theorem Interner.footprint_of (it : Interner) (s : List Atomic) :
    (it.of s).1.footprint = Footprint.sum (s.map Atomic.footprint) := by
  rw [Ty.footprint_eq_sum, flatten_of]
  cases s with
  | nil => rfl
  | cons a s => rfl

namespace Expr

/-! ## Leaves -/

mutual

/-- The atomic types of the values in an expression, from left to right. A tuple has those of its
elements; one that has none is a value of type `void`. -/
def leaves : Expr → List Atomic
  | .tuple es => canonical (leavesAll es)
  | e => (e.type .shared).1.flatten

/-- The atomic types of the values in several expressions, from left to right. -/
def leavesAll : List Expr → List Atomic
  | [] => []
  | e :: es => e.leaves ++ leavesAll es

end

mutual

/-- The sequences of the tuples in an expression, those of the tuples inside a tuple before its own.
What is under a wrapper or a cast has no part in the type. -/
def tupleSequences : Expr → List (List Atomic)
  | .tuple es => tupleSequencesAll es ++ [leavesAll es]
  | _ => []

/-- The sequences of the tuples in several expressions, in the order they are asked for. -/
def tupleSequencesAll : List Expr → List (List Atomic)
  | [] => []
  | e :: es => e.tupleSequences ++ tupleSequencesAll es

end

mutual

/-- The type of an expression has its leaves as members, and asking for it asks for its tuples. -/
theorem type_leaves : (e : Expr) → (it : Interner) →
    (e.type it).1.flatten = e.leaves ∧ (e.type it).2 = it.after e.tupleSequences
  | .int _, _ | .nullable _, _ | .long _, _ | .string _, _ | .boolean _, _ | .char _, _ | .var _ _, _
  | .placeholder _, _ | .cast _ _, _ | .location _, _ | .widget _, _ | .color _, _ => by
    simp [type, leaves, tupleSequences]
  | .tuple es, it => by
    simp only [type, leaves, tupleSequences, memberTypes_leaves es it, flatten_of, after_append,
      after_cons, after_nil, and_self]

theorem memberTypes_leaves : (es : List Expr) → (it : Interner) →
    memberTypes es it = (leavesAll es, it.after (tupleSequencesAll es))
  | [], _ => rfl
  | e :: es, it => by
    obtain ⟨hflatten, hafter⟩ := type_leaves e it
    simp only [memberTypes, hflatten, hafter, memberTypes_leaves es, leavesAll, tupleSequencesAll,
      after_append]

end

theorem flatten_type (e : Expr) (it : Interner) : (e.type it).1.flatten = e.leaves :=
  (type_leaves e it).1

theorem type_state (e : Expr) (it : Interner) : (e.type it).2 = it.after e.tupleSequences :=
  (type_leaves e it).2

/-! ## Among the types of one interner -/

section Grouping

variable {it : Interner} {e f : Expr}

theorem reachable_type (hit : it.Reachable) (e : Expr) : (e.type it).2.Reachable := by
  rw [type_state]
  exact hit.after _

/-- Once an expression has its type, its leaves are given that type and nothing is registered. -/
theorem of_leaves (hit : it.Reachable) (he : ∀ u, e.carried? = some u → it.Holds u) :
    (e.type it).2.of e.leaves = e.type it := by
  rw [← flatten_type e it]
  exact (reachable_type hit e).of_flatten (holds_type he)

/-- Once a type is registered, an expression with its members is of that very type. -/
theorem type_eq_of_leaves (hit : it.Reachable) (he : ∀ u, e.carried? = some u → it.Holds u) {t : Ty}
    (ht : it.Holds t) (hleaves : t.flatten = e.leaves) : (e.type it).1 = t := by
  refine (reachable_type hit e).eq_of_flatten_eq (holds_type he) (ht.extends (type_extends e it)) ?_
  rw [flatten_type, hleaves]

theorem canonical_leaves (hit : it.Reachable) (he : ∀ u, e.carried? = some u → it.Holds u) :
    canonical e.leaves = e.leaves := by
  refine canonical_eq ?_
  rw [← flatten_type e it]
  exact (reachable_type hit e).flatten_ne_nil (holds_type he)

theorem footprint_tuple (es : List Expr) (it it' : Interner) :
    ((Expr.tuple es).type it).1.footprint =
      Footprint.sum (es.map fun e => (e.type it').1.footprint) := by
  have hleaves : ∀ es : List Expr, Footprint.sum ((leavesAll es).map Atomic.footprint) =
      Footprint.sum (es.map fun e => (e.type it').1.footprint) := by
    intro es
    induction es with
    | nil => rfl
    | cons e es ih =>
      rw [leavesAll, List.map_append, Footprint.sum_append, ih, List.map_cons, Footprint.sum_cons,
        Ty.footprint_eq_sum, flatten_type]
  rw [type, memberTypes_leaves]
  show (Interner.of _ (leavesAll es)).1.footprint = _
  rw [footprint_of, hleaves]

/-- In every state of the interner the type of an expression is the type of its leaves, whichever is
asked for first. So expressions are of the same type exactly when they have the same leaves, however
these are grouped; several values have the type of their tuple; and the slots of a tuple are those of
its elements together. A type that the expression carries with it is to be one of the interner's,
which asks nothing of a tuple. -/
theorem type_ignores_grouping (hit : it.Reachable) (he : ∀ u, e.carried? = some u → it.Holds u)
    (hf : ∀ u, f.carried? = some u → it.Holds u) (es : List Expr) :
    (e.type it).2.of e.leaves = e.type it ∧
    (e.type (it.of e.leaves).2).1 = (it.of e.leaves).1 ∧
    ((f.type (e.type it).2).1 = (e.type it).1 ↔ e.leaves = f.leaves) ∧
    jointType es it = (Expr.tuple es).type it ∧
    ∀ it', ((Expr.tuple es).type it).1.footprint =
      Footprint.sum (es.map fun e => (e.type it').1.footprint) := by
  refine ⟨of_leaves hit he, ?_, ⟨fun heq => ?_, fun heq => ?_⟩, ?_, footprint_tuple es it⟩
  · refine type_eq_of_leaves (hit.of _) (fun u hu => ?_) (holds_of it _) ?_
    · exact (he u hu).extends (of_extends it _)
    · rw [flatten_of, canonical_leaves hit he]
  · rw [← flatten_type e it, ← flatten_type f (e.type it).2, heq]
  · refine type_eq_of_leaves (reachable_type hit e) (fun u hu => ?_) (holds_type he) ?_
    · exact (hf u hu).extends (type_extends e it)
    · rw [flatten_type, heq]
  · rw [jointType, type]

/-- A variable of a composite type, and a tuple with the same leaves in an inner tuple. -/
theorem type_of_regrouped_pair :
    let it := (Interner.empty .shared).after [[.int, .string]]
    let t : Ty := .composite ⟨.shared, 0, [.int, .string]⟩
    let e : Expr := .var (utf8 "x") t
    let f : Expr := .tuple [.tuple [.int 7], .string (utf8 "s")]
    it.Reachable ∧ it.Holds t ∧ f.leaves = [.int, .string] ∧
      (e.type it).2.of e.leaves = e.type it ∧ (f.type (e.type it).2).1 = (e.type it).1 := by
  intro it t e f
  have hit : it.Reachable := (Reachable.empty .shared).after _
  have ht : it.Holds t := .composite (by decide)
  have he : ∀ u, e.carried? = some u → it.Holds u := by
    rintro u ⟨⟩
    exact ht
  have hf : ∀ u, f.carried? = some u → it.Holds u := by
    rintro u ⟨⟩
  obtain ⟨hof, -, hsame, -⟩ := type_ignores_grouping hit he hf []
  exact ⟨hit, ht, rfl, hof, hsame.2 rfl⟩

end Grouping

end Expr

end StackTypes
