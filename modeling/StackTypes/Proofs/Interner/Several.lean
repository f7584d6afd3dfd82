/-
Several interners side by side: the shared one, which types of values and descriptors go through, and
private ones. A query to a private interner may touch two of them, since the joint type of values is
registered there and the types of the values are asked of the shared one. Everything else stays with the
interner that it is asked of. So what a run makes of a private interner depends only on the queries to it,
and what it makes of the shared one only on the types and descriptors that are asked for.
-/
import StackTypes.Proofs.Cast.Call
import StackTypes.Proofs.Descriptor.Boundary
import Mathlib.Logic.Function.Basic

namespace StackTypes

open Interner

/-- The type of a descriptor belongs to the interner that read it. -/
theorem Descriptor.holds_parse {d : Bytes} {it : Interner} {t : Ty}
    (h : (Descriptor.parse d it).1 = some t) : (Descriptor.parse d it).2.Holds t := by
  have hreads := Descriptor.reads_parse d it
  rw [h] at hreads
  generalize (Descriptor.parse d it).2 = it' at hreads ⊢
  cases hreads with
  | name => exact .atomic _
  | group => exact holds_of _ _

/-- The interners of a process, each under its home. -/
abbrev Interners := Home → Interner

namespace Interners

/-- No interner has anything registered yet. -/
def start : Interners :=
  Interner.empty

/-! ## Queries -/

/-- What interners are asked for. All but the first two forms go to the shared interner. -/
inductive Query where
  /-- The type of a sequence. -/
  | of (home : Home) (s : List Atomic)
  /-- The joint type of values. -/
  | jointType (home : Home) (es : List Expr)
  /-- The type of a value. -/
  | type (e : Expr)
  /-- A cast. -/
  | castTo (e : Expr) (required : Ty)
  /-- The casts of a call. -/
  | castAll (es : List Expr) (types : List Ty)
  /-- The type that a descriptor stands for. -/
  | parse (d : Bytes)
deriving Repr

namespace Query

/-- The interner that is asked. -/
def home : Query → Home
  | .of home _ | .jointType home _ => home
  | _ => .shared

/-- The interners after a query. -/
def perform (w : Interners) : Query → Interners
  | .of home s => Function.update w home ((w home).of s).2
  | .jointType .shared es => Function.update w .shared (Expr.jointType es (w .shared)).2
  | .jointType (.own n) es =>
    -- the types of the values are asked of the shared interner, the joint type of the private one
    let (_, own, shared) := Expr.jointTypeIn es (w (.own n)) (w .shared)
    Function.update (Function.update w .shared shared) (.own n) own
  | .type e => Function.update w .shared (e.type (w .shared)).2
  | .castTo e t => Function.update w .shared (e.castTo t (w .shared)).2
  | .castAll es ts => Function.update w .shared (StackTypes.castAll es ts (w .shared)).2
  | .parse d => Function.update w .shared (Descriptor.parse d (w .shared)).2

/-- The sequences that a query asks of a private interner. -/
def callsOf (n : Nat) : Query → List (List Atomic)
  | .of (.own m) s => if m = n then [s] else []
  | .jointType (.own m) es => if m = n then [Expr.leavesAll es] else []
  | _ => []

/-- The queries to the shared interner that a query comes to. -/
def sharedPart : Query → List Query
  | .of (.own _) _ => []
  | .jointType (.own _) es => es.map .type
  | q => [q]

end Query

/-- The interners after queries, one after the other. -/
def after (w : Interners) (qs : List Query) : Interners :=
  qs.foldl Query.perform w

@[simp] theorem after_nil (w : Interners) : w.after [] = w := rfl

@[simp] theorem after_cons (w : Interners) (q : Query) (qs : List Query) :
    w.after (q :: qs) = Interners.after (q.perform w) qs := rfl

theorem after_append (w : Interners) (qs qs' : List Query) :
    w.after (qs ++ qs') = Interners.after (w.after qs) qs' := List.foldl_append

/-! ## Joint types -/

/-- The joint type of values is that of all their leaves, asked for after the tuples among them. -/
theorem jointType_eq (es : List Expr) (it : Interner) :
    Expr.jointType es it = (it.after (Expr.tupleSequencesAll es)).of (Expr.leavesAll es) := by
  unfold Expr.jointType
  rw [Expr.memberTypes_leaves]

theorem jointTypeIn_eq (es : List Expr) (own shared : Interner) :
    Expr.jointTypeIn es own shared =
      ((own.of (Expr.leavesAll es)).1, (own.of (Expr.leavesAll es)).2,
        shared.after (Expr.tupleSequencesAll es)) := by
  unfold Expr.jointTypeIn
  rw [Expr.memberTypes_leaves]

/-- Whatever is registered, the types of values have the same members. -/
theorem flatMap_flatten_type (es : List Expr) (it : Interner) :
    (es.flatMap fun e => (e.type it).1.flatten) = Expr.leavesAll es := by
  induction es with
  | nil => rfl
  | cons e es ih => rw [List.flatMap_cons, ih, Expr.flatten_type, Expr.leavesAll]

theorem after_types (w : Interners) (es : List Expr) :
    w.after (es.map .type) .shared = (w .shared).after (Expr.tupleSequencesAll es) := by
  induction es generalizing w with
  | nil => rfl
  | cons e es ih =>
    rw [List.map_cons, after_cons, ih, Expr.tupleSequencesAll, Interner.after_append, Query.perform,
      Function.update_self, Expr.type_state]

/-! ## One query -/

/-- A query asks a private interner for the sequences that it has for it, and nothing else happens to
that interner. -/
theorem perform_own (w : Interners) (q : Query) (n : Nat) :
    q.perform w (.own n) = (w (.own n)).after (q.callsOf n) := by
  have hne : Home.own n ≠ .shared := by simp
  have hother : ∀ it, Function.update w .shared it (.own n) = w (.own n) := by
    intro it
    exact Function.update_of_ne hne it w
  cases q with
  | of home s | jointType home es =>
    cases home with
    | shared => exact hother _
    | own m =>
      by_cases h : m = n
      · subst h
        simp [Query.perform, Query.callsOf, jointTypeIn_eq]
      · -- another private interner is asked
        simp [Query.perform, Query.callsOf, Ne.symm h, h]
  | type | castTo | castAll | parse => exact hother _

/-- What a query does to the shared interner is up to the queries to it that it comes to, and to nothing
but the shared interner. -/
theorem perform_shared {w w' : Interners} (h : w .shared = w' .shared) (q : Query) :
    q.perform w .shared = w'.after q.sharedPart .shared := by
  cases q with
  | of home s | jointType home es =>
    cases home with
    | shared => simp [Query.perform, Query.sharedPart, h]
    | own m => simp [Query.perform, Query.sharedPart, after_types, jointTypeIn_eq, h]
  | type | castTo | castAll | parse => simp [Query.perform, Query.sharedPart, h]

theorem home_of_mem_sharedPart {q q' : Query} (h : q' ∈ q.sharedPart) : q'.home = .shared := by
  have hself : q.sharedPart = [q] → q.home = .shared → q'.home = .shared := by
    intro hpart hhome
    rw [hpart] at h
    obtain rfl := List.mem_singleton.1 h
    exact hhome
  cases q with
  | of home s =>
    cases home with
    | shared => exact hself rfl rfl
    | own m => cases h
  | jointType home es =>
    cases home with
    | shared => exact hself rfl rfl
    | own m =>
      obtain ⟨e, -, rfl⟩ := List.mem_map.1 h
      rfl
  | type | castTo | castAll | parse => exact hself rfl rfl

theorem perform_own_of_ne (w : Interners) {q : Query} {n : Nat} (h : q.home ≠ .own n) :
    q.perform w (.own n) = w (.own n) := by
  have hcalls : q.callsOf n = [] := by
    cases q with
    | of home s | jointType home es =>
      cases home with
      | shared => rfl
      | own m =>
        have hmn : m ≠ n := fun hmn => h (congrArg Home.own hmn)
        exact if_neg hmn
    | type | castTo | castAll | parse => rfl
  rw [perform_own, hcalls]
  rfl

/-! ## Runs of queries -/

/-- A private interner comes to the state that the sequences asked of it lead to. -/
theorem after_own (w : Interners) (qs : List Query) (n : Nat) :
    w.after qs (.own n) = (w (.own n)).after (qs.flatMap (Query.callsOf n)) := by
  induction qs generalizing w with
  | nil => rfl
  | cons q qs ih => rw [after_cons, ih, perform_own, List.flatMap_cons, Interner.after_append]

/-- The shared interner comes to the state that the shared parts of the queries lead to, whatever the
private ones hold. -/
theorem after_shared {w w' : Interners} (h : w .shared = w' .shared) (qs : List Query) :
    w.after qs .shared = w'.after (qs.flatMap Query.sharedPart) .shared := by
  induction qs generalizing w w' with
  | nil => exact h
  | cons q qs ih =>
    rw [after_cons, List.flatMap_cons, after_append]
    exact ih (perform_shared h q)

/-- A sequence asked of a private interner changes no other. The joint type of values asked of it changes
the shared one as asking for the type of each value in order does, which asks for their tuples, inner
ones first; it registers at most the joint sequence of their members, touches no other interner, and
gives a type with the members that the shared interner would give. What is asked of the shared
interner changes no private one. So after a run of queries a private interner has been asked for
the sequences of the queries to it, and the shared one is as if there were no private interners. -/
theorem private_interners_isolated (w : Interners) (n : Nat) :
    (∀ s, ∀ home ≠ .own n, (Query.of (.own n) s).perform w home = w home) ∧
    (∀ es : List Expr,
      let w' := (Query.jointType (.own n) es).perform w
      let joint := es.flatMap fun e => (e.type (w .shared)).1.flatten
      w' .shared = w.after (es.map .type) .shared ∧
      w' .shared = (w .shared).after (Expr.tupleSequencesAll es) ∧
      (w' (.own n)).rows = (w (.own n)).rows ++
        (if 2 ≤ joint.length ∧ joint ∉ (w (.own n)).rows then [joint] else []) ∧
      (∀ m ≠ n, w' (.own m) = w (.own m)) ∧
      ∀ it, (Expr.jointTypeIn es (w (.own n)) (w .shared)).1.flatten =
        (Expr.jointType es it).1.flatten) ∧
    (∀ q : Query, q.home = .shared → q.perform w (.own n) = w (.own n)) ∧
    ∀ qs : List Query,
      w.after qs (.own n) = (w (.own n)).after (qs.flatMap (Query.callsOf n)) ∧
      w.after qs .shared = w.after (qs.flatMap Query.sharedPart) .shared ∧
      ∀ q ∈ qs.flatMap Query.sharedPart, q.home = .shared := by
  refine ⟨?_, ?_, ?_, ?_⟩
  · intro s home hne
    exact Function.update_of_ne hne _ w
  · intro es w' joint
    have hjoint : joint = Expr.leavesAll es := flatMap_flatten_type es (w .shared)
    refine ⟨?_, ?_, ?_, ?_, ?_⟩
    · exact perform_shared rfl _
    · rw [← after_types]
      exact perform_shared rfl _
    · have hown : w' (.own n) = ((w (.own n)).of joint).2 := by
        rw [hjoint]
        exact (perform_own w _ n).trans (by simp [Query.callsOf])
      rw [hown, rows_of]
      split <;> simp
    · intro m hm
      refine perform_own_of_ne w fun h => hm ?_
      cases h
      rfl
    · intro it
      rw [jointTypeIn_eq, jointType_eq, flatten_of, flatten_of]
  · intro q hq
    refine perform_own_of_ne w ?_
    rw [hq]
    simp
  · intro qs
    refine ⟨after_own w qs n, after_shared rfl qs, ?_⟩
    intro q hq
    obtain ⟨q', -, hq'⟩ := List.mem_flatMap.1 hq
    exact home_of_mem_sharedPart hq'

/-! ## Types given in a run -/

/-- The type that an interner gives in answer to a query. The type of a value may be one that the value
carries, and is not counted. -/
def Query.gives? (w : Interners) : Query → Option Ty
  | .of home s => some ((w home).of s).1
  | .jointType .shared es => some (Expr.jointType es (w .shared)).1
  | .jointType (.own n) es => some (Expr.jointTypeIn es (w (.own n)) (w .shared)).1
  | .parse d => (Descriptor.parse d (w .shared)).1
  | .type _ | .castTo _ _ | .castAll _ _ => none

/-- The types given in a run, each with the interner that gives it. -/
def given : Interners → List Query → List (Home × Ty)
  | _, [] => []
  | w, q :: qs => ((q.gives? w).map (q.home, ·)).toList ++ given (q.perform w) qs

/-- A type that an interner has given in a run from the start. -/
structure Given (qs : List Query) where
  home : Home
  type : Ty
  mem : (home, type) ∈ start.given qs

theorem exists_calls_perform (w : Interners) (q : Query) (home : Home) :
    ∃ calls, q.perform w home = (w home).after calls := by
  cases home with
  | own n => exact ⟨q.callsOf n, perform_own w q n⟩
  | shared =>
    cases q with
    | of home s =>
      cases home with
      | shared => exact ⟨[s], by simp [Query.perform]⟩
      | own n => exact ⟨[], by simp [Query.perform]⟩
    | jointType home es =>
      cases home with
      | shared =>
        refine ⟨Expr.tupleSequencesAll es ++ [Expr.leavesAll es], ?_⟩
        simp [Query.perform, jointType_eq]
      | own n => exact ⟨Expr.tupleSequencesAll es, by simp [Query.perform, jointTypeIn_eq]⟩
    | type e => exact ⟨e.tupleSequences, by simp [Query.perform, Expr.type_state]⟩
    | castTo e t => exact ⟨e.tupleSequences, by simp [Query.perform, Expr.castTo_state]⟩
    | castAll es ts =>
      have htypes : List.Forall₂ Ty.Alike ts ts := List.forall₂_same.2 fun t _ => .refl t
      obtain ⟨-, calls, hcalls, -⟩ := agree_castAll (Expr.alike_all es) htypes (w .shared) (w .shared)
      exact ⟨calls, (Function.update_self _ _ w).trans hcalls⟩
    | parse d =>
      obtain ⟨-, calls, hcalls, -⟩ := Descriptor.agree_parse d (w .shared) (w .shared)
      exact ⟨calls, (Function.update_self _ _ w).trans hcalls⟩

/-- Queries ask each interner for some sequences, and do nothing else to it. -/
theorem exists_calls_after (w : Interners) (qs : List Query) (home : Home) :
    ∃ calls, w.after qs home = (w home).after calls := by
  induction qs generalizing w with
  | nil => exact ⟨[], rfl⟩
  | cons q qs ih =>
    obtain ⟨calls, hcalls⟩ := exists_calls_perform w q home
    obtain ⟨more, hmore⟩ := ih (q.perform w)
    refine ⟨calls ++ more, ?_⟩
    rw [after_cons, hmore, hcalls, Interner.after_append]

theorem after_extends (w : Interners) (qs : List Query) (home : Home) :
    Extends (w home) (w.after qs home) := by
  obtain ⟨calls, hcalls⟩ := exists_calls_after w qs home
  rw [hcalls]
  exact Interner.after_extends _ calls

/-- What an interner gives belongs to it afterwards. -/
theorem holds_gives? {w : Interners} {q : Query} {t : Ty} (h : q.gives? w = some t) :
    (q.perform w q.home).Holds t := by
  cases q with
  | of home s =>
    cases h
    simpa [Query.perform, Query.home] using holds_of (w home) s
  | jointType home es =>
    cases home with
    | shared =>
      cases h
      simpa [Query.perform, Query.home, jointType_eq] using holds_of _ (Expr.leavesAll es)
    | own n =>
      cases h
      simpa [Query.perform, Query.home, jointTypeIn_eq] using holds_of (w (.own n)) (Expr.leavesAll es)
  | parse d => simpa [Query.perform, Query.home] using Descriptor.holds_parse h
  | type | castTo | castAll => cases h

/-- A type given in a run belongs at its end to the interner that gave it. -/
theorem holds_given {w : Interners} {qs : List Query} {home : Home} {t : Ty}
    (h : (home, t) ∈ w.given qs) : (w.after qs home).Holds t := by
  induction qs generalizing w with
  | nil => cases h
  | cons q qs ih =>
    rcases List.mem_append.1 h with h | h
    · obtain ⟨t', ht', heq⟩ := Option.map_eq_some_iff.1 (Option.mem_toList.1 h)
      cases heq
      exact (holds_gives? ht').extends (after_extends (q.perform w) qs q.home)
    · exact ih h

theorem Given.holds {qs : List Query} (g : Given qs) : (start.after qs g.home).Holds g.type :=
  holds_given g.mem

/-- Runs from the start lead every interner to a state it can come to. -/
theorem reachable_after_start (qs : List Query) (home : Home) : (start.after qs home).Reachable := by
  obtain ⟨calls, hcalls⟩ := exists_calls_after start qs home
  rw [hcalls]
  exact (Reachable.empty home).after calls

theorem home_after_start (qs : List Query) (home : Home) : (start.after qs home).home = home :=
  (after_extends start qs home).home

end Interners

end StackTypes
