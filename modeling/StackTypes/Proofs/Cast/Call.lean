/-
Casts of the arguments of a call. The arguments are cast from left to right, and the first that cannot
be cast ends it: a call has all results or none, and the error tells which argument it was. Casting an
argument registers its tuples, so that after a failure those of the arguments up to the failing one
are registered and nothing of the arguments behind it. What is registered in the meantime does not
change whether a later argument can be cast, nor to what.
-/
import StackTypes.Proofs.Expr.Tuple

namespace StackTypes

open Interner StackTypes.Expr

/-! ## One argument -/

namespace Expr

theorem castTo_state (e : Expr) (t : Ty) (it : Interner) :
    (e.castTo t it).2 = it.after e.tupleSequences :=
  e.type_state it

theorem sameOutcome_coerce (e : Expr) (t : Ty) {s s' : Ty} (hs : s.Alike s') :
    SameOutcome (fun _ _ => True) Eq (e.coerce s t) (e.coerce s' t) := by
  unfold coerce
  refine .ite (by rw [hs.sameMembers_eq (.refl t)]) (.ok rfl) ?_
  refine .ite Iff.rfl (.error trivial) ?_
  refine .ite Iff.rfl (.ok rfl) ?_
  refine .ite Iff.rfl (.ok rfl) ?_
  refine .ite Iff.rfl (.ok rfl) ?_
  refine .ite Iff.rfl (.ok rfl) ?_
  refine .ite ?_ (.ok rfl) ?_
  · rw [hs.eq_atomic_iff, hs.eq_atomic_iff]
  cases e.coerceLiteral? t with
  | some r => exact .ok rfl
  | none => exact .ite (by rw [(Ty.Alike.refl t).compatible_eq hs]) (.ok rfl) (.error trivial)

/-- What a cast does to an expression does not depend on what is registered. -/
theorem castTo_ok_congr {e : Expr} {t : Ty} {it : Interner} {c : Coercion}
    (h : (e.castTo t it).1 = .ok c) (it' : Interner) : (e.castTo t it').1 = .ok c := by
  have hsame := sameOutcome_coerce e t (sameMembers_type e it it')
  change e.coerce (e.type it).1 t = .ok c at h
  change e.coerce (e.type it').1 t = .ok c
  rw [h] at hsame
  generalize e.coerce (e.type it').1 t = outcome at hsame ⊢
  cases hsame with
  | ok hc => rw [hc]

end Expr

/-! ## All arguments -/

/-- An argument and a type that it can be cast to. -/
def Castable (p : Expr × Ty) : Prop :=
  ∃ c, ∀ it, (p.1.castTo p.2 it).1 = .ok c

/-- The argument with what the cast to the type does to it. -/
def IsCast (p : Expr × Ty) (r : Expr × Coercion) : Prop :=
  r.1 = p.1 ∧ ∀ it, (p.1.castTo p.2 it).1 = .ok r.2

/-- What becomes of the arguments from position `index` on: all are cast, or one is the first that
cannot be. -/
inductive CallOutcome (index : Nat) (it : Interner) (calls : List (Expr × Ty)) :
    Except CallError (List (Expr × Coercion)) × Interner → Prop
  | all {results : List (Expr × Coercion)} (h : List.Forall₂ IsCast calls results) :
      CallOutcome index it calls (.ok results, it.after (tupleSequencesAll (calls.map Prod.fst)))
  | first {before after : List (Expr × Ty)} {e : Expr} {t : Ty} {cause : CastError}
      (hcalls : calls = before ++ (e, t) :: after) (hbefore : ∀ p ∈ before, Castable p)
      (hcause : (e.castTo t (it.after (tupleSequencesAll (before.map Prod.fst)))).1 = .error cause) :
      CallOutcome index it calls (.error (.argument (index + before.length) cause),
        it.after (tupleSequencesAll (before.map Prod.fst ++ [e])))

/-- An argument that is cast in front of the others moves the rest by one place. -/
theorem CallOutcome.cons {index : Nat} {it : Interner} {p : Expr × Ty} {rest : List (Expr × Ty)}
    {c : Coercion} (hp : ∀ it, (p.1.castTo p.2 it).1 = .ok c)
    {outcome : Except CallError (List (Expr × Coercion))} {it' : Interner}
    (h : CallOutcome (index + 1) (it.after p.1.tupleSequences) rest (outcome, it')) :
    CallOutcome index it (p :: rest) (outcome.map ((p.1, c) :: ·), it') := by
  cases h with
  | all h =>
    rw [← after_append]
    exact .all (.cons ⟨rfl, hp⟩ h)
  | @first before after e t cause hcalls hbefore hcause =>
    have hindex : index + 1 + before.length = index + (p :: before).length := by
      rw [List.length_cons]
      omega
    rw [← after_append] at hcause ⊢
    rw [hindex]
    exact .first (by rw [hcalls]; rfl) (List.forall_mem_cons.2 ⟨⟨c, hp⟩, hbefore⟩) hcause

theorem callOutcome_castFrom (index : Nat) (calls : List (Expr × Ty)) (it : Interner) :
    CallOutcome index it calls (castFrom index calls it) := by
  induction calls generalizing index it with
  | nil => exact .all .nil
  | cons p rest ih =>
    obtain ⟨e, t⟩ := p
    have hstate := castTo_state e t it
    rw [castFrom]
    rcases hcast : e.castTo t it with ⟨cause | c, it₁⟩
    · rw [hcast] at hstate
      have hfirst : CallOutcome index it ((e, t) :: rest) (.error (.argument (index + 0) cause), _) :=
        .first (List.nil_append _).symm (by simp) (by rw [List.map_nil, tupleSequencesAll, after_nil, hcast])
      simpa [tupleSequencesAll, ← hstate] using hfirst
    · rw [hcast] at hstate
      have hrest := ih (index + 1) it₁
      rw [show it₁ = it.after e.tupleSequences from hstate] at hrest ⊢
      have hc : ∀ it, (e.castTo t it).1 = .ok c := castTo_ok_congr (by rw [hcast])
      have hcons := CallOutcome.cons (p := (e, t)) hc hrest
      dsimp only
      generalize castFrom (index + 1) rest (it.after e.tupleSequences) = tail at hcons ⊢
      obtain ⟨err | cs, it₂⟩ := tail <;> exact hcons

theorem castable_iff (p : Expr × Ty) (it : Interner) :
    Castable p ↔ ∃ c, (p.1.castTo p.2 it).1 = .ok c := by
  constructor
  · rintro ⟨c, hc⟩
    exact ⟨c, hc it⟩
  · rintro ⟨c, hc⟩
    exact ⟨c, castTo_ok_congr hc⟩

theorem castable_of_forall₂ {calls : List (Expr × Ty)} {results : List (Expr × Coercion)}
    (h : List.Forall₂ IsCast calls results) : ∀ p ∈ calls, Castable p := by
  induction h with
  | nil => simp
  | cons hpr _ ih => exact List.forall_mem_cons.2 ⟨⟨_, hpr.2⟩, ih⟩

theorem getElem?_of_forall₂ {calls : List (Expr × Ty)} {results : List (Expr × Coercion)}
    (h : List.Forall₂ IsCast calls results) {i : Nat} {p : Expr × Ty} (hp : calls[i]? = some p) :
    ∃ c, results[i]? = some (p.1, c) ∧ ∀ it, (p.1.castTo p.2 it).1 = .ok c := by
  induction h generalizing i with
  | nil => simp at hp
  | @cons q r _ _ hqr _ ih =>
    cases i with
    | zero =>
      obtain rfl : q = p := by simpa using hp
      exact ⟨r.2, by rw [← hqr.1]; rfl, hqr.2⟩
    | succ i => exact ih (by simpa using hp)

/-- An argument that cannot be cast, behind arguments that can. -/
structure FirstFailure (args : List Expr) (types : List Ty) (it : Interner) (before : List Expr)
    (e : Expr) (cause : CastError) : Prop where
  args_eq : ∃ after, args = before ++ e :: after
  cast_before : ∀ p ∈ before.zip types, ∀ it', ∃ c, (p.1.castTo p.2 it').1 = .ok c
  cause_eq : ∃ t, types[before.length]? = some t ∧
    (e.castTo t (it.after (tupleSequencesAll before))).1 = .error cause

theorem firstFailure_of_zip {args : List Expr} {types : List Ty} (hlen : args.length = types.length)
    {before after : List (Expr × Ty)} {e : Expr} {t : Ty} (hzip : args.zip types = before ++ (e, t) :: after)
    (hbefore : ∀ p ∈ before, Castable p) {it : Interner} {cause : CastError}
    (hcause : (e.castTo t (it.after (tupleSequencesAll (before.map Prod.fst)))).1 = .error cause) :
    FirstFailure args types it (before.map Prod.fst) e cause := by
  have hargs : (args.zip types).map Prod.fst = args := List.map_fst_zip hlen.le
  have htypes : (args.zip types).map Prod.snd = types := List.map_snd_zip hlen.ge
  rw [hzip, List.map_append, List.map_cons] at hargs htypes
  have hpairs : (before.map Prod.fst).zip types = before := by
    rw [← htypes, ← List.append_nil (before.map Prod.fst), List.zip_append (by simp), List.zip_map']
    simp
  refine ⟨⟨_, hargs.symm⟩, fun p hp it' => ?_, t, ?_, hcause⟩
  · rw [hpairs] at hp
    exact (castable_iff p it').1 (hbefore p hp)
  · rw [← htypes]
    simp

/-- A call is cast argument by argument, all of them or none. If there are as many arguments as types,
it has results exactly when every argument can be cast to the type at its place, and these are its
results; otherwise its error is that of the first argument that cannot be cast, with its place in
front, and the tuples of the arguments up to this one are registered. -/
theorem castAll_pointwise (args : List Expr) (types : List Ty) (it it' : Interner) :
    let outcome := castAll args types it
    (args.length ≠ types.length →
      ∃ err, outcome = (.error err, it) ∧ err.message = utf8 "expected " ++
        Numeral.ofNat types.length ++ utf8 " arguments, got " ++ Numeral.ofNat args.length) ∧
    (args.length = types.length →
      ((∃ results, outcome.1 = .ok results) ↔
        ∀ p ∈ args.zip types, ∃ c, (p.1.castTo p.2 it').1 = .ok c) ∧
      (∀ results, outcome.1 = .ok results →
        results.length = args.length ∧ outcome.2 = it.after (tupleSequencesAll args) ∧
        ∀ (i : Nat) (e : Expr) (t : Ty), args[i]? = some e → types[i]? = some t →
          ∃ c, results[i]? = some (e, c) ∧ (e.castTo t it').1 = .ok c) ∧
      ∀ err, outcome.1 = .error err →
        ∃ before e cause, FirstFailure args types it before e cause ∧
          err = .argument before.length cause ∧
          err.message =
            utf8 "argument " ++ Numeral.ofNat before.length ++ utf8 ": " ++ cause.message ∧
          outcome.2 = it.after (tupleSequencesAll (before ++ [e]))) := by
  intro outcome
  refine ⟨fun hlen => ⟨_, if_pos hlen, rfl⟩, fun hlen => ?_⟩
  have houtcome : outcome = castFrom 0 (args.zip types) it := if_neg (not_not.2 hlen)
  have hargs : (args.zip types).map Prod.fst = args := List.map_fst_zip hlen.le
  have h := callOutcome_castFrom 0 (args.zip types) it
  rw [← houtcome] at h
  clear_value outcome
  cases h with
  | @all results h =>
    refine ⟨⟨fun _ p hp => ?_, fun _ => ⟨results, rfl⟩⟩, ?_, ?_⟩
    · exact (castable_iff p it').1 (castable_of_forall₂ h p hp)
    · rintro _ ⟨⟩
      refine ⟨?_, by rw [hargs], fun i e t he ht => ?_⟩
      · rw [← h.length_eq, List.length_zip, ← hlen, Nat.min_self]
      · have hp : (args.zip types)[i]? = some (e, t) := List.getElem?_zip_eq_some.2 ⟨he, ht⟩
        obtain ⟨c, hc, hcast⟩ := getElem?_of_forall₂ h hp
        exact ⟨c, hc, hcast it'⟩
    · rintro _ ⟨⟩
  | @first before after e t cause hcalls hbefore hcause =>
    refine ⟨⟨?_, fun hall => ?_⟩, ?_, ?_⟩
    · rintro ⟨_, ⟨⟩⟩
    · -- the argument that failed would be castable
      have hmem : (e, t) ∈ args.zip types := by rw [hcalls]; simp
      obtain ⟨c, hc⟩ := (castable_iff (e, t) it').2 (hall _ hmem)
      rw [hc] at hcause
      cases hcause
    · rintro _ ⟨⟩
    · rintro _ ⟨⟩
      refine ⟨before.map Prod.fst, e, cause, firstFailure_of_zip hlen hcalls hbefore hcause, ?_, ?_, rfl⟩
      · rw [Nat.zero_add, List.length_map]
      · rw [Nat.zero_add, List.length_map]
        rfl

end StackTypes
