/-
Requests whose types are given as descriptors, and what is answered to them. An answer shows
everything but the places of composites. It does not depend on what was registered before: from any
two states of the interner a request is answered in the same way, and asks for the same sequences, so
that afterwards the states differ in nothing but what was registered in them before.
-/
import StackTypes.Descriptor
import StackTypes.Proofs.Cast.Alike

namespace StackTypes

open Interner

/-! ## Reading descriptors -/

namespace Descriptor

theorem readMembers_cons (read : Bytes → Asking Ty) (p : Bytes) (parts : List Bytes) :
    readMembers read (p :: parts) = (do
      let t ← read (Blank.trim p)
      let s ← (readMembers read parts : Asking (List Atomic))
      return t.flatten ++ s : Asking (List Atomic)) := by
  funext it
  rw [readMembers, Asking.bind_apply]
  rcases read (Blank.trim p) it with ⟨_ | t, it₁⟩
  · rfl
  · dsimp only
    rw [Asking.bind_apply]
    rcases readMembers read parts it₁ with ⟨_ | s, it₂⟩ <;> rfl

/-- A group is read by asking for its members. -/
theorem parse_body {s b : Bytes} (hs : Atomic.ofName? s = none) (hb : body? s = some b) :
    parse s = (do
      let s ← (readMembers parse (splitMembers b) : Asking (List Atomic))
      liftM (ask s) : Asking Ty) := by
  funext it
  rw [parse_eq, hs, hb, Asking.bind_apply]
  dsimp only
  rcases readMembers parse (splitMembers b) it with ⟨_ | s, it₁⟩ <;> rfl

/-- Members are read in the same way from any two states, if each part is. -/
theorem agree_readMembers {read : Bytes → Asking Ty} {parts : List Bytes}
    (h : ∀ p ∈ parts, AgreeOption Ty.Alike (read (Blank.trim p)) (read (Blank.trim p))) :
    AgreeOption Eq (readMembers read parts) (readMembers read parts) := by
  induction parts with
  | nil => exact AgreeOption.pure rfl
  | cons p parts ih =>
    rw [readMembers_cons]
    refine (h p List.mem_cons_self).bind fun t u htu => ?_
    refine (ih fun q hq => h q (List.mem_cons_of_mem p hq)).bind ?_
    rintro s _ rfl
    exact AgreeOption.pure (by rw [Ty.flatten_eq_of_sameMembers htu])

/-- A descriptor is read in the same way from any two states: as alike types, or not at all. -/
theorem agree_parse (s : Bytes) : AgreeOption Ty.Alike (parse s) (parse s) := by
  cases hs : Atomic.ofName? s with
  | some a =>
    have hparse : parse s = (pure (.atomic a) : Asking Ty) := by
      funext it
      rw [parse_eq, hs]
      rfl
    rw [hparse]
    exact AgreeOption.pure (.refl _)
  | none =>
    cases hb : body? s with
    | none =>
      have hparse : parse s = (failure : Asking Ty) := by
        funext it
        rw [parse_eq, hs, hb]
        rfl
      rw [hparse]
      exact Agree.pure .none
    | some b =>
      rw [parse_body hs hb]
      refine (agree_readMembers fun p hp => ?_).bind ?_
      · have hlt := length_trim_lt hb hp
        exact agree_parse (Blank.trim p)
      · rintro s _ rfl
        exact AgreeOption.lift (agree_ask s)
termination_by s.length

/-- A descriptor that can be read. What is registered does not matter for this. -/
def Readable (d : Bytes) : Prop :=
  (parse d .shared).1.isSome = true

instance (d : Bytes) : Decidable (Readable d) :=
  inferInstanceAs (Decidable (_ = true))

/-- Whether a descriptor can be read is the same in every state of the interner. -/
theorem readable_iff (d : Bytes) (it : Interner) : Readable d ↔ (parse d it).1.isSome = true := by
  obtain ⟨hrel, -⟩ := agree_parse d .shared it
  have hrel : Option.Rel Ty.Alike (parse d .shared).1 (parse d it).1 := hrel
  unfold Readable
  generalize (parse d .shared).1 = a at *
  generalize (parse d it).1 = b at *
  cases hrel <;> simp

theorem Readable.exists_parse {d : Bytes} (h : Readable d) (it : Interner) :
    ∃ t it', parse d it = (some t, it') := by
  have hsome := (readable_iff d it).1 h
  obtain ⟨t, ht⟩ := Option.isSome_iff_exists.1 hsome
  exact ⟨t, (parse d it).2, by rw [← ht]⟩

end Descriptor

/-! ## Building expressions -/

namespace Outline

mutual

/-- The expression of an outline, where a type is given by its descriptor and read before what is
under the node. -/
def build : Outline Bytes → Asking Expr
  | .int v => return .int v
  | .long v => return .long v
  | .string s => return .string s
  | .boolean b => return .boolean b
  | .char v => return .char v
  | .nullable v => return .nullable v
  | .var name d => return .var name (← (Descriptor.parse d : Asking Ty))
  | .placeholder d => return .placeholder (← (Descriptor.parse d : Asking Ty))
  | .location o => return .location (← o.build)
  | .widget o => return .widget (← o.build)
  | .color o => return .color (← o.build)
  | .cast d o => do
    let t ← (Descriptor.parse d : Asking Ty)
    return .cast t (← o.build)
  | .tuple os => return .tuple (← buildAll os)

/-- The expressions of several outlines, in order. -/
def buildAll : List (Outline Bytes) → Asking (List Expr)
  | [] => return []
  | o :: os => do
    let e ← o.build
    return e :: (← buildAll os)

end

mutual

/-- An outline gives alike expressions from any two states, or none. -/
theorem agree_build : (o : Outline Bytes) → AgreeOption Expr.Alike o.build o.build
  | .int v => by rw [build]; exact .pure (.int v)
  | .long v => by rw [build]; exact .pure (.long v)
  | .string s => by rw [build]; exact .pure (.string s)
  | .boolean b => by rw [build]; exact .pure (.boolean b)
  | .char v => by rw [build]; exact .pure (.char v)
  | .nullable v => by rw [build]; exact .pure (.nullable v)
  | .var name d => by
    rw [build]
    exact (Descriptor.agree_parse d).bind fun t u htu => .pure (.var name htu)
  | .placeholder d => by
    rw [build]
    exact (Descriptor.agree_parse d).bind fun t u htu => .pure (.placeholder htu)
  | .location o => by rw [build]; exact o.agree_build.bind fun e f h => .pure (.location h)
  | .widget o => by rw [build]; exact o.agree_build.bind fun e f h => .pure (.widget h)
  | .color o => by rw [build]; exact o.agree_build.bind fun e f h => .pure (.color h)
  | .cast d o => by
    rw [build]
    refine (Descriptor.agree_parse d).bind fun t u htu => ?_
    exact o.agree_build.bind fun e f h => .pure (.cast htu h)
  | .tuple os => by rw [build]; exact (agree_buildAll os).bind fun es fs h => .pure (.tuple h)

theorem agree_buildAll : (os : List (Outline Bytes)) →
    AgreeOption (List.Forall₂ Expr.Alike) (buildAll os) (buildAll os)
  | [] => by rw [buildAll]; exact .pure .nil
  | o :: os => by
    rw [buildAll]
    refine o.agree_build.bind fun e f h => ?_
    exact (agree_buildAll os).bind fun es fs hs => .pure (.cons h hs)

end

end Outline

/-! ## Requests and answers -/

/-- What can be seen of the result of a cast: the expression, its text and type, and whether it is
the very expression that was given. -/
structure Shown where
  tree : Outline Ty.View
  text : Bytes
  type : Ty.View
  isGiven : Bool
deriving Repr

/-- What is shown of an expression after a coercion. -/
def Expr.shown (e : Expr) (c : Coercion) : StateM Interner Shown := do
  let t ← ((c.apply e).type : StateM Interner Ty)
  return ⟨(c.apply e).outline, (c.apply e).print, t.view, c.isKeep⟩

/-- The outcomes of casts to one type after the other. A cast that fails leaves the expression. -/
def Expr.castSteps : List Ty → Expr → StateM Interner (List (Except Fault Shown))
  | [], _ => return []
  | t :: ts, e => do
    match ← (e.castTo t : StateM Interner (Except CastError Coercion)) with
    | .error err => return .error err.fault :: (← castSteps ts e)
    | .ok c =>
      let s ← e.shown c
      return .ok s :: (← castSteps ts (c.apply e))

/-- The outcome of the casts of a call. -/
def castCall (es : List Expr) (ts : List Ty) : StateM Interner (Except Fault (List Shown)) := do
  match ← (castAll es ts : StateM Interner (Except CallError (List (Expr × Coercion)))) with
  | .error err => return .error err.fault
  | .ok casts => return .ok (← casts.mapM fun p => p.1.shown p.2)

/-- What one can ask for with descriptors in the place of types. -/
inductive Request where
  /-- The type of a descriptor. -/
  | parse (s : Bytes)
  /-- An expression cast to one type after the other. -/
  | cast (o : Outline Bytes) (targets : List Bytes)
  /-- The arguments of a call cast to the types that it expects. -/
  | castAll (os : List (Outline Bytes)) (targets : List Bytes)
deriving Repr

/-- What is answered: the type, the outcome of each cast, or the outcome of the call. -/
inductive Answer where
  | type (t : Ty.View)
  | casts (steps : List (Except Fault Shown))
  | arguments (outcome : Except Fault (List Shown))
deriving Repr

namespace Request

/-- What is done for a request. It fails when a descriptor in it cannot be read. -/
def process : Request → Asking Answer
  | .parse s => return .type (← (Descriptor.parse s : Asking Ty)).view
  | .cast o targets => do
    let e ← o.build
    let ts ← targets.mapM fun d => (Descriptor.parse d : Asking Ty)
    return .casts (← e.castSteps ts)
  | .castAll os targets => do
    let es ← Outline.buildAll os
    let ts ← targets.mapM fun d => (Descriptor.parse d : Asking Ty)
    return .arguments (← castCall es ts)

/-- The answer to a request, if there is one, and the interner afterwards. -/
def answer (r : Request) (it : Interner) : Option Answer × Interner :=
  r.process.run.run it

end Request

/-! ## Answers do not depend on what was registered -/

theorem Expr.Alike.agree_shown {e f : Expr} {c d : Coercion} (h : e.Alike f) (hc : c.Alike d) :
    Agree Eq (e.shown c) (f.shown d) := by
  have hr := hc.apply h
  refine hr.agree_type.bind fun t u htu => .pure ?_
  rw [hr.outline_eq, hr.print_eq, htu.view_eq, hc.isKeep_eq]

/-- Alike expressions cast to alike types one after the other show the same outcomes. -/
theorem Expr.Alike.agree_castSteps {ts us : List Ty} (hts : List.Forall₂ Ty.Alike ts us) {e f : Expr}
    (h : e.Alike f) : Agree Eq (castSteps ts e) (castSteps us f) := by
  induction hts generalizing e f with
  | nil => exact .pure rfl
  | cons ht _ ih =>
    refine (h.agree_castTo ht).bind ?_
    rintro _ _ (⟨herr⟩ | ⟨hc⟩)
    · refine (ih h).bind ?_
      rintro steps _ rfl
      exact .pure (by rw [herr])
    · refine (h.agree_shown hc).bind ?_
      rintro s _ rfl
      refine (ih (hc.apply h)).bind ?_
      rintro steps _ rfl
      exact .pure rfl

/-- Alike arguments cast to alike types show the same outcome. -/
theorem agree_castCall {es fs : List Expr} {ts us : List Ty} (he : List.Forall₂ Expr.Alike es fs)
    (ht : List.Forall₂ Ty.Alike ts us) : Agree Eq (castCall es ts) (castCall fs us) := by
  refine (agree_castAll he ht).bind ?_
  rintro _ _ (⟨herr⟩ | ⟨hcs⟩)
  · exact .pure (by rw [herr])
  · refine (Agree.mapM (fun p q hpq => hpq.1.agree_shown hpq.2) hcs).bind ?_
    rintro results _ rfl
    exact .pure rfl

/-- A request is processed in the same way from any two states. -/
theorem Request.agree_process (r : Request) : AgreeOption Eq r.process r.process := by
  have htargets := fun targets : List Bytes =>
    AgreeOption.mapM (fun d => Descriptor.agree_parse d) targets
  cases r with
  | parse s =>
    exact (Descriptor.agree_parse s).bind fun t u htu => .pure (by rw [htu.view_eq])
  | cast o targets =>
    refine o.agree_build.bind fun e f h => ?_
    refine (htargets targets).bind fun ts us hts => ?_
    refine (AgreeOption.lift (h.agree_castSteps hts)).bind ?_
    rintro steps _ rfl
    exact .pure rfl
  | castAll os targets =>
    refine (Outline.agree_buildAll os).bind fun es fs h => ?_
    refine (htargets targets).bind fun ts us hts => ?_
    refine (AgreeOption.lift (agree_castCall h hts)).bind ?_
    rintro outcome _ rfl
    exact .pure rfl

/-- Whatever was registered before, a request is answered in the same way, and registers whatever is
not registered yet of the same sequences in the same order. -/
theorem answer_ignores_history (r : Request) (it it' : Interner) :
    (r.answer it).1 = (r.answer it').1 ∧
      ∃ calls, (r.answer it).2 = it.after calls ∧ (r.answer it').2 = it'.after calls := by
  have heq : ∀ {a b : Option Answer}, Option.Rel Eq a b → a = b := by
    rintro _ _ (rfl | _) <;> rfl
  obtain ⟨hrel, hcalls⟩ := r.agree_process it it'
  exact ⟨heq hrel, hcalls⟩

end StackTypes
