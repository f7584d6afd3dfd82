/-
Reading a descriptor again. What is read and what is not is settled the first time: reading only
appends to the interner, and to read a text once more, in any later state, gives the same type or
fails again and registers nothing. A text that cannot be read may leave composites behind, but only
those of groups inside it that were read to their end before the reading failed.
-/
import StackTypes.Proofs.Descriptor.Balance
import StackTypes.Proofs.History

namespace StackTypes

open Interner

namespace Descriptor

/-! ## Induction over the members -/

/-- What holds of a text whenever it holds of the members of its group holds of every text. -/
theorem members_induction {motive : Bytes → Prop}
    (step : ∀ s, (∀ b, body? s = some b → ∀ p ∈ splitMembers b, motive (Blank.trim p)) → motive s)
    (s : Bytes) : motive s := by
  refine step s fun b hb p hp => ?_
  have hlt := length_trim_lt hb hp
  exact members_induction step (Blank.trim p)
termination_by s.length

/-! ## Asking again -/

end Descriptor

namespace Interner

variable {α β : Type}

/-- A computation that only appends to the interner, and in every later state gives the same result
and appends nothing. -/
structure Settles (x : StateM Interner α) : Prop where
  extends_state : ∀ it, Extends it (x.run it).2
  run_eq : ∀ {it it'}, Extends (x.run it).2 it' → x.run it' = ((x.run it).1, it')

theorem Settles.pure (a : α) : Settles (Pure.pure a) :=
  ⟨fun it => Extends.refl it, fun _ => rfl⟩

theorem Settles.bind {x : StateM Interner α} {k : α → StateM Interner β} (hx : Settles x)
    (hk : ∀ a, Settles (k a)) : Settles (x >>= k) := by
  have hrun : ∀ it, (x >>= k).run it = (k (x.run it).1).run (x.run it).2 := fun it => rfl
  refine ⟨fun it => ?_, fun {it it'} hext => ?_⟩
  · rw [hrun]
    exact (hx.extends_state it).trans ((hk _).extends_state _)
  · rw [hrun] at hext
    have hfirst : Extends (x.run it).2 it' := ((hk _).extends_state _).trans hext
    rw [hrun, hrun, hx.run_eq hfirst, (hk _).run_eq hext]

theorem settles_ask (s : List Atomic) : Settles (ask s) :=
  ⟨fun it => of_extends it s, fun hext => of_of_extends hext⟩

/-- As `Settles`, for a computation that can fail. -/
def SettlesOption (x : Asking α) : Prop :=
  Settles x.run

theorem SettlesOption.pure (a : α) : SettlesOption (Pure.pure a) :=
  Settles.pure (some a)

theorem SettlesOption.bind {x : Asking α} {k : α → Asking β} (hx : SettlesOption x)
    (hk : ∀ a, SettlesOption (k a)) : SettlesOption (x >>= k) := by
  unfold SettlesOption
  rw [OptionT.run_bind]
  refine Settles.bind hx fun o => ?_
  cases o with
  | none => exact .pure none
  | some a => exact hk a

end Interner

namespace Descriptor

theorem settles_readMembers {parts : List Bytes}
    (h : ∀ p ∈ parts, SettlesOption (parse (Blank.trim p))) :
    SettlesOption (readMembers parse parts) := by
  induction parts with
  | nil => exact .pure []
  | cons p parts ih =>
    rw [readMembers_cons]
    refine .bind (h p List.mem_cons_self) fun t => ?_
    exact .bind (ih fun q hq => h q (List.mem_cons_of_mem p hq)) fun members => .pure _

/-- A text is read in the same way ever after. -/
theorem settles_parse (s : Bytes) : SettlesOption (parse s) := by
  induction s using members_induction with
  | step s ih =>
    cases hs : Atomic.ofName? s with
    | some a =>
      have hparse : parse s = (pure (.atomic a) : Asking Ty) := by
        funext it
        rw [parse_eq, hs]
        rfl
      rw [hparse]
      exact .pure _
    | none =>
      cases hb : body? s with
      | none =>
        have hparse : parse s = (failure : Asking Ty) := by
          funext it
          rw [parse_eq, hs, hb]
          rfl
        rw [hparse]
        exact Settles.pure none
      | some b =>
        rw [parse_body hs hb]
        refine .bind (settles_readMembers (ih b hb)) fun members => ?_
        exact (settles_ask members).bind fun t => .pure (some t)

/-! ## What is left behind -/

theorem mem_composites_of {it : Interner} {s : List Atomic} {c : Composite}
    (h : c ∈ (it.of s).2.composites) : c ∈ it.composites ∨ (it.of s).1 = .composite c := by
  rcases Nat.lt_or_ge s.length 2 with hs | hs
  · rw [of_short it it hs] at h
    exact .inl h
  · rw [of_eq it hs] at h ⊢
    by_cases hm : s ∈ it.rows
    · rw [if_pos hm] at h
      exact .inl h
    · -- the new composite stands behind the others
      rw [if_neg hm] at h
      simp only [composites, List.mapIdx_append, List.mem_append] at h
      refine h.imp_right fun h => ?_
      rw [List.idxOf_eq_length hm]
      simpa [eq_comm] using h

/-- Reading `s` from the first state comes to read `g`, in the second state: the members of the groups
around `g` that stand in front of it have been read. -/
inductive ComesTo : Bytes → Interner → Bytes → Interner → Prop
  | start (s : Bytes) (it : Interner) : ComesTo s it s it
  | member {s b p g : Bytes} {before after : List Bytes} {members : List Atomic}
      {it it₁ it₂ : Interner} (hs : Atomic.ofName? s = none) (hb : body? s = some b)
      (hparts : splitMembers b = before ++ p :: after)
      (hbefore : readMembers parse before it = (some members, it₁))
      (h : ComesTo (Blank.trim p) it₁ g it₂) : ComesTo s it g it₂

/-- The composite is the type of a text that reading `s` comes to. -/
def ReadIn (s : Bytes) (it : Interner) (c : Composite) : Prop :=
  ∃ g it₁, ComesTo s it g it₁ ∧ (parse g it₁).1 = some (.composite c)

/-- A composite that is new after reading some members is that of a text in one of them. -/
theorem mem_composites_readMembers {parts : List Bytes}
    (h : ∀ p ∈ parts, ∀ it, ∀ c ∈ (parse (Blank.trim p) it).2.composites,
      c ∈ it.composites ∨ ReadIn (Blank.trim p) it c)
    {it : Interner} {c : Composite} (hc : c ∈ (readMembers parse parts it).2.composites) :
    c ∈ it.composites ∨ ∃ before p after members it₁, parts = before ++ p :: after ∧
      readMembers parse before it = (some members, it₁) ∧ ReadIn (Blank.trim p) it₁ c := by
  induction parts generalizing it with
  | nil => exact .inl hc
  | cons p parts ih =>
    obtain ⟨hp, hparts⟩ := List.forall_mem_cons.1 h
    -- new in the first member, with nothing read before it
    have hfirst : c ∈ (parse (Blank.trim p) it).2.composites →
        c ∈ it.composites ∨ ∃ before q after members it₁, p :: parts = before ++ q :: after ∧
          readMembers parse before it = (some members, it₁) ∧ ReadIn (Blank.trim q) it₁ c := by
      intro hm
      refine (hp it c hm).imp_right fun hr => ?_
      exact ⟨[], p, parts, [], it, rfl, rfl, hr⟩
    rw [readMembers] at hc
    rcases hread : parse (Blank.trim p) it with ⟨_ | t, it₁⟩
    · rw [hread] at hc hfirst
      exact hfirst hc
    · rw [hread] at hc hfirst
      have htail : c ∈ (readMembers parse parts it₁).2.composites := by
        dsimp only at hc
        rcases hrest : readMembers parse parts it₁ with ⟨_ | members, it₂⟩ <;>
        · rw [hrest] at hc
          exact hc
      rcases ih hparts htail with hm | ⟨before, q, after, members, it₂, hsplit, hbefore, hr⟩
      · exact hfirst hm
      · refine .inr ⟨p :: before, q, after, t.flatten ++ members, it₂, by rw [hsplit]; rfl, ?_, hr⟩
        rw [readMembers, hread]
        dsimp only
        rw [hbefore]

/-- Every composite that is new after reading is the type of a text that the reading came to. -/
theorem mem_composites_parse (s : Bytes) : ∀ (it : Interner), ∀ c ∈ (parse s it).2.composites,
    c ∈ it.composites ∨ ReadIn s it c := by
  induction s using members_induction with
  | step s ih =>
    intro it c hc
    have hself : (parse s it).1 = some (.composite c) → ReadIn s it c :=
      fun h => ⟨s, it, .start s it, h⟩
    rw [parse_eq] at hc hself
    cases hs : Atomic.ofName? s with
    | some a =>
      rw [hs] at hc
      exact .inl hc
    | none =>
      cases hb : body? s with
      | none =>
        rw [hs, hb] at hc
        exact .inl hc
      | some b =>
        simp only [hs, hb] at hc hself
        have hmembers : c ∈ (readMembers parse (splitMembers b) it).2.composites →
            c ∈ it.composites ∨ ReadIn s it c := by
          intro hm
          refine (mem_composites_readMembers (ih b hb) hm).imp_right ?_
          rintro ⟨before, p, after, members, it₁, hparts, hbefore, g, it₂, hcomes, hg⟩
          exact ⟨g, it₂, .member hs hb hparts hbefore hcomes, hg⟩
        rcases hread : readMembers parse (splitMembers b) it with ⟨_ | members, it₁⟩
        · rw [hread] at hc hmembers
          exact hmembers hc
        · rw [hread] at hc hmembers hself
          rcases mem_composites_of hc with hm | hnew
          · exact hmembers hm
          · exact .inr (hself (congrArg some hnew))

/-! ## Texts inside a text -/

theorem isInfix_joinWith {p : Bytes} {parts : List Bytes} (hp : p ∈ parts) :
    p <:+: Bytes.joinWith [comma] parts := by
  induction parts with
  | nil => cases hp
  | cons q parts ih =>
    cases parts with
    | nil =>
      obtain rfl := List.mem_singleton.1 hp
      simp [Bytes.joinWith]
    | cons r parts =>
      rw [joinWith_cons q (by simp)]
      rcases List.mem_cons.1 hp with rfl | hp
      · exact (List.prefix_append _ _).isInfix
      · exact ((ih hp).trans (List.suffix_cons _ _).isInfix).trans (List.suffix_append _ _).isInfix

theorem isInfix_of_member {s b p : Bytes} (hb : body? s = some b) (hp : p ∈ splitMembers b) :
    Blank.trim p <:+: s := by
  have htrim : Blank.trim p <:+: p := by
    obtain ⟨l, r, h, -, -⟩ := Blank.exists_trimmed p
    exact ⟨l, r, h.symm⟩
  have hpart : p <:+: b := by
    have hjoin := isInfix_joinWith hp
    rwa [splitMembers, joinWith_splitFrom] at hjoin
  have hbody : b <:+: s := by
    obtain ⟨-, l, r, -, -, h⟩ := eq_group_of_body? hb
    refine ⟨s.takeWhile (· != openBrace) ++ openBrace :: l, closeBrace :: r, ?_⟩
    rw [eq_comm]
    simpa using h
  exact (htrim.trans hpart).trans hbody

theorem ComesTo.isInfix {s g : Bytes} {it it₁ : Interner} (h : ComesTo s it g it₁) : g <:+: s := by
  induction h with
  | start => exact List.infix_refl _
  | member _ hb hparts _ _ ih =>
    exact ih.trans (isInfix_of_member hb (by rw [hparts]; simp))

/-- Reading a text, whether it succeeds or not, needs no more depth than the text is long and only
appends to the interner. Reading it again gives the same and registers nothing. When it fails, every
composite that it has appended is the type of a text properly inside, which was come to and read. -/
theorem parse_settles (s : Bytes) (it : Interner) :
    (∀ depth, s.length < depth → parseWithin depth s it = parse s it) ∧
    (∃ more, (parse s it).2 = { it with rows := it.rows ++ more }) ∧
    (∀ (i : Nat) (c : Composite), it.composites[i]? = some c →
      (parse s it).2.composites[i]? = some c) ∧
    parse s (parse s it).2 = parse s it ∧
    ((parse s it).1 = none → ∀ c ∈ (parse s it).2.composites, c ∉ it.composites →
      ∃ g it₁, ComesTo s it g it₁ ∧ g <:+: s ∧ g.length < s.length ∧
        (parse g it₁).1 = some (.composite c)) := by
  have hext : Extends it (parse s it).2 := (settles_parse s).extends_state it
  refine ⟨fun depth hdepth => ?_, ?_, fun i c hc => hext.getElem?_composites hc,
    (settles_parse s).run_eq (Extends.refl _), fun hnone c hc hnew => ?_⟩
  · exact parseWithin_eq_parseWithin hdepth (Nat.lt_succ_self _) it
  · obtain ⟨more, hmore⟩ := hext.rows
    refine ⟨more, ?_⟩
    rw [hmore, ← hext.home]
  · obtain ⟨g, it₁, hcomes, hg⟩ := (mem_composites_parse s it c hc).resolve_left hnew
    refine ⟨g, it₁, hcomes, hcomes.isInfix, ?_, hg⟩
    cases hcomes with
    | start =>
      rw [hnone] at hg
      cases hg
    | member _ hb hparts _ h =>
      have hinner := h.isInfix.length_le
      exact Nat.lt_of_le_of_lt hinner (length_trim_lt hb (hparts ▸ by simp))

end Descriptor

end StackTypes
