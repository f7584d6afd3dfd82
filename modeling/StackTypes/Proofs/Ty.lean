/-
How types are compared: by their members, by their place in an interner, and by the slots that they take.
Types from any interners have the same members exactly when flattening them gives the same. Among the
types of one interner that is to be the same type, since a composite is registered once, while two
interners never give the same composite. Slots say less than members, and do not depend on their
order; the unknown type alone, which goes with every type, keeps this from being an equivalence.
-/
import StackTypes.Proofs.Interner.Several

namespace StackTypes

open Interner

/-! ## Members and slots -/

namespace Ty

theorem sameMembers_trans {t u v : Ty} (htu : t.sameMembers u = true) (huv : u.sameMembers v = true) :
    t.sameMembers v = true := by
  rw [← sameMembers_congr huv]
  exact htu

theorem compatible_refl (t : Ty) : t.compatible t = true :=
  compatible_of_footprint_eq rfl

theorem compatible_comm (t u : Ty) : t.compatible u = u.compatible t := by
  unfold compatible
  rw [Bool.or_comm t.isUnknown, Bool.beq_comm]

/-- Only the unknown type makes a step that the types at its ends do not make. -/
theorem compatible_trans {t u v : Ty} (ht : t ≠ .atomic .unknown) (hu : u ≠ .atomic .unknown)
    (hv : v ≠ .atomic .unknown) (htu : t.compatible u = true) (huv : u.compatible v = true) :
    t.compatible v = true := by
  rw [compatible_iff ht hu] at htu
  rw [compatible_iff hu hv] at huv
  exact compatible_of_footprint_eq (htu.trans huv)

end Ty

namespace Footprint

theorem add_right_comm (f g h : Footprint) : (f.add g).add h = (f.add h).add g := by
  have hcomm : ∀ a b c : Int64, a + b + c = a + c + b := by
    intro a b c
    rw [Int64.add_assoc, Int64.add_comm b, ← Int64.add_assoc]
  simp only [add, hcomm _ g.ints, hcomm _ g.strings, hcomm _ g.longs]

theorem sum_perm {fs gs : List Footprint} (h : fs.Perm gs) : sum fs = sum gs := by
  have : RightCommutative add := ⟨add_right_comm⟩
  exact h.foldl_eq zero

end Footprint

namespace Interner

theorem compatible_of_perm (it it' : Interner) {s p : List Atomic} (h : s.Perm p) :
    (it.of s).1.compatible (it'.of p).1 = true := by
  refine Ty.compatible_of_footprint_eq ?_
  rw [footprint_of, footprint_of]
  exact Footprint.sum_perm (h.map Atomic.footprint)

/-! ## Types of interners -/

theorem Reachable.isComposite_iff {it : Interner} (h : it.Reachable) {t : Ty} (ht : it.Holds t) :
    t.isComposite = true ↔ 2 ≤ t.flatten.length := by
  cases ht with
  | atomic a => simp [Ty.isComposite, Ty.flatten]
  | composite hc => exact ⟨fun _ => h.two_le_members hc, fun _ => rfl⟩

/-- Types from any two interners have the same members exactly when flattening gives the same. -/
theorem Reachable.sameMembers_iff {it it' : Interner} (h : it.Reachable) (h' : it'.Reachable)
    {t u : Ty} (ht : it.Holds t) (hu : it'.Holds u) :
    t.sameMembers u = true ↔ t.flatten = u.flatten := by
  constructor
  · exact Ty.flatten_eq_of_sameMembers
  · intro heq
    -- no composite has one member only, so none is taken for an atomic type
    have hkind : t.isComposite = true ↔ u.isComposite = true := by
      rw [h.isComposite_iff ht, h'.isComposite_iff hu, heq]
    cases t <;> cases u <;> simp_all [Ty.isComposite, Ty.sameMembers, Ty.flatten]

theorem home_of_mem_composites {it : Interner} {c : Composite} (h : c ∈ it.composites) :
    c.home = it.home := by
  unfold composites at h
  obtain ⟨i, hi, rfl⟩ := List.mem_mapIdx.1 h
  rfl

theorem eq_of_index_eq {it : Interner} {c d : Composite} (hc : c ∈ it.composites)
    (hd : d ∈ it.composites) (h : c.index = d.index) : c = d := by
  obtain ⟨i, hi⟩ := List.mem_iff_getElem?.1 hc
  obtain ⟨j, hj⟩ := List.mem_iff_getElem?.1 hd
  rw [index_of_getElem?_composites hi, index_of_getElem?_composites hj] at h
  rw [h, hj] at hi
  exact (Option.some.inj hi).symm

/-- The types of one interner are known by their places. -/
theorem identical_iff_eq {it : Interner} {t u : Ty} (ht : it.Holds t) (hu : it.Holds u) :
    t.identical u = true ↔ t = u := by
  constructor
  · intro h
    cases ht with
    | atomic a =>
      cases hu with
      | atomic b => simpa [Ty.identical] using h
      | composite hd => cases h
    | composite hc =>
      cases hu with
      | atomic b => cases h
      | composite hd =>
        simp only [Ty.identical, Bool.and_eq_true, beq_iff_eq] at h
        rw [eq_of_index_eq hc hd h.2]
  · rintro rfl
    cases t <;> simp [Ty.identical]

theorem Reachable.identical_iff {it : Interner} (h : it.Reachable) {t u : Ty} (ht : it.Holds t)
    (hu : it.Holds u) : t.identical u = true ↔ t.sameMembers u = true := by
  rw [identical_iff_eq ht hu]
  constructor
  · rintro rfl
    exact Ty.sameMembers_refl t
  · intro hsame
    exact h.eq_of_flatten_eq ht hu (Ty.flatten_eq_of_sameMembers hsame)

/-- Two interners never give the same composite. -/
theorem not_identical_of_home_ne {it it' : Interner} (hne : it.home ≠ it'.home) {t u : Ty}
    (ht : it.Holds t) (hu : it'.Holds u) (hc : t.isComposite = true) : t.identical u = false := by
  cases ht with
  | atomic a => cases hc
  | composite hmem =>
    cases hu with
    | atomic b => rfl
    | composite hmem' =>
      have hhome := home_of_mem_composites hmem
      have hhome' := home_of_mem_composites hmem'
      rw [← hhome, ← hhome'] at hne
      simp [Ty.identical, hne]

end Interner

/-! ## Types given in a run -/

namespace Interners

/-- Of the types that any interners give in a run: they have the same members exactly when flattening
them gives the same, which is an equivalence; from one interner they then are the same type, and
composites from two never are. Types with the same members are compatible. Compatibility is
reflexive and symmetric, and an equivalence once the unknown type is left out. The types of a
sequence and of a permutation of it are compatible, whatever is registered where. -/
theorem given_types_compare (qs : List Query) :
    (∀ a b : Given qs, a.type.sameMembers b.type = true ↔ a.type.flatten = b.type.flatten) ∧
    (Equivalence fun a b : Given qs => a.type.sameMembers b.type = true) ∧
    (∀ a b : Given qs, a.home = b.home →
      (a.type.identical b.type = true ↔ a.type.sameMembers b.type = true)) ∧
    (∀ a b : Given qs, a.home ≠ b.home → a.type.isComposite = true → b.type.isComposite = true →
      a.type.identical b.type = false) ∧
    (∀ a b : Given qs, a.type.sameMembers b.type = true → a.type.compatible b.type = true) ∧
    (∀ a : Given qs, a.type.compatible a.type = true) ∧
    (∀ a b : Given qs, a.type.compatible b.type = true → b.type.compatible a.type = true) ∧
    (Equivalence fun a b : { a : Given qs // a.type ≠ .atomic .unknown } =>
      a.1.type.compatible b.1.type = true) ∧
    ∀ (it it' : Interner) (s p : List Atomic), s.Perm p →
      (it.of s).1.compatible (it'.of p).1 = true := by
  have hreachable := reachable_after_start qs
  refine ⟨?_, ?_, ?_, ?_, ?_, ?_, ?_, ?_, ?_⟩
  · intro a b
    exact (hreachable a.home).sameMembers_iff (hreachable b.home) a.holds b.holds
  · refine ⟨fun a => Ty.sameMembers_refl a.type, fun {a b} hab => ?_, Ty.sameMembers_trans⟩
    rw [Ty.sameMembers_comm]
    exact hab
  · intro a b hhome
    have hb := b.holds
    rw [← hhome] at hb
    exact (hreachable a.home).identical_iff a.holds hb
  · intro a b hhome hcomposite _
    refine not_identical_of_home_ne ?_ a.holds b.holds hcomposite
    rw [home_after_start, home_after_start]
    exact hhome
  · intro a b hab
    exact Ty.compatible_of_footprint_eq (Ty.footprint_eq_of_sameMembers hab)
  · intro a
    exact a.type.compatible_refl
  · intro a b hab
    rw [Ty.compatible_comm]
    exact hab
  · refine ⟨fun a => a.1.type.compatible_refl, fun {a b} hab => ?_, fun {a b c} hab hbc => ?_⟩
    · rw [Ty.compatible_comm]
      exact hab
    · exact Ty.compatible_trans a.2 b.2 c.2 hab hbc
  · intro it it' s p hperm
    exact compatible_of_perm it it' hperm

/-- Asked for the same sequence, two interners give two types with the same members. -/
example :
    let a : Ty := .composite ⟨.shared, 0, [.int, .string]⟩
    let b : Ty := .composite ⟨.own 0, 0, [.int, .string]⟩
    start.given [.of .shared [.int, .string], .of (.own 0) [.int, .string]] =
        [(.shared, a), (.own 0, b)] ∧
      a.sameMembers b = true ∧ a.identical b = false := by
  decide

end Interners

end StackTypes
