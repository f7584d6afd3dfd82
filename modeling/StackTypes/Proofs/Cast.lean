/-
The rules of a cast, stated once (`Coerced`), and when a cast fails. The rules overlap, and the first
that applies decides; `Coerced` gives each its full condition, so that what holds of every cast is a
case distinction over it. Slots alone decide failure: no rule takes a pair of types with the same
slots and makes it an error, except for a value that is not resolved.
-/
import StackTypes.Cast
import Mathlib.Data.List.Basic

namespace StackTypes

/-! ## Types with the same slots -/

namespace Ty

theorem footprint_eq_of_sameMembers {t u : Ty} (h : t.sameMembers u = true) :
    t.footprint = u.footprint := by
  cases t <;> cases u <;> simp_all [sameMembers, footprint]

theorem compatible_of_footprint_eq {t u : Ty} (h : t.footprint = u.footprint) :
    t.compatible u = true := by
  simp [compatible, h]

theorem compatible_iff {t u : Ty} (ht : t ≠ .atomic .unknown) (hu : u ≠ .atomic .unknown) :
    t.compatible u = true ↔ t.footprint = u.footprint := by
  simp [compatible, isUnknown, ht, hu]

end Ty

namespace Expr

/-! ## The rules -/

theorem isPlaceholder_iff {e : Expr} : e.isPlaceholder = true ↔ ∃ slot, e = .placeholder slot := by
  cases e <;> simp [isPlaceholder]

theorem toInt_codeUnit (v : Int32) : (codeUnit v).toInt = v.toInt % 65536 := by
  unfold codeUnit
  rw [Int32.toInt_ofInt_of_le] <;> omega

/-- The types whose values are made by wrapping. -/
def wrappers : List Ty := [.atomic .location, .atomic .widget, .atomic .color]

/-- `r` is the integer constant `v` written as a constant for a value of the given type. -/
inductive Rewritten (v : Int32) : Ty → Expr → Prop
  | boolean (hv : v ≠ -1) : Rewritten v (.atomic .boolean) (.boolean (v != 0))
  | noBoolean (hv : v = -1) : Rewritten v (.atomic .boolean) (.nullable v)
  | char {u : Int32} (hu : u.toInt = v.toInt % 65536) : Rewritten v (.atomic .char) (.char u)
  | handle {t : Ty} (hf : t.footprint = Atomic.int.footprint) (hi : t ≠ .atomic .int)
      (hb : t ≠ .atomic .boolean) (hc : t ≠ .atomic .char) (hw : t ∉ wrappers) :
      Rewritten v t (.nullable v)

/-- The types differ and the expression is resolved, so that some rule has work to do. -/
structure Pending (e : Expr) (source required : Ty) : Prop where
  differ : source.sameMembers required = false
  resolved : e.isPlaceholder = false

/-- The outcome of a cast by the rule that decides it. -/
inductive Coerced (e : Expr) (source required : Ty) : Except CastError Coercion → Prop
  | same (h : source.sameMembers required = true) : Coerced e source required (.ok .keep)
  | unresolved (h : source.sameMembers required = false) (he : e.isPlaceholder = true) :
      Coerced e source required (.error (.placeholder required))
  | unknown (p : Pending e source required) (ht : required = .atomic .unknown) :
      Coerced e source required (.ok .keep)
  | location (p : Pending e source required) (ht : required = .atomic .location) :
      Coerced e source required (.ok (.build (.location e)))
  | widget (p : Pending e source required) (ht : required = .atomic .widget) :
      Coerced e source required (.ok (.build (.widget e)))
  | color (p : Pending e source required) (ht : required = .atomic .color) :
      Coerced e source required (.ok (.build e.colorOf))
  | stored (p : Pending e source required)
      (hs : source = .atomic .boolean ∨ source = .atomic .color) (ht : required = .atomic .int) :
      Coerced e source required (.ok .keep)
  | literal {v : Int32} {r : Expr} (p : Pending e source required) (hv : e = .int v)
      (hr : Rewritten v required r) : Coerced e source required (.ok (.build r))
  | reread (p : Pending e source required) (hv : ∀ v, e ≠ .int v)
      (hu : required ≠ .atomic .unknown) (hw : required ∉ wrappers)
      (hs : ¬ ((source = .atomic .boolean ∨ source = .atomic .color) ∧ required = .atomic .int))
      (hc : required.compatible source = true) :
      Coerced e source required (.ok (.build (.cast required e)))
  | incompatible (p : Pending e source required) (hw : required ∉ wrappers)
      (hc : required.compatible source = false) :
      Coerced e source required (.error (.incompatible source required))

/-- The rule for integer constants applies to every other type with the slots of an integer. -/
theorem coerceLiteral?_int {v : Int32} {t : Ty} (hi : t ≠ .atomic .int) (hw : t ∉ wrappers)
    (hf : t.footprint = Atomic.int.footprint) :
    ∃ r, coerceLiteral? (.int v) t = some r ∧ Rewritten v t r := by
  by_cases hb : t = .atomic .boolean
  · subst hb
    refine ⟨booleanOfInt v, rfl, ?_⟩
    unfold booleanOfInt
    by_cases hv : v = -1
    · rw [if_pos hv, ← hv]; exact .noBoolean hv
    · rw [if_neg hv]; exact .boolean hv
  by_cases hc : t = .atomic .char
  · subst hc
    exact ⟨.char (codeUnit v), rfl, .char (toInt_codeUnit v)⟩
  · refine ⟨.nullable v, ?_, .handle hf hi hb hc hw⟩
    unfold coerceLiteral?
    split <;> simp_all

theorem coerceLiteral?_int_none {v : Int32} {t : Ty} (hf : t.footprint ≠ Atomic.int.footprint) :
    coerceLiteral? (.int v) t = none := by
  unfold coerceLiteral?
  split <;> simp_all [Ty.footprint, Atomic.footprint]

theorem coerceLiteral?_none {e : Expr} (he : ∀ v, e ≠ .int v) (t : Ty) : e.coerceLiteral? t = none := by
  unfold coerceLiteral?
  split <;> simp_all

/-- Every cast is decided by one of the rules. -/
theorem castTo_coerced (e : Expr) (t : Ty) (it : Interner) :
    Coerced e (e.type it).1 t (e.castTo t it).1 := by
  show Coerced e (e.type it).1 t (e.coerce (e.type it).1 t)
  have hint : ∀ v, e = .int v → (e.type it).1 = .atomic .int := by rintro v rfl; simp [type]
  generalize (e.type it).1 = source at hint
  unfold coerce
  split
  · rename_i h; exact .same h
  rename_i hd
  rw [Bool.not_eq_true] at hd
  split
  · rename_i he; exact .unresolved hd he
  rename_i he
  rw [Bool.not_eq_true] at he
  have p : Pending e source t := ⟨hd, he⟩
  split
  · rename_i hu; exact .unknown p (by simpa [Ty.isUnknown] using hu)
  rename_i hu
  have hu : t ≠ .atomic .unknown := by simpa [Ty.isUnknown] using hu
  split
  · rename_i ht; exact .location p ht
  rename_i hl
  split
  · rename_i ht; exact .widget p ht
  rename_i hw
  split
  · rename_i ht; exact .color p ht
  rename_i hc
  have hnw : t ∉ wrappers := by simp [wrappers, hl, hw, hc]
  split
  · rename_i hs; exact .stored p hs.1 hs.2
  rename_i hs
  by_cases hlit : ∃ v, e = .int v
  · -- a constant has the slots of an integer, so the required type has them too or nothing fits
    obtain ⟨v, rfl⟩ := hlit
    obtain rfl := hint v rfl
    have hi : t ≠ .atomic .int := by rintro rfl; simp [Ty.sameMembers] at hd
    by_cases hf : t.footprint = Atomic.int.footprint
    · obtain ⟨r, hr, hrw⟩ := coerceLiteral?_int hi hnw hf
      rw [hr]; exact .literal p rfl hrw
    · have hcomp : t.compatible (.atomic .int) = false := by
        rw [← Bool.not_eq_true, Ty.compatible_iff hu (by decide)]; exact hf
      rw [coerceLiteral?_int_none hf, hcomp]
      exact .incompatible p hnw hcomp
  · rw [not_exists] at hlit
    rw [coerceLiteral?_none hlit]
    cases hcomp : t.compatible source with
    | true => exact .reread p hlit hu hnw hs hcomp
    | false => exact .incompatible p hnw hcomp

/-! ## When a cast fails -/

theorem Rewritten.footprint {v : Int32} {t : Ty} {r : Expr} (h : Rewritten v t r) :
    t.footprint = Atomic.int.footprint := by
  cases h with
  | boolean | noBoolean | char => rfl
  | handle hf => exact hf

theorem castTo_placeholder_iff (e : Expr) (t u : Ty) (it : Interner) :
    (e.castTo t it).1 = .error (.placeholder u) ↔
      u = t ∧ e.isPlaceholder = true ∧ (e.type it).1.sameMembers t = false := by
  have h := castTo_coerced e t it
  generalize (e.castTo t it).1 = outcome at h
  constructor
  · rintro rfl
    cases h with
    | unresolved h he => exact ⟨rfl, he, h⟩
  · rintro ⟨rfl, he, hd⟩
    cases h with
    | unresolved => rfl
    | same h => rw [hd] at h; cases h
    | unknown p | location p | widget p | color p | stored p | literal p | reread p
    | incompatible p => rw [p.resolved] at he; cases he

/-- Every rule that applies to a type other than the wrappers keeps the slots. -/
theorem castTo_incompatible_iff (e : Expr) (t s u : Ty) (it : Interner) :
    (e.castTo t it).1 = .error (.incompatible s u) ↔
      s = (e.type it).1 ∧ u = t ∧ e.isPlaceholder = false ∧ t ∉ wrappers ∧
        t.compatible (e.type it).1 = false := by
  have h := castTo_coerced e t it
  generalize (e.castTo t it).1 = outcome at h
  constructor
  · rintro rfl
    cases h with
    | incompatible p hw hc => exact ⟨rfl, rfl, p.resolved, hw, hc⟩
  · rintro ⟨rfl, rfl, he, hw, hc⟩
    cases h with
    | incompatible => rfl
    | unresolved _ he' => rw [he] at he'; cases he'
    | location _ ht | widget _ ht | color _ ht => exact absurd (by simp [ht, wrappers]) hw
    | unknown _ ht => rw [ht] at hc; simp [Ty.compatible, Ty.isUnknown] at hc
    | same h =>
      rw [Ty.compatible_of_footprint_eq (Ty.footprint_eq_of_sameMembers h).symm] at hc
      cases hc
    | stored _ hs ht =>
      rw [ht] at hc
      rcases hs with hs | hs <;> rw [hs] at hc <;> cases hc
    | literal _ hv hr =>
      have hf : u.footprint = (e.type it).1.footprint := by
        rw [hr.footprint, hv]; simp [type, Ty.footprint]
      rw [Ty.compatible_of_footprint_eq hf] at hc
      cases hc
    | reread _ _ _ _ _ hc' => rw [hc] at hc'; cases hc'

/-- A cast fails exactly in two ways. A value that is not resolved can only be taken as what it is;
and any other expression has to have the slots of the required type, unless that is a type made by
wrapping. -/
theorem castTo_fails_exactly (e : Expr) (t : Ty) (it : Interner) :
    let source := (e.type it).1
    let unresolved := (∃ slot, e = .placeholder slot) ∧ source.sameMembers t = false
    let misfit := (∀ slot, e ≠ .placeholder slot) ∧
      (t ≠ .atomic .location ∧ t ≠ .atomic .widget ∧ t ≠ .atomic .color) ∧
      t.compatible source = false
    (∀ u, (e.castTo t it).1 = .error (.placeholder u) ↔ u = t ∧ unresolved) ∧
    (∀ s u, (e.castTo t it).1 = .error (.incompatible s u) ↔ s = source ∧ u = t ∧ misfit) ∧
    ((∃ c, (e.castTo t it).1 = .ok c) ↔ ¬ unresolved ∧ ¬ misfit) ∧
    ((∀ slot, e ≠ .placeholder slot) → t.compatible source = true →
      ∃ c, (e.castTo t it).1 = .ok c) := by
  intro source unresolved misfit
  have hun : ∀ u, (e.castTo t it).1 = .error (.placeholder u) ↔ u = t ∧ unresolved := by
    intro u
    rw [castTo_placeholder_iff, isPlaceholder_iff]
  have hres : e.isPlaceholder = false ↔ ∀ slot, e ≠ .placeholder slot := by
    rw [← Bool.not_eq_true, isPlaceholder_iff, not_exists]
  have hmis : ∀ s u, (e.castTo t it).1 = .error (.incompatible s u) ↔ s = source ∧ u = t ∧ misfit := by
    intro s u
    rw [castTo_incompatible_iff, hres]
    simp [misfit, source, wrappers]
  have hok : (∃ c, (e.castTo t it).1 = .ok c) ↔ ¬ unresolved ∧ ¬ misfit := by
    constructor
    · rintro ⟨c, hc⟩
      constructor
      · intro h; have := (hun t).2 ⟨rfl, h⟩; rw [hc] at this; cases this
      · intro h; have := (hmis source t).2 ⟨rfl, rfl, h⟩; rw [hc] at this; cases this
    · rintro ⟨hnu, hnm⟩
      cases ho : (e.castTo t it).1 with
      | ok c => exact ⟨c, rfl⟩
      | error err =>
        cases err with
        | placeholder u => exact absurd ((hun u).1 ho).2 hnu
        | incompatible s u => exact absurd ((hmis s u).1 ho).2.2 hnm
  refine ⟨hun, hmis, hok, fun he hc => hok.2 ⟨?_, ?_⟩⟩
  · rintro ⟨⟨slot, hslot⟩, -⟩; exact he slot hslot
  · rintro ⟨-, -, hc'⟩; rw [hc] at hc'; cases hc'

end Expr

end StackTypes
