/-
Laws of the interner. One call registers at most the sequence it is asked for, at the end of the
rows, so the rows only grow; and whatever is registered later, a call is answered as it was before.
A whole run therefore leaves the sequences of two or more members in the order of their first call,
each once, and two of its calls are given the same type exactly when they asked for the same
members.
-/
import StackTypes.Interner
import Mathlib.Data.List.Basic
import Mathlib.Data.List.Infix

namespace StackTypes

namespace Footprint

theorem foldl_add (fs : List Footprint) (f : Footprint) :
    fs.foldl add f =
      ⟨f.ints + (fs.map (·.ints)).sum, f.strings + (fs.map (·.strings)).sum,
        f.longs + (fs.map (·.longs)).sum⟩ := by
  induction fs generalizing f with
  | nil => simp
  | cons g fs ih =>
    rw [List.foldl_cons, ih]
    simp only [add, List.map_cons, List.sum_cons, Int64.add_assoc]

/-- Footprints are summed slot by slot. -/
theorem sum_eq (fs : List Footprint) :
    sum fs = ⟨(fs.map (·.ints)).sum, (fs.map (·.strings)).sum, (fs.map (·.longs)).sum⟩ := by
  unfold sum
  rw [foldl_add]
  simp [zero]

end Footprint

theorem footprint_composite (c : Composite) :
    (Ty.composite c).footprint = ⟨(c.members.map (·.footprint.ints)).sum,
      (c.members.map (·.footprint.strings)).sum, (c.members.map (·.footprint.longs)).sum⟩ := by
  rw [Ty.footprint, Footprint.sum_eq]
  simp [Function.comp_def]

namespace Interner

/-! ## One call -/

/-- Two or more members are given the place of their first row, which is the next free one when
there is no such row yet. -/
theorem of_eq (it : Interner) {s : List Atomic} (h : 2 ≤ s.length) :
    it.of s = (.composite ⟨it.home, it.rows.idxOf s, s⟩,
      { it with rows := if s ∈ it.rows then it.rows else it.rows ++ [s] }) := by
  obtain ⟨a, b, s, rfl⟩ : ∃ a b s', s = a :: b :: s' := by
    match s, h with
    | a :: b :: s, _ => exact ⟨a, b, s, rfl⟩
  simp only [of]
  cases hi : it.rows.idxOf? (a :: b :: s) with
  | some i =>
    have hm : a :: b :: s ∈ it.rows := by
      rw [← List.isSome_idxOf?, hi]; rfl
    rw [if_pos hm, List.idxOf_eq_getD_idxOf?, hi]
    rfl
  | none =>
    rw [List.idxOf?_eq_none_iff] at hi
    rw [if_neg hi, List.idxOf_eq_length hi]

/-- Fewer than two members are answered without the rows. -/
theorem of_short (it it' : Interner) {s : List Atomic} (h : s.length < 2) :
    it'.of s = ((it.of s).1, it') := by
  match s, h with
  | [], _ => rfl
  | [_], _ => rfl

theorem home_of (it : Interner) (s : List Atomic) : (it.of s).2.home = it.home := by
  rcases Nat.lt_or_ge s.length 2 with h | h
  · rw [of_short it it h]
  · rw [of_eq it h]

theorem rows_of (it : Interner) (s : List Atomic) :
    (it.of s).2.rows = if 2 ≤ s.length ∧ s ∉ it.rows then it.rows ++ [s] else it.rows := by
  rcases Nat.lt_or_ge s.length 2 with h | h
  · rw [of_short it it h, if_neg (by omega)]
  · rw [of_eq it h]
    by_cases hm : s ∈ it.rows <;> simp [hm, h]

/-! ## Growing -/

/-- `it'` has all that `it` has registered, at the same places. -/
structure Extends (it it' : Interner) : Prop where
  home : it'.home = it.home
  rows : it.rows <+: it'.rows

theorem Extends.refl (it : Interner) : Extends it it := ⟨rfl, List.prefix_rfl⟩

theorem Extends.trans {a b c : Interner} (h₁ : Extends a b) (h₂ : Extends b c) : Extends a c :=
  ⟨h₂.home.trans h₁.home, h₁.rows.trans h₂.rows⟩

theorem of_extends (it : Interner) (s : List Atomic) : Extends it (it.of s).2 := by
  refine ⟨home_of it s, ?_⟩
  rw [rows_of]
  split
  · exact List.prefix_append _ _
  · exact List.prefix_rfl

/-- The composite at a place of a smaller interner is at the same place of a larger one. -/
theorem Extends.getElem?_composites {it it' : Interner} (h : Extends it it') {i : Nat} {c : Composite}
    (hc : it.composites[i]? = some c) : it'.composites[i]? = some c := by
  obtain ⟨more, hmore⟩ := h.rows
  obtain ⟨hi, -⟩ := List.getElem?_eq_some_iff.1 hc
  unfold composites at *
  rw [← hmore, h.home, List.mapIdx_append, List.getElem?_append_left hi, hc]

theorem mem_rows_of (it : Interner) {s : List Atomic} (h : 2 ≤ s.length) : s ∈ (it.of s).2.rows := by
  rw [rows_of]
  by_cases hm : s ∈ it.rows <;> simp [hm, h]

/-- What is registered is answered in the same way ever after, and is not registered again. -/
theorem Extends.of_eq {it it' : Interner} (h : Extends it it') {s : List Atomic}
    (hs : 2 ≤ s.length → s ∈ it.rows) : it'.of s = ((it.of s).1, it') := by
  rcases Nat.lt_or_ge s.length 2 with hl | hl
  · exact of_short it it' hl
  · have hm := hs hl
    rw [Interner.of_eq it hl, Interner.of_eq it' hl, if_pos (h.rows.subset hm),
      ← h.rows.idxOf_eq_of_mem hm, ← h.home]

/-- A call is answered in the same way ever after. -/
theorem of_of_extends {it it' : Interner} {s : List Atomic} (h : Extends (it.of s).2 it') :
    it'.of s = ((it.of s).1, it') := by
  have again : ((it.of s).2.of s).1 = (it.of s).1 := by
    -- a new row is the first of its kind, so its place is where it was put
    rcases Nat.lt_or_ge s.length 2 with hl | hl
    · rw [of_short it (it.of s).2 hl]
    · rw [Interner.of_eq _ hl, Interner.of_eq it hl]
      by_cases hm : s ∈ it.rows <;> simp [hm, List.idxOf_append]
  rw [h.of_eq (mem_rows_of it), again]

/-- Asking twice is asking once. -/
theorem of_of (it : Interner) (s : List Atomic) : (it.of s).2.of s = it.of s :=
  of_of_extends (Extends.refl _)

/-! ## Which members a type has -/

/-- The members that a sequence stands for: an empty one stands for `void`. -/
def canonical : List Atomic → List Atomic
  | [] => [.void]
  | s => s

theorem canonical_eq {s : List Atomic} (h : s ≠ []) : canonical s = s := by
  cases s with
  | nil => exact absurd rfl h
  | cons a s => rfl

theorem canonical_of_two_le {s : List Atomic} (h : 2 ≤ s.length) : canonical s = s :=
  canonical_eq (List.ne_nil_of_length_pos (by omega))

theorem of_short_atomic (it : Interner) {s : List Atomic} (h : s.length < 2) :
    ∃ a, (it.of s).1 = .atomic a ∧ canonical s = [a] := by
  match s, h with
  | [], _ => exact ⟨.void, rfl, rfl⟩
  | [a], _ => exact ⟨a, rfl, rfl⟩

/-- The type of a sequence has the members that the sequence stands for. -/
theorem flatten_of (it : Interner) (s : List Atomic) : (it.of s).1.flatten = canonical s := by
  rcases Nat.lt_or_ge s.length 2 with h | h
  · obtain ⟨a, ha, hc⟩ := of_short_atomic it h
    rw [ha, hc]; rfl
  · rw [of_eq it h, canonical_of_two_le h]; rfl

/-- One interner gives two sequences the same type exactly when they stand for the same members. -/
theorem identical_of_iff (it : Interner) {s t : List Atomic} (hs : 2 ≤ s.length → s ∈ it.rows) :
    (it.of s).1.identical (it.of t).1 = true ↔ canonical s = canonical t := by
  rcases Nat.lt_or_ge s.length 2 with h₁ | h₁ <;> rcases Nat.lt_or_ge t.length 2 with h₂ | h₂
  · obtain ⟨a, ha, hca⟩ := of_short_atomic it h₁
    obtain ⟨b, hb, hcb⟩ := of_short_atomic it h₂
    rw [ha, hb, hca, hcb]
    simp [Ty.identical]
  · obtain ⟨a, ha, hca⟩ := of_short_atomic it h₁
    rw [ha, of_eq it h₂, hca, canonical_of_two_le h₂]
    simp only [Ty.identical, Bool.false_eq_true, false_iff]
    rintro rfl
    simp at h₂
  · obtain ⟨b, hb, hcb⟩ := of_short_atomic it h₂
    rw [hb, of_eq it h₁, hcb, canonical_of_two_le h₁]
    simp only [Ty.identical, Bool.false_eq_true, false_iff]
    rintro rfl
    simp at h₁
  · -- equal places mean equal rows, since the row of `s` is there
    rw [of_eq it h₁, of_eq it h₂, canonical_of_two_le h₁, canonical_of_two_le h₂]
    simp [Ty.identical, List.idxOf_inj (hs h₁)]

/-! ## Runs of calls -/

/-- An interner with nothing registered. -/
def empty (home : Home) : Interner := { home }

/-- The interner after the calls, one after the other. -/
def after (it : Interner) (calls : List (List Atomic)) : Interner :=
  calls.foldl (fun it s => (it.of s).2) it

/-- The types that the calls are given, in order. -/
def answers (it : Interner) : List (List Atomic) → List Ty
  | [] => []
  | s :: calls => (it.of s).1 :: answers (it.of s).2 calls

@[simp] theorem after_nil (it : Interner) : it.after [] = it := rfl

@[simp] theorem after_cons (it : Interner) (s : List Atomic) (calls : List (List Atomic)) :
    it.after (s :: calls) = (it.of s).2.after calls := rfl

@[simp] theorem after_append (it : Interner) (xs ys : List (List Atomic)) :
    it.after (xs ++ ys) = (it.after xs).after ys := List.foldl_append

theorem after_extends (it : Interner) (calls : List (List Atomic)) : Extends it (it.after calls) := by
  induction calls generalizing it with
  | nil => exact Extends.refl it
  | cons s calls ih => exact (of_extends it s).trans (ih _)

/-- Every call of a run is answered as the interner at the end of the run answers it. -/
theorem answers_eq (it : Interner) (calls : List (List Atomic)) :
    it.answers calls = calls.map fun s => ((it.after calls).of s).1 := by
  induction calls generalizing it with
  | nil => rfl
  | cons s calls ih =>
    rw [answers, ih, List.map_cons, after_cons, of_of_extends (after_extends (it.of s).2 calls)]

theorem mem_zip_answers {it : Interner} {calls : List (List Atomic)} {p : List Atomic × Ty}
    (hp : p ∈ calls.zip (it.answers calls)) :
    p.1 ∈ calls ∧ p.2 = ((it.after calls).of p.1).1 := by
  rw [answers_eq] at hp
  obtain ⟨i, hi, rfl⟩ := List.getElem_of_mem hp
  simp

theorem mem_rows_after (it : Interner) {s : List Atomic} {calls : List (List Atomic)} (hs : s ∈ calls)
    (h : 2 ≤ s.length) : s ∈ (it.after calls).rows := by
  obtain ⟨xs, ys, rfl⟩ := List.append_of_mem hs
  rw [after_append, after_cons]
  exact (after_extends _ ys).rows.subset (mem_rows_of _ h)

/-- The rows after a run are the sequences of two or more, each where it was first asked for. -/
theorem rows_after (home : Home) (calls : List (List Atomic)) :
    ((empty home).after calls).rows = (calls.filter fun s => 2 ≤ s.length).eraseDups := by
  -- on the calls already made, since a call is registered after those before it
  induction calls using List.reverseRecOn with
  | nil => rfl
  | append_singleton calls s ih =>
    rw [after_append, after_cons, after_nil, rows_of, ih, List.filter_append, List.eraseDups_append]
    by_cases hl : 2 ≤ s.length
    · by_cases hm : s ∈ calls <;> simp [hl, hm, List.removeAll, List.eraseDups_cons]
    · simp [hl]

theorem members_composites (it : Interner) : it.composites.map (·.members) = it.rows := by
  unfold composites
  exact List.ext_getElem (by simp) (by simp)

theorem index_of_getElem?_composites {it : Interner} {i : Nat} {c : Composite}
    (h : it.composites[i]? = some c) : c.index = i := by
  unfold composites at h
  rw [List.getElem?_mapIdx, Option.map_eq_some_iff] at h
  obtain ⟨members, -, rfl⟩ := h
  rfl

/-- The composite that a sequence is given is registered once the sequence has a row. -/
theorem of_mem_composites (it : Interner) {s : List Atomic} (h : 2 ≤ s.length) (hs : s ∈ it.rows) :
    ∃ c ∈ it.composites, c.members = s ∧ (it.of s).1 = .composite c := by
  refine ⟨⟨it.home, it.rows.idxOf s, s⟩, ?_, rfl, by rw [of_eq it h]⟩
  unfold composites
  rw [List.mem_mapIdx]
  exact ⟨it.rows.idxOf s, List.idxOf_lt_length_of_mem hs, by rw [List.getElem_idxOf]⟩

/-- What a call of a run is given, in terms of the interner at the end of the run. -/
structure Answered (final : Interner) (s : List Atomic) (t : Ty) : Prop where
  none : s = [] → t = .atomic .void
  one : ∀ a, s = [a] → t = .atomic a
  more : 2 ≤ s.length → ∃ c ∈ final.composites, c.members = s ∧ t = .composite c

theorem answered_of (it : Interner) {s : List Atomic} (hs : 2 ≤ s.length → s ∈ it.rows) :
    Answered it s (it.of s).1 where
  none := by rintro rfl; rfl
  one := by rintro a rfl; rfl
  more h := it.of_mem_composites h (hs h)

/-- After a run of calls on an empty interner the composites are the sequences of two or more, each
where it was first asked for, with the slots of their members; none has changed its place or members
since it was registered; and two calls were given the same type exactly when their sequences stand
for the same members. -/
theorem run_interns_each_once (home : Home) (calls : List (List Atomic)) :
    let final := (empty home).after calls
    let answers := (empty home).answers calls
    final.composites.map (·.members) = (calls.filter fun s => 2 ≤ s.length).eraseDups ∧
    (∀ c ∈ final.composites, 2 ≤ c.members.length ∧
      (Ty.composite c).footprint = ⟨(c.members.map (·.footprint.ints)).sum,
        (c.members.map (·.footprint.strings)).sum, (c.members.map (·.footprint.longs)).sum⟩) ∧
    (∀ (n i : Nat) (c : Composite), ((empty home).after (calls.take n)).composites[i]? = some c →
      c.index = i ∧ final.composites[i]? = some c) ∧
    answers.length = calls.length ∧
    (∀ p ∈ calls.zip answers, Answered final p.1 p.2) ∧
    (∀ p ∈ calls.zip answers, ∀ q ∈ calls.zip answers,
      p.2.identical q.2 = true ↔ canonical p.1 = canonical q.1) := by
  intro final answers
  have hrows : final.composites.map (·.members) = (calls.filter fun s => 2 ≤ s.length).eraseDups := by
    rw [members_composites]; exact rows_after home calls
  refine ⟨hrows, ?_, ?_, ?_, ?_, ?_⟩
  · intro c hc
    have hm : c.members ∈ final.composites.map (·.members) := List.mem_map_of_mem hc
    rw [hrows, List.mem_eraseDups, List.mem_filter] at hm
    exact ⟨by simpa using hm.2, footprint_composite c⟩
  · intro n i c h
    refine ⟨index_of_getElem?_composites h, ?_⟩
    have hext := after_extends ((empty home).after (calls.take n)) (calls.drop n)
    rw [← after_append, List.take_append_drop] at hext
    exact hext.getElem?_composites h
  · rw [show answers = _ from answers_eq (empty home) calls, List.length_map]
  · intro p hp
    obtain ⟨hm, he⟩ := mem_zip_answers hp
    rw [he]
    exact answered_of final (mem_rows_after _ hm)
  · intro p hp q hq
    obtain ⟨hm, he⟩ := mem_zip_answers hp
    rw [he, (mem_zip_answers hq).2]
    exact identical_of_iff final (mem_rows_after _ hm)

end Interner

end StackTypes
