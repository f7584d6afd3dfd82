/-
States of an interner, and the types that belong to one. Whatever an interner has been asked for, its
rows are different and have two members at least; so a type that belongs to it is known by its
members, and asking for these gives the type back and registers nothing.
-/
import StackTypes.Proofs.Interner
import Mathlib.Data.List.Nodup

namespace StackTypes.Interner

/-- The states that an interner can come to: it starts empty and is asked for types. -/
inductive Reachable : Interner → Prop
  | empty (home : Home) : Reachable (empty home)
  | of {it : Interner} (h : Reachable it) (s : List Atomic) : Reachable (it.of s).2

theorem Reachable.after {it : Interner} (h : it.Reachable) (calls : List (List Atomic)) :
    (it.after calls).Reachable := by
  induction calls generalizing it with
  | nil => exact h
  | cons s calls ih => exact ih (h.of s)

/-- No row is registered twice. -/
theorem Reachable.nodup {it : Interner} (h : it.Reachable) : it.rows.Nodup := by
  induction h with
  | empty => exact List.nodup_nil
  | of _ s ih =>
    rw [rows_of]
    split
    · rename_i hs
      exact ih.append (List.nodup_singleton s) (by simpa using hs.2)
    · exact ih

/-- Every row has two members at least. -/
theorem Reachable.two_le {it : Interner} (h : it.Reachable) : ∀ s ∈ it.rows, 2 ≤ s.length := by
  induction h with
  | empty => intro s hs; cases hs
  | of _ s ih =>
    rw [rows_of]
    split
    · rename_i hs
      intro r hr
      rcases List.mem_append.1 hr with hr | hr
      · exact ih r hr
      · obtain rfl := List.mem_singleton.1 hr
        exact hs.1
    · exact ih

/-- The types of an interner: the atomic ones, and the composites that it has registered. -/
inductive Holds (it : Interner) : Ty → Prop
  | atomic (a : Atomic) : Holds it (.atomic a)
  | composite {c : Composite} (h : c ∈ it.composites) : Holds it (.composite c)

/-- A type belongs to its interner ever after. -/
theorem Holds.extends {it it' : Interner} {t : Ty} (ht : it.Holds t) (h : Extends it it') :
    it'.Holds t := by
  cases ht with
  | atomic a => exact .atomic a
  | composite hc =>
    obtain ⟨i, hi⟩ := List.mem_iff_getElem?.1 hc
    exact .composite (List.mem_of_getElem? (h.getElem?_composites hi))

/-- What an interner gives belongs to it. -/
theorem holds_of (it : Interner) (s : List Atomic) : (it.of s).2.Holds (it.of s).1 := by
  rcases Nat.lt_or_ge s.length 2 with h | h
  · obtain ⟨a, ha, -⟩ := of_short_atomic it h
    rw [ha]
    exact .atomic a
  · obtain ⟨c, hc, -, he⟩ := of_mem_composites (it.of s).2 h (mem_rows_of it h)
    rw [of_of] at he
    rw [he]
    exact .composite hc

theorem Reachable.two_le_members {it : Interner} (h : it.Reachable) {c : Composite}
    (hc : c ∈ it.composites) : 2 ≤ c.members.length := by
  refine h.two_le c.members ?_
  rw [← members_composites]
  exact List.mem_map_of_mem hc

theorem Reachable.flatten_ne_nil {it : Interner} (h : it.Reachable) {t : Ty} (ht : it.Holds t) :
    t.flatten ≠ [] := by
  cases ht with
  | atomic a => simp [Ty.flatten]
  | composite hc =>
    have htwo := h.two_le_members hc
    exact List.ne_nil_of_length_pos (Nat.lt_of_lt_of_le Nat.two_pos htwo)

/-- Asking for the members of a type that belongs to the interner gives the type. -/
theorem Reachable.of_flatten {it : Interner} (h : it.Reachable) {t : Ty} (ht : it.Holds t) :
    it.of t.flatten = (t, it) := by
  cases ht with
  | atomic a => rfl
  | composite hc =>
    have htwo := h.two_le_members hc
    unfold composites at hc
    obtain ⟨i, hi, rfl⟩ := List.mem_mapIdx.1 hc
    -- no row stands twice, so the first place of a row is the place it has
    have hidx : it.rows.idxOf it.rows[i] = i := h.nodup.idxOf_getElem i hi
    rw [Ty.flatten, of_eq it htwo, if_pos (List.getElem_mem hi), hidx]

/-- A type of an interner is known by its members. -/
theorem Reachable.eq_of_flatten_eq {it : Interner} (h : it.Reachable) {t u : Ty} (ht : it.Holds t)
    (hu : it.Holds u) (he : t.flatten = u.flatten) : t = u := by
  have htu : (t, it) = (u, it) := by rw [← h.of_flatten ht, he, h.of_flatten hu]
  exact congrArg Prod.fst htu

end StackTypes.Interner
