/-
What trimming does. A byte that is part of no blank stops trimming from either side, so the parts of
a text before and after such a byte are trimmed on their own; blanks of one byte are always dropped,
whatever follows them.
-/
import StackTypes.Text.Blank
import Mathlib.Data.List.Basic

namespace StackTypes

theorem Bytes.dropLead?_append_cons {lead : Bytes} {c : UInt8} (hc : c ∉ lead) (u v : Bytes) :
    Bytes.dropLead? lead (u ++ c :: v) = (Bytes.dropLead? lead u).map (· ++ c :: v) := by
  induction lead generalizing u with
  | nil => simp [Bytes.dropLead?]
  | cons a lead ih =>
    rw [List.mem_cons, not_or] at hc
    cases u with
    | nil => simp [Bytes.dropLead?, Ne.symm hc.1]
    | cons b u =>
      simp only [List.cons_append, Bytes.dropLead?]
      split
      · exact ih hc.2 u
      · rfl

/-- Dropping a lead takes it from the start of the text and nothing else. -/
theorem Bytes.eq_append_of_dropLead? {lead s r : Bytes} (h : Bytes.dropLead? lead s = some r) :
    s = lead ++ r := by
  fun_induction Bytes.dropLead? lead s with
  | case1 s => simpa using h
  | case2 => cases h
  | case3 lead b s ih => rw [List.cons_append, ← ih h]
  | case4 => cases h

namespace Blank

/-! ## Dropping from the start -/

section Drop

variable {ws : List Bytes}

theorem dropOne?_append_cons {c : UInt8} (hc : ∀ w ∈ ws, c ∉ w) (u v : Bytes) :
    dropOne? ws (u ++ c :: v) = (dropOne? ws u).map (· ++ c :: v) := by
  unfold dropOne?
  induction ws with
  | nil => rfl
  | cons w ws ih =>
    rw [List.findSome?_cons, List.findSome?_cons,
      Bytes.dropLead?_append_cons (hc w List.mem_cons_self)]
    cases Bytes.dropLead? w u with
    | some r => rfl
    | none => exact ih fun w hw => hc w (List.mem_cons_of_mem _ hw)

/-- A byte that none of `ws` has ends the dropping. -/
theorem dropAll_append_cons {c : UInt8} (hc : ∀ w ∈ ws, c ∉ w) (u v : Bytes) :
    dropAll ws (u ++ c :: v) = dropAll ws u ++ c :: v := by
  fun_induction dropAll ws u with
  | case1 u hn =>
    rw [dropAll, dropOne?_append_cons hc, hn]
    rfl
  | case2 u r hr hlt ih =>
    rw [dropAll, dropOne?_append_cons hc, hr, Option.map_some]
    simp only [List.length_append, Nat.add_lt_add_iff_right, hlt, if_true, ih]
  | case3 u r hr hge =>
    rw [dropAll, dropOne?_append_cons hc, hr, Option.map_some]
    simp only [List.length_append, Nat.add_lt_add_iff_right, hge, if_false]

theorem dropAll_suffix (s : Bytes) : dropAll ws s <:+ s := by
  fun_induction dropAll ws s with
  | case1 => exact List.suffix_rfl
  | case2 s r hr hlt ih =>
    obtain ⟨w, -, hw⟩ := List.exists_of_findSome?_eq_some hr
    rw [Bytes.eq_append_of_dropLead? hw]
    exact ih.trans (List.suffix_append w r)
  | case3 => exact List.suffix_rfl

/-- What is dropped is made of bytes of `ws`. -/
theorem exists_dropped (s : Bytes) : ∃ u, s = u ++ dropAll ws s ∧ ∀ c ∈ u, ∃ w ∈ ws, c ∈ w := by
  fun_induction dropAll ws s with
  | case1 => exact ⟨[], rfl, by simp⟩
  | case2 s r hr hlt ih =>
    obtain ⟨w, hw, hlead⟩ := List.exists_of_findSome?_eq_some hr
    obtain ⟨u, hu, hc⟩ := ih
    refine ⟨w ++ u, ?_, ?_⟩
    · rw [List.append_assoc, ← hu]
      exact Bytes.eq_append_of_dropLead? hlead
    · intro c hm
      rcases List.mem_append.1 hm with h | h
      · exact ⟨w, hw, h⟩
      · exact hc c h
  | case3 => exact ⟨[], rfl, by simp⟩

/-- Once all are dropped there is nothing more to drop. -/
theorem dropAll_dropAll (s : Bytes) : dropAll ws (dropAll ws s) = dropAll ws s := by
  fun_induction dropAll ws s with
  | case1 s hn => rw [dropAll, hn]
  | case2 s r hr hlt ih => exact ih
  | case3 s r hr hge => rw [dropAll, hr]; simp only [hge, if_false]

/-- `b` alone is one of `ws`, and no other of them starts with `b`. -/
def Lone (ws : List Bytes) (b : UInt8) : Prop :=
  [b] ∈ ws ∧ ∀ w ∈ ws, w ≠ [] ∧ (w.head? = some b → w = [b])

instance (ws : List Bytes) (b : UInt8) : Decidable (Lone ws b) :=
  inferInstanceAs (Decidable (_ ∧ _))

theorem dropOne?_lone {b : UInt8} (hb : Lone ws b) (s : Bytes) : dropOne? ws (b :: s) = some s := by
  obtain ⟨hm, hw⟩ := hb
  unfold dropOne?
  induction ws with
  | nil => cases hm
  | cons w ws ih =>
    obtain ⟨hne, hhead⟩ := hw w List.mem_cons_self
    rw [List.findSome?_cons]
    cases w with
    | nil => exact absurd rfl hne
    | cons a w =>
      simp only [Bytes.dropLead?]
      by_cases ha : a = b
      · obtain ⟨rfl, rfl⟩ : a = b ∧ w = [] := by simpa [ha] using hhead
        simp [Bytes.dropLead?]
      · rw [if_neg ha]
        have hm' : [b] ∈ ws := by
          rcases List.mem_cons.1 hm with h | h
          · exact absurd (List.cons.inj h).1.symm ha
          · exact h
        exact ih hm' fun w hw' => hw w (List.mem_cons_of_mem _ hw')

theorem dropAll_lone_append {u : Bytes} (hu : ∀ b ∈ u, Lone ws b) (s : Bytes) :
    dropAll ws (u ++ s) = dropAll ws s := by
  induction u with
  | nil => rfl
  | cons b u ih =>
    rw [List.cons_append, dropAll, dropOne?_lone (hu b List.mem_cons_self)]
    simp only [List.length_cons, Nat.lt_succ_self, if_true]
    exact ih fun b hb => hu b (List.mem_cons_of_mem _ hb)

end Drop

/-! ## Trimming -/

/-- A byte that is part of no blank. -/
def Solid (c : UInt8) : Prop := ∀ w ∈ spellings, c ∉ w

instance (c : UInt8) : Decidable (Solid c) := inferInstanceAs (Decidable (∀ w ∈ spellings, c ∉ w))

/-- The blanks of one byte. -/
def asciiBlanks : Bytes := [0x09, 0x0A, 0x0B, 0x0C, 0x0D, 0x20]

/-- No other byte below 0x80 is part of a blank. -/
theorem solid_of_ascii {c : UInt8} (h : c < 0x80) (hc : c ∉ asciiBlanks) : Solid c := by
  have all : ∀ w ∈ spellings, ∀ c ∈ w, c ∈ asciiBlanks ∨ ¬ c < 0x80 := by decide +kernel
  intro w hw hm
  rcases all w hw c hm with h' | h'
  · exact hc h'
  · exact h' h

theorem lone_asciiBlanks : ∀ b ∈ asciiBlanks,
    Lone spellings b ∧ Lone (spellings.map List.reverse) b := by
  decide +kernel

@[simp] theorem trimStart_nil : trimStart [] = [] := by decide +kernel

@[simp] theorem trimEnd_nil : trimEnd [] = [] := by decide +kernel

theorem trimStart_append_solid {c : UInt8} (hc : Solid c) (u v : Bytes) :
    trimStart (u ++ c :: v) = trimStart u ++ c :: v :=
  dropAll_append_cons hc u v

theorem trimEnd_append_solid {c : UInt8} (hc : Solid c) (u v : Bytes) :
    trimEnd (u ++ c :: v) = u ++ c :: trimEnd v := by
  have hrev : ∀ w ∈ spellings.map List.reverse, c ∉ w := by
    intro w hw
    obtain ⟨x, hx, rfl⟩ := List.mem_map.1 hw
    rw [List.mem_reverse]
    exact hc x hx
  unfold trimEnd
  rw [show (u ++ c :: v).reverse = v.reverse ++ c :: u.reverse by simp, dropAll_append_cons hrev]
  simp

/-- Blanks of one byte are dropped from the start. -/
theorem trimStart_blanks_append {u : Bytes} (hu : ∀ b ∈ u, b ∈ asciiBlanks) (s : Bytes) :
    trimStart (u ++ s) = trimStart s :=
  dropAll_lone_append (fun b hb => (lone_asciiBlanks b (hu b hb)).1) s

/-- Blanks of one byte are dropped from the end. -/
theorem trimEnd_append_blanks {u : Bytes} (hu : ∀ b ∈ u, b ∈ asciiBlanks) (s : Bytes) :
    trimEnd (s ++ u) = trimEnd s := by
  unfold trimEnd
  rw [List.reverse_append, dropAll_lone_append]
  intro b hb
  exact (lone_asciiBlanks b (hu b (List.mem_reverse.1 hb))).2

theorem trim_trimStart (s : Bytes) : trim (trimStart s) = trim s := by
  unfold trim trimStart
  rw [dropAll_dropAll]

/-- A text is trimmed on either side of a byte that is part of no blank. -/
theorem trim_append_solid {c : UInt8} (hc : Solid c) (u v : Bytes) :
    trim (u ++ c :: v) = trimStart u ++ c :: trimEnd v := by
  unfold trim
  rw [trimStart_append_solid hc, trimEnd_append_solid hc]

theorem trimEnd_of_solid {s : Bytes} (hs : ∀ c ∈ s, Solid c) : trimEnd s = s := by
  induction s with
  | nil => exact trimEnd_nil
  | cons c s ih =>
    rw [← List.nil_append (c :: s), trimEnd_append_solid (hs c List.mem_cons_self),
      ih fun c hc => hs c (List.mem_cons_of_mem _ hc)]

/-- Trimming takes away bytes of blanks only. -/
theorem exists_trimmed (s : Bytes) :
    ∃ l r, s = l ++ trim s ++ r ∧ (∀ c ∈ l, ¬ Solid c) ∧ ∀ c ∈ r, ¬ Solid c := by
  obtain ⟨l, hl, hlc⟩ := @exists_dropped spellings s
  obtain ⟨r, hr, hrc⟩ :=
    @exists_dropped (spellings.map List.reverse) (dropAll spellings s).reverse
  refine ⟨l, r.reverse, ?_, ?_, ?_⟩
  · have hend : dropAll spellings s = trim s ++ r.reverse := by
      rw [← List.reverse_reverse (dropAll spellings s), hr, List.reverse_append]
      rfl
    rw [List.append_assoc, ← hend]
    exact hl
  · intro c hc hs
    obtain ⟨w, hw, hm⟩ := hlc c hc
    exact hs w hw hm
  · intro c hc hs
    obtain ⟨w, hw, hm⟩ := hrc c (List.mem_reverse.1 hc)
    obtain ⟨v, hv, rfl⟩ := List.mem_map.1 hw
    exact hs v hv (List.mem_reverse.1 hm)

end Blank

end StackTypes
