/-
Where a text is split, and why reading ends. The depth that splitting carries along is the number of
opening braces so far less the closing ones, across parts and below zero too. So the boundaries between
the parts are the commas in front of which as many braces close as open, and no other place. A part is
thus no longer than the text, a member shorter than its group, and every reading comes to an end.
-/
import StackTypes.Proofs.Descriptor.Again

namespace StackTypes.Descriptor

/-! ## Boundaries -/

/-- The places of the commas between the parts, in the text that they are parts of. -/
def boundaries : List Bytes → List Nat
  | [] => []
  | [_] => []
  | p :: q :: parts => p.length :: (boundaries (q :: parts)).map (p.length + 1 + ·)

/-- The places of the commas in front of which as many braces open as close. -/
def outerCommas (s : Bytes) : List Nat :=
  (List.range s.length).filter fun i =>
    s[i]? = some comma ∧ (s.take i).count openBrace = (s.take i).count closeBrace

/-- The same for a text that starts at some depth. -/
def commasFrom (depth : Int) (s : Bytes) : List Nat :=
  (List.range s.length).filter fun i => s[i]? = some comma ∧ excess (s.take i) = depth

theorem length_boundaries {parts : List Bytes} (h : parts ≠ []) :
    parts.length = (boundaries parts).length + 1 := by
  induction parts with
  | nil => exact absurd rfl h
  | cons p parts ih =>
    cases parts with
    | nil => rfl
    | cons q parts =>
      rw [boundaries, List.length_cons, ih (by simp), List.length_cons, List.length_map]

theorem boundaries_nil_cons {parts : List Bytes} (h : parts ≠ []) :
    boundaries ([] :: parts) = 0 :: (boundaries parts).map (· + 1) := by
  cases parts with
  | nil => exact absurd rfl h
  | cons q parts => simp [boundaries, Nat.add_comm]

theorem boundaries_consFirst (c : UInt8) {parts : List Bytes} (h : parts ≠ []) :
    boundaries (consFirst c parts) = (boundaries parts).map (· + 1) := by
  rcases parts with _ | ⟨p, _ | ⟨q, parts⟩⟩
  · exact absurd rfl h
  · rfl
  · simp only [consFirst, boundaries, List.length_cons, List.map_cons, List.map_map,
      Function.comp_def]
    congr 1
    refine List.map_congr_left fun i _ => ?_
    omega

/-! ## Depth -/

/-- The depth is what braces in front have opened and not closed. -/
theorem excess_cons_eq_iff (c : UInt8) (p : Bytes) (depth : Int) :
    excess (c :: p) = depth ↔ excess p = depthAfter depth c := by
  unfold depthAfter
  by_cases ho : c = openBrace
  · rw [if_pos ho, ho, excess_openBrace]
    omega
  · rw [if_neg ho]
    unfold excess
    rw [List.count_cons_of_ne ho]
    by_cases hc : c = closeBrace
    · rw [if_pos hc, hc, List.count_cons_self]
      omega
    · rw [if_neg hc, List.count_cons_of_ne hc]

theorem commasFrom_cons (depth : Int) (c : UInt8) (s : Bytes) :
    commasFrom depth (c :: s) =
      (if c = comma ∧ depth = 0 then [0] else []) ++ (commasFrom (depthAfter depth c) s).map (· + 1) := by
  have hrest : (List.range s.length).filter
      ((fun i => decide ((c :: s)[i]? = some comma ∧ excess ((c :: s).take i) = depth)) ∘ Nat.succ) =
        commasFrom (depthAfter depth c) s := by
    refine List.filter_congr fun i _ => ?_
    simp [excess_cons_eq_iff]
  have hfirst : ((c :: s)[0]? = some comma ∧ excess ((c :: s).take 0) = depth) ↔
      c = comma ∧ depth = 0 := by
    rw [List.getElem?_cons_zero, Option.some_inj, List.take_zero]
    exact and_congr_right fun _ => eq_comm
  unfold commasFrom at hrest ⊢
  rw [List.length_cons, List.range_succ_eq_map, List.filter_cons, List.filter_map, hrest]
  by_cases h : c = comma ∧ depth = 0
  · rw [if_pos (decide_eq_true (hfirst.2 h)), if_pos h]
    rfl
  · rw [if_neg fun hd => h (hfirst.1 (of_decide_eq_true hd)), if_neg h]
    rfl

theorem boundaries_splitFrom (depth : Int) (s : Bytes) :
    boundaries (splitFrom depth s) = commasFrom depth s := by
  -- on the text, for every depth: what follows a byte starts at the depth after it
  induction s generalizing depth with
  | nil => rfl
  | cons c s ih =>
    rw [splitFrom, commasFrom_cons]
    split
    · rename_i h
      obtain ⟨rfl, rfl⟩ := h
      rw [boundaries_nil_cons (splitFrom_ne_nil _ _), ih]
      rfl
    · rw [boundaries_consFirst c (splitFrom_ne_nil _ _), ih]
      rfl

theorem boundaries_splitMembers (s : Bytes) : boundaries (splitMembers s) = outerCommas s := by
  rw [splitMembers, boundaries_splitFrom]
  unfold commasFrom outerCommas excess
  refine List.filter_congr fun i _ => decide_eq_decide.2 (and_congr_right fun _ => ?_)
  omega

/-! ## Finished readings -/

mutual

/-- A reading that has come to its end: what it gives, and the interner afterwards. -/
inductive Reads : Bytes → Interner → Option Ty → Interner → Prop
  | name {s : Bytes} {a : Atomic} (hs : Atomic.ofName? s = some a) (it : Interner) :
      Reads s it (some (.atomic a)) it
  | refused {s : Bytes} (hs : Atomic.ofName? s = none) (hb : body? s = none) (it : Interner) :
      Reads s it none it
  | stuck {s b : Bytes} {it it' : Interner} (hs : Atomic.ofName? s = none) (hb : body? s = some b)
      (h : ReadsAll (splitMembers b) it none it') : Reads s it none it'
  | group {s b : Bytes} {members : List Atomic} {it it' : Interner} (hs : Atomic.ofName? s = none)
      (hb : body? s = some b) (h : ReadsAll (splitMembers b) it (some members) it') :
      Reads s it (some (it'.of members).1) (it'.of members).2

/-- The members of a group read from left to right, up to the first that cannot be. -/
inductive ReadsAll : List Bytes → Interner → Option (List Atomic) → Interner → Prop
  | nil (it : Interner) : ReadsAll [] it (some []) it
  | stuck {p : Bytes} {it it' : Interner} (h : Reads (Blank.trim p) it none it') (parts : List Bytes) :
      ReadsAll (p :: parts) it none it'
  | cons {p : Bytes} {parts : List Bytes} {t : Ty} {rest : Option (List Atomic)}
      {it it₁ it₂ : Interner} (h : Reads (Blank.trim p) it (some t) it₁)
      (hs : ReadsAll parts it₁ rest it₂) :
      ReadsAll (p :: parts) it (rest.map (t.flatten ++ ·)) it₂

end

theorem readMembers_cons_none {read : Bytes → Interner → Option Ty × Interner} {p : Bytes}
    {it it' : Interner} (h : read (Blank.trim p) it = (none, it')) (parts : List Bytes) :
    readMembers read (p :: parts) it = (none, it') := by
  rw [readMembers, h]

theorem readMembers_cons_some {read : Bytes → Interner → Option Ty × Interner} {p : Bytes} {t : Ty}
    {it it' : Interner} (h : read (Blank.trim p) it = (some t, it')) (parts : List Bytes) :
    readMembers read (p :: parts) it =
      ((readMembers read parts it').1.map (t.flatten ++ ·), (readMembers read parts it').2) := by
  rw [readMembers, h]
  dsimp only
  rcases readMembers read parts it' with ⟨_ | members, it₂⟩ <;> rfl

theorem readsAll_readMembers {parts : List Bytes}
    (h : ∀ p ∈ parts, ∀ it, Reads (Blank.trim p) it (parse (Blank.trim p) it).1
      (parse (Blank.trim p) it).2) (it : Interner) :
    ReadsAll parts it (readMembers parse parts it).1 (readMembers parse parts it).2 := by
  induction parts generalizing it with
  | nil => exact .nil it
  | cons p parts ih =>
    obtain ⟨hp, hparts⟩ := List.forall_mem_cons.1 h
    have hfirst := hp it
    rcases hread : parse (Blank.trim p) it with ⟨_ | t, it₁⟩
    · rw [hread] at hfirst
      rw [readMembers_cons_none hread]
      exact .stuck hfirst parts
    · rw [hread] at hfirst
      rw [readMembers_cons_some hread]
      exact .cons hfirst (ih hparts it₁)

/-- Every reading comes to an end. -/
theorem reads_parse (s : Bytes) : ∀ it, Reads s it (parse s it).1 (parse s it).2 := by
  induction s using members_induction with
  | step s ih =>
    intro it
    rw [parse_eq]
    cases hs : Atomic.ofName? s with
    | some a => exact .name hs it
    | none =>
      cases hb : body? s with
      | none => exact .refused hs hb it
      | some b =>
        have hall := readsAll_readMembers (ih b hb) it
        dsimp only
        rcases hread : readMembers parse (splitMembers b) it with ⟨_ | members, it₁⟩
        · rw [hread] at hall
          exact .stuck hs hb hall
        · rw [hread] at hall
          exact .group hs hb hall

mutual

/-- It comes to one end only. -/
theorem Reads.parse_eq {s : Bytes} {it it' : Interner} {r : Option Ty} :
    Reads s it r it' → parse s it = (r, it')
  | .name hs it => by rw [Descriptor.parse_eq, hs]
  | .refused hs hb it => by rw [Descriptor.parse_eq, hs, hb]
  | .stuck hs hb h => by simp only [Descriptor.parse_eq s, hs, hb, h.readMembers_eq]
  | .group hs hb h => by simp only [Descriptor.parse_eq s, hs, hb, h.readMembers_eq]

theorem ReadsAll.readMembers_eq {parts : List Bytes} {it it' : Interner} {r : Option (List Atomic)} :
    ReadsAll parts it r it' → readMembers parse parts it = (r, it')
  | .nil it => rfl
  | .stuck h parts => readMembers_cons_none h.parse_eq parts
  | .cons h hs => by rw [readMembers_cons_some h.parse_eq, hs.readMembers_eq]

end

/-- To read the one text, the other is read as a member. -/
def Calls (s t : Bytes) : Prop :=
  Atomic.ofName? s = none ∧ ∃ b, body? s = some b ∧ ∃ p ∈ splitMembers b, t = Blank.trim p

/-- Splitting loses nothing, and splits at the commas in front of which as many braces open as close
and nowhere else. So a part is no longer than the text, and what is read as a member of a text is
shorter than it; reading comes to an end, and to no other than the one that `parse` gives. -/
theorem splits_at_outer_commas (s : Bytes) :
    Bytes.joinWith [comma] (splitMembers s) = s ∧
    boundaries (splitMembers s) = outerCommas s ∧
    (splitMembers s).length = (outerCommas s).length + 1 ∧
    (∀ p ∈ splitMembers s, p.length ≤ s.length) ∧
    (∀ t, Calls s t → t.length < s.length) ∧
    ∀ it, Reads s it (parse s it).1 (parse s it).2 ∧
      ∀ r it', Reads s it r it' → parse s it = (r, it') := by
  refine ⟨joinWith_splitFrom 0 s, boundaries_splitMembers s, ?_, ?_, ?_, ?_⟩
  · rw [← boundaries_splitMembers]
    exact length_boundaries (splitFrom_ne_nil 0 s)
  · intro p hp
    exact length_le_of_mem_splitFrom hp
  · rintro t ⟨-, b, hb, p, hp, rfl⟩
    exact length_trim_lt hb hp
  · intro it
    exact ⟨reads_parse s it, fun r it' h => h.parse_eq⟩

end StackTypes.Descriptor
