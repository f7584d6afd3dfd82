/-
Types as they are displayed, read as descriptors. A composite is displayed as its members with a comma
and a blank between them; in braces this is a group, and reading the group asks the interner for these
members. So braces around the text of a type give the type back, and types that are displayed alike
are the same. Without braces the text of a composite is no descriptor: it is no name, since it has a
comma, and no group.
-/
import StackTypes.Proofs.Descriptor.Written
import StackTypes.Proofs.Interner.Reachable
import Mathlib.Data.List.TakeWhile

namespace StackTypes.Descriptor

open Blank

/-! ## The text of a list of members -/

theorem memberText_singleton (a : Atomic) : memberText [a] = a.name := by
  simp [memberText, Bytes.joinWith]

theorem memberText_cons_cons (a b : Atomic) (s : List Atomic) :
    memberText (a :: b :: s) = a.name ++ comma :: 0x20 :: memberText (b :: s) := by
  have hsep : utf8 ", " = [comma, 0x20] := by decide +kernel
  simp [memberText, Bytes.joinWith, hsep]

theorem toText_eq (t : Ty) : t.toText = memberText t.flatten := by
  cases t with
  | atomic a => exact (memberText_singleton a).symm
  | composite c => rfl

/-- It is the inside of a group without further groups. -/
theorem exists_members {s : List Atomic} (h : s ≠ []) (left : Padding) :
    ∃ ms : Members, ms.render = left.1 ++ memberText s ∧ ms.leaves = s ∧ ms.groups = [] := by
  -- on the members, where those after the first have a blank in front
  induction s generalizing left with
  | nil => exact absurd rfl h
  | cons a s ih =>
    cases s with
    | nil =>
      refine ⟨.one left (.leaf a) ⟨[], by simp⟩, ?_, rfl, rfl⟩
      rw [Members.render, Tree.render, memberText_singleton, List.append_nil]
    | cons b s =>
      obtain ⟨ms, hrender, hleaves, hgroups⟩ := ih (by simp) ⟨[0x20], by decide +kernel⟩
      refine ⟨.cons left (.leaf a) ⟨[], by simp⟩ ms, ?_, ?_, ?_⟩
      · rw [Members.render, Tree.render, hrender, memberText_cons_cons]
        simp
      · rw [Members.leaves, Tree.leaves, hleaves]
        rfl
      · rw [Members.groups, Tree.groups, hgroups]
        rfl

theorem openBrace_not_mem_memberText (s : List Atomic) : openBrace ∉ memberText s := by
  induction s with
  | nil => simp [memberText, Bytes.joinWith]
  | cons a s ih =>
    have hname : openBrace ∉ a.name := fun hm => (plain_of_mem_name hm).1 rfl
    cases s with
    | nil => rwa [memberText_singleton]
    | cons b s =>
      rw [memberText_cons_cons, List.mem_append, List.mem_cons, List.mem_cons]
      rintro (hm | hm | hm | hm)
      · exact hname hm
      · exact absurd hm (by decide)
      · exact absurd hm (by decide)
      · exact ih hm

theorem comma_mem_memberText {s : List Atomic} (h : 2 ≤ s.length) : comma ∈ memberText s := by
  match s, h with
  | a :: b :: s, _ =>
    rw [memberText_cons_cons]
    simp

/-! ## Reading it -/

/-- Reading the group of some members asks for the members. -/
theorem parse_braced {s : List Atomic} (h : s ≠ []) (it : Interner) :
    parse (openBrace :: memberText s ++ [closeBrace]) it = (some (it.of s).1, (it.of s).2) := by
  obtain ⟨ms, hrender, hleaves, hgroups⟩ := exists_members h ⟨[], by simp⟩
  have hread := parse_group (List.not_mem_nil (a := openBrace)) ms ⟨[], by simp⟩ it (ms.readMembers_parts it)
  rw [hrender, hleaves, hgroups] at hread
  simpa [Interner.of_of] using hread

theorem memberText_eq_nil {s : List Atomic} (h : memberText s = []) : s = [] := by
  match s with
  | [] => rfl
  | [a] => exact absurd (memberText_singleton a ▸ h) (name_bytes a).1
  | a :: b :: s =>
    rw [memberText_cons_cons] at h
    simp at h

/-- No two lists of members have the same text: in braces, it is read as the members. -/
theorem memberText_injective : Function.Injective memberText := by
  intro s t h
  by_cases hs : s = []
  · subst hs
    exact (memberText_eq_nil h.symm).symm
  · have ht : t ≠ [] := fun ht => hs (memberText_eq_nil (h.trans (congrArg memberText ht)))
    have hread := parse_braced hs .shared
    rw [h, parse_braced ht, Prod.mk.injEq, Option.some.injEq] at hread
    have hflat := congrArg Ty.flatten hread.1
    rw [Interner.flatten_of, Interner.flatten_of, Interner.canonical_eq ht,
      Interner.canonical_eq hs] at hflat
    exact hflat.symm

theorem body?_eq_none {s : Bytes} (h : openBrace ∉ s) : body? s = none := by
  have hdrop : s.dropWhile (· != openBrace) = [] := by
    rw [List.dropWhile_eq_nil_iff]
    intro c hc
    simpa using ne_of_mem_of_not_mem hc h
  unfold body?
  rw [hdrop]

theorem parse_memberText {s : List Atomic} (h : 2 ≤ s.length) (it : Interner) :
    parse (memberText s) it = (none, it) := by
  rw [parse_eq, ofName?_eq_none (comma_mem_memberText h) (by decide),
    body?_eq_none (openBrace_not_mem_memberText s)]

theorem parse_braced_toText {it : Interner} (h : it.Reachable) {t : Ty} (ht : it.Holds t) :
    parse (openBrace :: t.toText ++ [closeBrace]) it = (some t, it) := by
  rw [toText_eq, parse_braced (h.flatten_ne_nil ht), h.of_flatten ht]

/-- In every state of an interner, the text of a type of it in braces is read as that very type, and
nothing is registered; no two types of it are displayed alike; and the text of a composite without
braces is not read in any state. -/
theorem text_identifies_type {it : Interner} (h : it.Reachable) :
    (∀ t, it.Holds t → parse (openBrace :: t.toText ++ [closeBrace]) it = (some t, it)) ∧
    (∀ t u, it.Holds t → it.Holds u → t.toText = u.toText → t = u) ∧
    ∀ c ∈ it.composites, ∀ it', parse (Ty.composite c).toText it' = (none, it') := by
  refine ⟨fun t ht => parse_braced_toText h ht, ?_, ?_⟩
  · intro t u ht hu he
    have hread : (some t, it) = (some u, it) := by
      rw [← parse_braced_toText h ht, he, parse_braced_toText h hu]
    exact Option.some.inj (congrArg Prod.fst hread)
  · intro c hc it'
    exact parse_memberText (h.two_le_members hc) it'

/-- Two composites with the same members in another order. -/
theorem text_of_swapped_pair :
    let it := (Interner.empty .shared).after [[.unknown, .intArray], [.intArray, .unknown]]
    let c : Composite := ⟨.shared, 1, [.intArray, .unknown]⟩
    it.Reachable ∧ it.Holds (.composite c) ∧
      parse (utf8 "\x7bint[], ??\x7d") it = (some (.composite c), it) ∧
      parse (utf8 "int[], ??") it = (none, it) := by
  intro it c
  have h : it.Reachable := (Interner.Reachable.empty .shared).after _
  have hc : c ∈ it.composites := by decide +kernel
  have htext : (Ty.composite c).toText = utf8 "int[], ??" := by decide +kernel
  have hbraced : utf8 "\x7bint[], ??\x7d" = openBrace :: (Ty.composite c).toText ++ [closeBrace] := by
    decide +kernel
  obtain ⟨hread, -, hbare⟩ := text_identifies_type h
  refine ⟨h, .composite hc, ?_, ?_⟩
  · rw [hbraced]
    exact hread _ (.composite hc)
  · rw [← htext]
    exact hbare c hc it

end StackTypes.Descriptor
