/-
Reading back what is written. A written descriptor is the name of an atomic type or a group, with a
choice of names and blanks wherever the notation leaves one; its kinds of text carry the conditions
on them, so every value is a text that one may write. Reading such a text gives the type of its
leaves from left to right, and registers the leaves of its groups, inner groups first.

A member is trimmed twice, once as the start of the body and once on its own. Only blanks are lost,
and those in front of a brace belong to a name that does not matter.
-/
import StackTypes.Proofs.Descriptor.Split
import StackTypes.Proofs.Interner
import StackTypes.Proofs.Text.Blank
import Mathlib.Data.List.Nodup

namespace StackTypes.Descriptor

open Blank

/-! ## Written descriptors -/

/-- Blanks that may stand around a member. -/
abbrev Padding := { s : Bytes // ∀ c ∈ s, c ∈ asciiBlanks }

/-- The name of a group inside another. -/
abbrev InnerName := { s : Bytes // ∀ c ∈ s, Plain c }

/-- The name of a group that is not inside another. -/
abbrev OuterName := { s : Bytes // openBrace ∉ s }

mutual

/-- A member of a group. -/
inductive Tree where
  | leaf (a : Atomic)
  | group (name : InnerName) (members : Members)

/-- The members of a group, each between its blanks; there is at least one. -/
inductive Members where
  | one (left : Padding) (t : Tree) (right : Padding)
  | cons (left : Padding) (t : Tree) (right : Padding) (rest : Members)

end

/-- A whole descriptor. Blanks may follow it when it is a group. -/
inductive Written where
  | leaf (a : Atomic)
  | group (name : OuterName) (members : Members) (trail : Padding)

mutual

/-- The text of a member. -/
def Tree.render : Tree → Bytes
  | .leaf a => a.name
  | .group name ms => name.1 ++ openBrace :: ms.render ++ [closeBrace]

/-- The text between the braces of a group. -/
def Members.render : Members → Bytes
  | .one l t r => l.1 ++ t.render ++ r.1
  | .cons l t r ms => l.1 ++ t.render ++ r.1 ++ comma :: ms.render

end

/-- The text of a descriptor. -/
def Written.render : Written → Bytes
  | .leaf a => a.name
  | .group name ms trail => name.1 ++ openBrace :: ms.render ++ closeBrace :: trail.1

/-- An inner group with a name, an outer one without, and a blank after a comma. -/
example : (Written.group ⟨[], by simp⟩ (.cons ⟨[], by simp⟩ (.leaf .int) ⟨[], by simp⟩
    (.one ⟨[0x20], by decide +kernel⟩ (.group ⟨utf8 "p", by decide +kernel⟩
      (.one ⟨[], by simp⟩ (.leaf .long) ⟨[], by simp⟩)) ⟨[], by simp⟩)) ⟨[], by simp⟩).render =
    utf8 "\x7bint, p\x7blong\x7d\x7d" := by
  decide +kernel

mutual

/-- The atomic types of a member from left to right. -/
def Tree.leaves : Tree → List Atomic
  | .leaf a => [a]
  | .group _ ms => ms.leaves

/-- The atomic types of all members from left to right. -/
def Members.leaves : Members → List Atomic
  | .one _ t _ => t.leaves
  | .cons _ t _ ms => t.leaves ++ ms.leaves

end

/-- The atomic types of a descriptor from left to right. -/
def Written.leaves : Written → List Atomic
  | .leaf a => [a]
  | .group _ ms _ => ms.leaves

mutual

/-- The leaves of each group of a member, a group after the groups inside it. -/
def Tree.groups : Tree → List (List Atomic)
  | .leaf _ => []
  | .group _ ms => ms.groups ++ [ms.leaves]

/-- The leaves of each group of the members, a group after the groups inside it. -/
def Members.groups : Members → List (List Atomic)
  | .one _ t _ => t.groups
  | .cons _ t _ ms => t.groups ++ ms.groups

end

/-- The leaves of each group of a descriptor, a group after the groups inside it. -/
def Written.groups : Written → List (List Atomic)
  | .leaf _ => []
  | .group _ ms _ => ms.groups ++ [ms.leaves]

mutual

theorem Tree.leaves_ne_nil : (t : Tree) → t.leaves ≠ []
  | .leaf _ => by simp [Tree.leaves]
  | .group _ ms => by rw [Tree.leaves]; exact ms.leaves_ne_nil

theorem Members.leaves_ne_nil : (ms : Members) → ms.leaves ≠ []
  | .one _ t _ => by rw [Members.leaves]; exact t.leaves_ne_nil
  | .cons _ t _ _ => by
    rw [Members.leaves]
    exact List.append_ne_nil_of_left_ne_nil t.leaves_ne_nil _

end

/-! ## Bytes of names and blanks -/

theorem mem_catalog (a : Atomic) : a ∈ Atomic.catalog := by
  cases a <;> decide

theorem nodup_names : (Atomic.catalog.map Atomic.name).Nodup := by
  decide +kernel

/-- An atomic type is found by its name. -/
theorem ofName?_name (a : Atomic) : Atomic.ofName? a.name = some a := by
  unfold Atomic.ofName?
  cases h : Atomic.catalog.find? fun b => b.name == a.name with
  | none => simpa using List.find?_eq_none.1 h a (mem_catalog a)
  | some b =>
    have hb : b.name = a.name := by simpa using List.find?_some h
    rw [List.inj_on_of_nodup_map nodup_names (mem_catalog b) (mem_catalog a) hb]

/-- Names are not empty, and have no blanks and nothing that splits a descriptor. -/
theorem name_bytes (a : Atomic) :
    a.name ≠ [] ∧ ∀ c ∈ a.name, c < 0x80 ∧ c ∉ asciiBlanks ∧ Plain c := by
  have all : ∀ a ∈ Atomic.catalog,
      a.name ≠ [] ∧ ∀ c ∈ a.name, c < 0x80 ∧ c ∉ asciiBlanks ∧ Plain c := by
    decide +kernel
  exact all a (mem_catalog a)

theorem solid_of_mem_name {a : Atomic} {c : UInt8} (h : c ∈ a.name) : Solid c :=
  solid_of_ascii ((name_bytes a).2 c h).1 ((name_bytes a).2 c h).2.1

theorem plain_of_mem_name {a : Atomic} {c : UInt8} (h : c ∈ a.name) : Plain c :=
  ((name_bytes a).2 c h).2.2

/-- A text with a brace or a comma in it names no atomic type. -/
theorem ofName?_eq_none {s : Bytes} {c : UInt8} (hm : c ∈ s) (hc : ¬ Plain c) :
    Atomic.ofName? s = none := by
  unfold Atomic.ofName?
  rw [List.find?_eq_none]
  intro a _ ha
  rw [beq_iff_eq] at ha
  rw [← ha] at hm
  exact hc (plain_of_mem_name hm)

theorem plain_of_padding (p : Padding) : ∀ c ∈ p.1, Plain c := by
  have all : ∀ c ∈ asciiBlanks, Plain c := by decide +kernel
  exact fun c hc => all c (p.2 c hc)

theorem solid_openBrace : Solid openBrace := solid_of_ascii (by decide) (by decide)

theorem solid_closeBrace : Solid closeBrace := solid_of_ascii (by decide) (by decide)

theorem solid_comma : Solid comma := solid_of_ascii (by decide) (by decide)

/-! ## Splitting and trimming what is written -/

theorem Passed.padded {depth : Int} {p : Bytes} (hp : Passed depth p) (l r : Padding) :
    Passed depth (l.1 ++ p ++ r.1) :=
  ((passed_plain (plain_of_padding l)).append hp).append (passed_plain (plain_of_padding r))

mutual

/-- A member is passed over as a whole, however deep it stands. -/
theorem Tree.passed : (t : Tree) → {depth : Int} → 0 ≤ depth → Passed depth t.render
  | .leaf a, _, _ => by
    rw [Tree.render]
    exact passed_plain fun c hc => plain_of_mem_name hc
  | .group name ms, _, h => by
    rw [Tree.render]
    exact Passed.group name.2 (ms.passed h)

/-- Inside braces all members are passed over together. -/
theorem Members.passed : (ms : Members) → {depth : Int} → 0 ≤ depth → Passed (depth + 1) ms.render
  | .one l t r, _, h => by
    rw [Members.render]
    exact (t.passed (by omega)).padded l r
  | .cons l t r ms, _, h => by
    -- one level down the depth is positive, so the comma does not split
    rw [Members.render, ← List.singleton_append (l := ms.render), ← List.append_assoc]
    exact (((t.passed (by omega)).padded l r).append (passed_comma (by omega))).append (ms.passed h)

end

theorem Tree.passed_padded (t : Tree) (l r : Padding) : Passed 0 (l.1 ++ t.render ++ r.1) :=
  (t.passed (by omega)).padded l r

theorem trimStart_leaf (l r : Padding) (a : Atomic) :
    trimStart (l.1 ++ a.name ++ r.1) = a.name ++ r.1 := by
  obtain ⟨c, v, hcv⟩ := List.exists_cons_of_ne_nil (name_bytes a).1
  have hc : Solid c := solid_of_mem_name (a := a) (by rw [hcv]; exact List.mem_cons_self)
  have := trimStart_append_solid hc [] (v ++ r.1)
  rw [List.append_assoc, trimStart_blanks_append l.2, hcv]
  simpa using this

theorem trimStart_group (l r : Padding) (name : Bytes) (ms : Members) :
    trimStart (l.1 ++ (name ++ openBrace :: ms.render ++ [closeBrace]) ++ r.1) =
      trimStart name ++ openBrace :: ms.render ++ [closeBrace] ++ r.1 := by
  have := trimStart_append_solid solid_openBrace name (ms.render ++ [closeBrace] ++ r.1)
  rw [List.append_assoc, trimStart_blanks_append l.2]
  simpa using this

theorem plain_trimStart (name : InnerName) : ∀ c ∈ trimStart name.1, Plain c :=
  fun c hc => name.2 c ((dropAll_suffix name.1).subset hc)

theorem passed_trimStart (l r : Padding) (t : Tree) :
    Passed 0 (trimStart (l.1 ++ t.render ++ r.1)) := by
  cases t with
  | leaf a =>
    rw [Tree.render, trimStart_leaf]
    exact (passed_plain fun c hc => plain_of_mem_name hc).append (passed_plain (plain_of_padding r))
  | group name ms =>
    rw [Tree.render, trimStart_group]
    exact (Passed.group (plain_trimStart name) (ms.passed (by omega))).append
      (passed_plain (plain_of_padding r))

/-- A member that is a name loses the blanks around it. -/
theorem trim_leaf (l r : Padding) (a : Atomic) : trim (l.1 ++ a.name ++ r.1) = a.name := by
  rw [trim, trimStart_leaf, trimEnd_append_blanks r.2]
  exact trimEnd_of_solid fun c hc => solid_of_mem_name hc

/-- A group loses the blanks around it and those at the start of its name. -/
theorem trim_group (l r : Padding) (name : Bytes) (ms : Members) :
    trim (l.1 ++ (name ++ openBrace :: ms.render ++ [closeBrace]) ++ r.1) =
      trimStart name ++ openBrace :: ms.render ++ [closeBrace] := by
  rw [trim, trimStart_group, trimEnd_append_blanks r.2, trimEnd_append_solid solid_closeBrace,
    trimEnd_nil]

/-! ## Reading what is written -/

/-- The texts between the commas of a group, as they are written. -/
def Members.parts : Members → List Bytes
  | .one l t r => [l.1 ++ t.render ++ r.1]
  | .cons l t r ms => (l.1 ++ t.render ++ r.1) :: ms.parts

/-- The text of members is split at the commas between them, and nowhere else. -/
theorem splitMembers_render (ms : Members) : splitMembers ms.render = ms.parts := by
  match ms with
  | .one l t r =>
    rw [Members.render, splitMembers_passed (t.passed_padded l r)]
    rfl
  | .cons l t r ms =>
    rw [Members.render, splitMembers_passed_comma (t.passed_padded l r), splitMembers_render ms]
    rfl

/-- What the body of a group loses at its start is trimmed from its first member anyway. -/
theorem readMembers_trimStart (read : Bytes → Interner → Option Ty × Interner) (ms : Members)
    (it : Interner) :
    readMembers read (splitMembers (trimStart ms.render)) it = readMembers read ms.parts it := by
  cases ms with
  | one l t r =>
    rw [Members.render, splitMembers_passed (passed_trimStart l r t)]
    simp only [Members.parts, readMembers, trim_trimStart]
  | cons l t r ms =>
    rw [Members.render, trimStart_append_solid solid_comma,
      splitMembers_passed_comma (passed_trimStart l r t), splitMembers_render]
    simp only [Members.parts, readMembers, trim_trimStart]

/-- The body of a group is the text of its members, but for blanks at the start. -/
theorem body?_group {name : Bytes} (hn : openBrace ∉ name) (ms : Members) (trail : Padding) :
    body? (name ++ openBrace :: ms.render ++ closeBrace :: trail.1) = some (trimStart ms.render) := by
  have hdrop : (name ++ openBrace :: ms.render ++ closeBrace :: trail.1).dropWhile (· != openBrace) =
      openBrace :: (ms.render ++ closeBrace :: trail.1) := by
    rw [List.append_assoc, List.dropWhile_append_of_pos]
    · rw [List.cons_append, List.dropWhile_cons_of_neg (by simp)]
    · intro c hc
      simpa using ne_of_mem_of_not_mem hc hn
  -- the closing brace keeps the two ends of the tail apart
  have htrim : trim (ms.render ++ closeBrace :: trail.1) = trimStart ms.render ++ [closeBrace] := by
    rw [trim_append_solid solid_closeBrace, ← List.nil_append trail.1, trimEnd_append_blanks trail.2,
      trimEnd_nil]
  unfold body?
  rw [hdrop]
  simp only [htrim, List.getLast?_concat, if_true, List.dropLast_concat]

/-- A group is read when its members are, whatever its name and the blanks after it. -/
theorem parse_group {name : Bytes} (hn : openBrace ∉ name) (ms : Members) (trail : Padding)
    (it : Interner)
    (hms : readMembers parse ms.parts it = (some ms.leaves, it.after ms.groups)) :
    parse (name ++ openBrace :: ms.render ++ closeBrace :: trail.1) it =
      (some ((it.after (ms.groups ++ [ms.leaves])).of ms.leaves).1,
        it.after (ms.groups ++ [ms.leaves])) := by
  rw [parse_eq, ofName?_eq_none (c := openBrace) (by simp) (by decide), body?_group hn]
  simp only [readMembers_trimStart, hms, Interner.after_append, Interner.after_cons,
    Interner.after_nil, Interner.of_of]

mutual

/-- A member between blanks is read as the type of its leaves, and asks for its groups. -/
theorem Tree.parse_padded : (t : Tree) → (l r : Padding) → (it : Interner) →
    parse (trim (l.1 ++ t.render ++ r.1)) it =
      (some ((it.after t.groups).of t.leaves).1, it.after t.groups)
  | .leaf a, l, r, it => by
    rw [Tree.render, trim_leaf, parse_eq, ofName?_name]
    rfl
  | .group name ms, l, r, it => by
    -- trimming leaves a shorter name, which still has no brace
    have hn : openBrace ∉ trimStart name.1 := fun h => (plain_trimStart name _ h).1 rfl
    rw [Tree.render, trim_group, Tree.groups, Tree.leaves]
    exact parse_group hn ms ⟨[], by simp⟩ it (ms.readMembers_parts it)

/-- Members are read as all their leaves, and ask for their groups in order. -/
theorem Members.readMembers_parts : (ms : Members) → (it : Interner) →
    readMembers parse ms.parts it = (some ms.leaves, it.after ms.groups)
  | .one l t r, it => by
    have ht := t.parse_padded l r it
    simp only [Members.parts, readMembers, ht, Interner.flatten_of, Members.leaves, Members.groups,
      Interner.canonical_eq t.leaves_ne_nil, List.append_nil]
  | .cons l t r ms, it => by
    have ht := t.parse_padded l r it
    have hms := ms.readMembers_parts (it.after t.groups)
    simp only [Members.parts, readMembers, ht, hms, Interner.flatten_of, Members.leaves,
      Members.groups, Interner.canonical_eq t.leaves_ne_nil, Interner.after_append]

end

/-- Every written descriptor is read. It gives the type of its leaves from left to right, and leaves
the interner as it is after asking for the leaves of each group in turn, inner groups first; asking
for its type again registers nothing. -/
theorem parse_render (d : Written) (it : Interner) :
    parse d.render it = (some ((it.after d.groups).of d.leaves).1, it.after d.groups) ∧
      ((it.after d.groups).of d.leaves).2 = it.after d.groups := by
  cases d with
  | leaf a =>
    refine ⟨?_, rfl⟩
    rw [Written.render, parse_eq, ofName?_name]
    rfl
  | group name ms trail =>
    refine ⟨parse_group name.2 ms trail it (ms.readMembers_parts it), ?_⟩
    simp only [Written.groups, Written.leaves, Interner.after_append, Interner.after_cons,
      Interner.after_nil, Interner.of_of]

end StackTypes.Descriptor
