/-
Braces of what can be read. The name in front of a group does not matter, and reading takes for a name
whatever stands in front of the first opening brace of a member: it counts braces without refusing one
that closes nothing, and after such a brace it no longer splits at commas. So a text that is read may
have too many closing braces, with members lost among them; they are all in names. Away from names
braces match, and a text that is read has matching braces exactly when no name holds a closing one.
-/
import StackTypes.Proofs.Descriptor.Written
import Mathlib.Algebra.Order.BigOperators.Group.List
import Mathlib.Algebra.Order.Ring.Int

namespace StackTypes.Descriptor

open Blank

/-! ## Matching braces -/

/-- Read from the left, no brace closes what was not opened, and in the end all are closed. -/
structure Balanced (s : Bytes) : Prop where
  opened : ∀ p, p <+: s → p.count closeBrace ≤ p.count openBrace
  closed : s.count openBrace = s.count closeBrace

instance (s : Bytes) : Decidable (Balanced s) :=
  decidable_of_iff
    ((∀ p ∈ s.inits, p.count closeBrace ≤ p.count openBrace) ∧ s.count openBrace = s.count closeBrace)
    ⟨fun h => ⟨fun p hp => h.1 p ((List.mem_inits p s).2 hp), h.2⟩,
      fun h => ⟨fun p hp => h.opened p ((List.mem_inits p s).1 hp), h.closed⟩⟩

/-- How many more braces of a text close than open. -/
def excess (s : Bytes) : Int :=
  s.count closeBrace - s.count openBrace

theorem balanced_iff_excess {s : Bytes} :
    Balanced s ↔ (∀ p, p <+: s → excess p ≤ 0) ∧ excess s = 0 := by
  unfold excess
  constructor
  · rintro ⟨hp, hs⟩
    exact ⟨fun p h => by have := hp p h; omega, by omega⟩
  · rintro ⟨hp, hs⟩
    exact ⟨fun p h => by have := hp p h; omega, by omega⟩

theorem excess_append (p q : Bytes) : excess (p ++ q) = excess p + excess q := by
  simp only [excess, List.count_append]
  omega

theorem excess_openBrace (s : Bytes) : excess (openBrace :: s) = excess s - 1 := by
  have hne : openBrace ≠ closeBrace := by decide
  simp only [excess, List.count_cons_self, List.count_cons_of_ne hne]
  omega

/-- A text without braces. -/
def BraceFree (s : Bytes) : Prop :=
  openBrace ∉ s ∧ closeBrace ∉ s

theorem BraceFree.excess_eq {s : Bytes} (h : BraceFree s) : excess s = 0 := by
  simp [excess, List.count_eq_zero_of_not_mem h.1, List.count_eq_zero_of_not_mem h.2]

theorem BraceFree.balanced {s : Bytes} (h : BraceFree s) : Balanced s := by
  refine balanced_iff_excess.2 ⟨fun p hp => ?_, h.excess_eq⟩
  have hfree : BraceFree p := ⟨fun hm => h.1 (hp.subset hm), fun hm => h.2 (hp.subset hm)⟩
  exact hfree.excess_eq.le

theorem braceFree_of_not_solid {s : Bytes} (h : ∀ c ∈ s, ¬ Solid c) : BraceFree s :=
  ⟨fun hm => h _ hm solid_openBrace, fun hm => h _ hm solid_closeBrace⟩

theorem braceFree_name (a : Atomic) : BraceFree a.name :=
  ⟨fun hm => (plain_of_mem_name hm).1 rfl, fun hm => (plain_of_mem_name hm).2.1 rfl⟩

theorem Balanced.append {p q : Bytes} (hp : Balanced p) (hq : Balanced q) : Balanced (p ++ q) := by
  rw [balanced_iff_excess] at *
  refine ⟨fun u hu => ?_, by rw [excess_append, hp.2, hq.2]; rfl⟩
  -- a start of the whole ends in `p`, or takes all of `p` and a start of `q`
  rcases List.prefix_or_prefix_of_prefix hu (List.prefix_append p q) with h | ⟨v, rfl⟩
  · exact hp.1 u h
  · rw [excess_append, hp.2, Int.zero_add]
    exact hq.1 v ((List.prefix_append_right_inj p).1 hu)

theorem Balanced.braces {p : Bytes} (hp : Balanced p) : Balanced (openBrace :: (p ++ [closeBrace])) := by
  rw [balanced_iff_excess] at *
  have hclose : excess [closeBrace] = 1 := by decide
  refine ⟨fun u hu => ?_, by rw [excess_openBrace, excess_append, hp.2, hclose]; rfl⟩
  rcases List.prefix_cons_iff.1 hu with rfl | ⟨v, rfl, hv⟩
  · decide
  · rw [excess_openBrace]
    rcases List.prefix_concat_iff.1 hv with rfl | hv
    · rw [excess_append, hp.2, hclose]; decide
    · have := hp.1 v hv
      omega

theorem braceFree_comma : BraceFree [comma] := by
  constructor <;> decide

theorem balanced_joinWith {parts : List Bytes} (h : ∀ p ∈ parts, Balanced p) :
    Balanced (Bytes.joinWith [comma] parts) := by
  induction parts with
  | nil => exact BraceFree.balanced (by constructor <;> simp [Bytes.joinWith])
  | cons p parts ih =>
    obtain ⟨hp, hparts⟩ := List.forall_mem_cons.1 h
    cases parts with
    | nil => simpa [Bytes.joinWith] using hp
    | cons q parts =>
      rw [joinWith_cons p (by simp), ← List.singleton_append]
      exact hp.append (braceFree_comma.balanced.append (ih hparts))

theorem excess_joinWith (parts : List Bytes) :
    excess (Bytes.joinWith [comma] parts) = (parts.map excess).sum := by
  induction parts with
  | nil => rfl
  | cons p parts ih =>
    cases parts with
    | nil => simp [Bytes.joinWith]
    | cons q parts =>
      rw [joinWith_cons p (by simp), ← List.singleton_append, excess_append, excess_append,
        braceFree_comma.excess_eq, ih, Int.zero_add]
      rfl

theorem excess_trim (s : Bytes) : excess (trim s) = excess s := by
  obtain ⟨l, r, hs, hl, hr⟩ := exists_trimmed s
  have := congrArg excess hs
  rw [excess_append, excess_append, (braceFree_of_not_solid hl).excess_eq,
    (braceFree_of_not_solid hr).excess_eq] at this
  omega

/-- A text has matching braces when it has them without the blanks around it. -/
theorem balanced_of_trim {s : Bytes} (h : Balanced (trim s)) : Balanced s := by
  obtain ⟨l, r, hs, hl, hr⟩ := exists_trimmed s
  rw [hs]
  exact ((braceFree_of_not_solid hl).balanced.append h).append (braceFree_of_not_solid hr).balanced

/-! ## Which texts are read -/

/-- The texts that are read: names of atomic types, and groups whose members are read. -/
inductive Accepted : Bytes → Prop
  | name (a : Atomic) : Accepted a.name
  | group {s b : Bytes} (hb : body? s = some b) (h : ∀ p ∈ splitMembers b, Accepted (trim p)) :
      Accepted s

theorem eq_name_of_ofName? {s : Bytes} {a : Atomic} (h : Atomic.ofName? s = some a) : s = a.name := by
  have hname : a.name = s := by simpa using List.find?_some h
  exact hname.symm

theorem exists_read_of_readMembers {read : Bytes → Interner → Option Ty × Interner}
    {parts : List Bytes} {it : Interner} {members : List Atomic}
    (h : (readMembers read parts it).1 = some members) :
    ∀ p ∈ parts, ∃ it' t, (read (trim p) it').1 = some t := by
  induction parts generalizing it members with
  | nil => simp
  | cons p parts ih =>
    rw [readMembers] at h
    split at h
    · cases h
    · rename_i t it₁ hp
      split at h
      · cases h
      · rename_i members' it₂ hparts
        have hrest : (readMembers read parts it₁).1 = some members' := by rw [hparts]
        exact List.forall_mem_cons.2 ⟨⟨it, t, by rw [hp]⟩, ih hrest⟩

theorem accepted_of_parse {s : Bytes} {it : Interner} {t : Ty} (h : (parse s it).1 = some t) :
    Accepted s := by
  rw [parse_eq] at h
  split at h
  · rename_i a ha
    rw [eq_name_of_ofName? ha]
    exact .name a
  · split at h
    · cases h
    · rename_i b hb
      split at h
      · cases h
      · rename_i members it' hread
        refine .group hb fun p hp => ?_
        have hlt := length_trim_lt hb hp
        obtain ⟨it', t', ht'⟩ := exists_read_of_readMembers (by rw [hread]) p hp
        exact accepted_of_parse ht'
termination_by s.length

/-! ## Names of groups -/

/-- `n` stands in front of a group that reading finds in the text, as its name. -/
inductive GroupName (n : Bytes) : Bytes → Prop
  | outer {s b : Bytes} (hb : body? s = some b) (hn : n = s.takeWhile (· != openBrace)) : GroupName n s
  | inner {s b p : Bytes} (hb : body? s = some b) (hp : p ∈ splitMembers b)
      (h : GroupName n (trim p)) : GroupName n s

/-- A text with a body is a name, the body in braces, and blanks. -/
theorem eq_group_of_body? {s b : Bytes} (h : body? s = some b) :
    openBrace ∉ s.takeWhile (· != openBrace) ∧ ∃ l r, BraceFree l ∧ BraceFree r ∧
      s = s.takeWhile (· != openBrace) ++ (openBrace :: (l ++ b ++ [closeBrace]) ++ r) := by
  unfold body? at h
  split at h
  · cases h
  · rename_i c tail hdrop
    obtain ⟨hname, hs⟩ := Bytes.eq_append_of_dropWhile_ne hdrop
    obtain ⟨l, r, htail, hl, hr⟩ := exists_trimmed tail
    simp only at h
    split at h
    · rename_i hlast
      cases h
      obtain ⟨u, hu⟩ := List.getLast?_eq_some_iff.1 hlast
      refine ⟨hname, l, r, braceFree_of_not_solid hl, braceFree_of_not_solid hr, ?_⟩
      rw [htail, hu] at hs
      rw [hu, List.dropLast_concat]
      simpa using hs
    · cases h

theorem excess_group {s b : Bytes} (h : body? s = some b) :
    excess s = (s.takeWhile (· != openBrace)).count closeBrace +
      ((splitMembers b).map fun p => excess (trim p)).sum := by
  obtain ⟨hopen, l, r, hl, hr, hs⟩ := eq_group_of_body? h
  have hname : excess (s.takeWhile (· != openBrace)) =
      (s.takeWhile (· != openBrace)).count closeBrace := by
    simp [excess, List.count_eq_zero_of_not_mem hopen]
  have hbody : excess b = ((splitMembers b).map fun p => excess (trim p)).sum := by
    simp only [excess_trim]
    rw [← excess_joinWith, splitMembers, joinWith_splitFrom]
  have hclose : excess [closeBrace] = 1 := by decide
  have := congrArg excess hs
  rw [excess_append, List.cons_append, excess_openBrace, excess_append, excess_append, excess_append,
    hl.excess_eq, hr.excess_eq, hclose, hname, hbody] at this
  omega

theorem body?_name (a : Atomic) : body? a.name = none := by
  cases h : body? a.name with
  | none => rfl
  | some b =>
    obtain ⟨-, l, r, -, -, hs⟩ := eq_group_of_body? h
    have hm : openBrace ∈ a.name := by
      rw [hs]
      simp
    exact absurd hm (braceFree_name a).1

theorem Accepted.members {s b : Bytes} (h : Accepted s) (hb : body? s = some b) :
    ∀ p ∈ splitMembers b, Accepted (trim p) := by
  cases h with
  | name a => rw [body?_name] at hb; cases hb
  | group hb' h =>
    rw [hb] at hb'
    cases hb'
    exact h

/-- No text that is read opens more braces than it closes. -/
theorem Accepted.excess_nonneg {s : Bytes} (h : Accepted s) : 0 ≤ excess s := by
  induction h with
  | name a => exact (braceFree_name a).excess_eq.ge
  | group hb _ ih =>
    rw [excess_group hb]
    have hsum : 0 ≤ ((splitMembers _).map fun p => excess (trim p)).sum :=
      List.sum_nonneg (List.forall_mem_map.2 ih)
    omega

/-- A closing brace in a name is one too many for the whole text. -/
theorem Accepted.excess_pos {s n : Bytes} (h : Accepted s) (hn : GroupName n s)
    (hc : closeBrace ∈ n) : 0 < excess s := by
  induction hn with
  | outer hb hn =>
    subst hn
    have hcount := List.count_pos_iff.2 hc
    have hsum : 0 ≤ ((splitMembers _).map fun p => excess (trim p)).sum :=
      List.sum_nonneg (List.forall_mem_map.2 fun p hp => (h.members hb p hp).excess_nonneg)
    rw [excess_group hb]
    omega
  | inner hb hp _ ih =>
    have hpos := ih (h.members hb _ hp)
    have hle : excess (trim _) ≤ ((splitMembers _).map fun p => excess (trim p)).sum :=
      List.single_le_sum
        (List.forall_mem_map.2 fun p hp => (h.members hb p hp).excess_nonneg) _
        (List.mem_map_of_mem hp)
    rw [excess_group hb]
    omega

/-- Away from names braces match. -/
theorem Accepted.balanced {s : Bytes} (h : Accepted s)
    (hnames : ∀ n, GroupName n s → closeBrace ∉ n) : Balanced s := by
  induction h with
  | name a => exact (braceFree_name a).balanced
  | @group s b hb _ ih =>
    obtain ⟨hopen, l, r, hl, hr, hs⟩ := eq_group_of_body? hb
    have hname : BraceFree (s.takeWhile (· != openBrace)) := ⟨hopen, hnames _ (.outer hb rfl)⟩
    have hbody : Balanced b := by
      rw [← joinWith_splitFrom 0 b]
      exact balanced_joinWith fun p hp =>
        balanced_of_trim (ih p hp fun n hn => hnames n (.inner hb hp hn))
    rw [hs]
    exact hname.balanced.append ((hl.balanced.append hbody).braces.append hr.balanced)

/-! ## Braces of what is read -/

/-- A text that is read has matching braces exactly when no name of a group in it holds a closing
brace. -/
theorem balanced_iff_of_parse {s : Bytes} {it : Interner} {t : Ty} (h : (parse s it).1 = some t) :
    Balanced s ↔ ∀ n, GroupName n s → closeBrace ∉ n := by
  have hs := accepted_of_parse h
  constructor
  · intro hb n hn hc
    have hpos := hs.excess_pos hn hc
    have hzero := (balanced_iff_excess.1 hb).2
    omega
  · exact hs.balanced

/-- The names of a well-formed descriptor. -/
theorem names_of_nested_group :
    let s := utf8 "pair\x7bint, inner\x7blong, string\x7d\x7d"
    (parse s .shared).1 = some (.composite ⟨.shared, 1, [.int, .long, .string]⟩) ∧
      Balanced s ∧ ∀ n, GroupName n s → closeBrace ∉ n := by
  intro s
  have h : (parse s .shared).1 = some (.composite ⟨.shared, 1, [.int, .long, .string]⟩) := by
    decide +kernel
  have hs : Balanced s := by decide +kernel
  exact ⟨h, hs, (balanced_iff_of_parse h).1 hs⟩

/-- A brace that closes nothing: the member before it goes into a name and is lost. -/
theorem parse_loses_member_before_stray_brace :
    let s := utf8 "\x7bint\x7d,x\x7bstring\x7d\x7d"
    (parse s .shared).1 = some (.atomic .string) ∧ ¬ Balanced s := by
  decide +kernel

end StackTypes.Descriptor
