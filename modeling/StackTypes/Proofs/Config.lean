/-
Laws of configurations. A document is accepted exactly when each of its fields obeys a rule of its own,
where a colour or a table may be left out. What has been accepted obeys the rules as it stands and has
nothing left to fill in. That stays so when its path is seen from the working directory, for no path
is cleaned to nothing.
-/
import StackTypes.Config

namespace StackTypes

/-! ## Paths -/

theorem Bytes.joinWith_ne_nil {sep p : Bytes} {parts : List Bytes} (hp : p ≠ []) :
    Bytes.joinWith sep (p :: parts) ≠ [] := by
  cases parts with
  | nil => simpa [Bytes.joinWith] using hp
  | cons q parts => simp [Bytes.joinWith, hp]

namespace Path

theorem ne_nil_of_mem_cleanStep {rooted : Bool} {names : List Bytes} {name : Bytes}
    (h : ∀ n ∈ names, n ≠ []) : ∀ n ∈ cleanStep rooted names name, n ≠ [] := by
  have habove : above ≠ [] := by decide
  unfold cleanStep
  split
  · exact h
  · rename_i hname
    split
    · -- a double dot stays only where there is no name for it to take away
      cases names with
      | nil =>
        intro n hn
        cases rooted with
        | true => cases hn
        | false =>
          obtain rfl := List.mem_singleton.1 hn
          exact habove
      | cons last rest =>
        obtain ⟨-, hrest⟩ := List.forall_mem_cons.1 h
        dsimp only
        split
        · exact List.forall_mem_cons.2 ⟨habove, h⟩
        · exact hrest
    · rw [not_or] at hname
      exact List.forall_mem_cons.2 ⟨hname.1, h⟩

/-- No empty name is left when the names of a path are cleaned. -/
theorem ne_nil_of_mem_cleaned (rooted : Bool) (parts names : List Bytes) (h : ∀ n ∈ names, n ≠ []) :
    ∀ n ∈ parts.foldl (cleanStep rooted) names, n ≠ [] := by
  induction parts generalizing names with
  | nil => exact h
  | cons name parts ih => exact ih _ (ne_nil_of_mem_cleanStep h)

/-- A cleaned path is never empty. -/
theorem clean_ne_nil (p : Bytes) : clean p ≠ [] := by
  have hnames := ne_nil_of_mem_cleaned (isAbsolute p) (split p) [] (by simp)
  unfold clean
  dsimp only
  split
  · simp
  · split
    · decide
    · rename_i hsome
      cases hrev : ((split p).foldl (cleanStep (isAbsolute p)) []).reverse with
      | nil => rw [hrev] at hsome; exact absurd rfl hsome
      | cons name names =>
        refine Bytes.joinWith_ne_nil (hnames name ?_)
        rw [← List.mem_reverse, hrev]
        exact List.mem_cons_self

theorem join_ne_nil (directory p : Bytes) : join directory p ≠ [] :=
  clean_ne_nil _

end Path

namespace Config

/-! ## Rules -/

/-- What a document has to keep to. -/
structure Obeys (c : Config) : Prop where
  color : c.color = [] ∨ c.color = auto ∨ c.color = always ∨ c.color = never
  source : c.source = yaml ∨ c.source = sqlite
  path : c.path ≠ []
  table : c.source ≠ sqlite → c.table = []

/-- No rule is broken and nothing is left to fill in. -/
structure Settled (c : Config) : Prop where
  sound : c.fault? = none
  filled : c.withDefaults = c

/-- The checks want a colour, which filling in puts there, and otherwise what the rules say. -/
theorem fault?_eq_none_iff (c : Config) : c.fault? = none ↔ c.color ≠ [] ∧ c.Obeys := by
  have hcolors : auto ≠ [] ∧ always ≠ [] ∧ never ≠ [] := by decide
  -- a source that is left out has a check of its own, but it is not one of the two either
  have hsources : yaml ≠ [] ∧ sqlite ≠ [] := by decide
  unfold fault?
  constructor
  · intro h
    refine ⟨?_, ?_, ?_, ?_, ?_⟩ <;> grind
  · rintro ⟨hne, hcolor, hsource, hpath, htable⟩
    grind

/-! ## Filling in -/

theorem color_withDefaults_ne_nil (c : Config) : c.withDefaults.color ≠ [] := by
  show (if c.color = [] then auto else c.color) ≠ []
  split
  · decide
  · assumption

/-- Filling in neither mends nor breaks a rule. -/
theorem obeys_withDefaults (c : Config) : c.withDefaults.Obeys ↔ c.Obeys := by
  have hcolor : (c.withDefaults.color = [] ∨ c.withDefaults.color = auto ∨
      c.withDefaults.color = always ∨ c.withDefaults.color = never) ↔
      (c.color = [] ∨ c.color = auto ∨ c.color = always ∨ c.color = never) := by
    by_cases hc : c.color = [] <;> simp [withDefaults, hc]
  -- only a database is given a table, and there the rule asks for nothing
  have htable : (c.source ≠ sqlite → c.withDefaults.table = []) ↔
      (c.source ≠ sqlite → c.table = []) := by
    refine imp_congr_right fun hne => ?_
    simp [withDefaults, hne]
  constructor
  · rintro ⟨h₁, hsource, hpath, h₂⟩
    exact ⟨hcolor.1 h₁, hsource, hpath, htable.1 h₂⟩
  · rintro ⟨h₁, hsource, hpath, h₂⟩
    exact ⟨hcolor.2 h₁, hsource, hpath, htable.2 h₂⟩

theorem withDefaults_withDefaults (c : Config) : c.withDefaults.withDefaults = c.withDefaults := by
  have hauto : auto ≠ [] := by decide
  have htable : Param.standardTable ≠ [] := by decide
  unfold withDefaults
  by_cases hc : c.color = [] <;> by_cases ht : c.source = sqlite ∧ c.table = [] <;>
    simp [hc, ht, hauto, htable]

/-! ## Reading -/

/-- A document is accepted exactly when it obeys the rules, and stands for itself with what is left out
filled in. -/
theorem complete_eq_ok_iff (d c : Config) : d.complete = .ok c ↔ d.Obeys ∧ c = d.withDefaults := by
  have hiff : d.withDefaults.fault? = none ↔ d.Obeys := by
    rw [fault?_eq_none_iff, obeys_withDefaults]
    exact and_iff_right d.color_withDefaults_ne_nil
  unfold complete
  cases hfault : d.withDefaults.fault? with
  | none => simp [hiff.1 hfault, eq_comm]
  | some e =>
    have hnot : ¬ d.Obeys := fun h => by
      rw [hiff.2 h] at hfault
      cases hfault
    simp [hnot]

theorem settled_of_complete {d c : Config} (h : d.complete = .ok c) : c.Settled := by
  obtain ⟨hd, rfl⟩ := (complete_eq_ok_iff d c).1 h
  constructor
  · rw [fault?_eq_none_iff, obeys_withDefaults]
    exact ⟨d.color_withDefaults_ne_nil, hd⟩
  · exact d.withDefaults_withDefaults

theorem parse_of_ofYaml {content : Bytes} {d : Config} (h : ofYaml content = .ok d) (path : Bytes) :
    parse content path = d.complete.mapError (.invalid path) := by
  unfold parse
  rw [h]

theorem exists_document {content path : Bytes} {c : Config} (h : parse content path = .ok c) :
    ∃ d, ofYaml content = .ok d ∧ d.complete = .ok c := by
  cases hd : ofYaml content with
  | error e =>
    unfold parse at h
    rw [hd] at h
    cases h
  | ok d =>
    rw [parse_of_ofYaml hd] at h
    refine ⟨d, rfl, ?_⟩
    cases hc : d.complete with
    | error e =>
      rw [hc] at h
      cases h
    | ok c' =>
      rw [hc] at h
      cases h
      rfl

/-- The path of a configuration is still there when it is seen from the working directory. -/
theorem Settled.locate {c : Config} (h : c.Settled) (configPath : Bytes) :
    (locate configPath c).Settled := by
  unfold Config.locate
  split
  · exact h
  · obtain ⟨hcolor, hobeys⟩ := (fault?_eq_none_iff c).1 h.sound
    constructor
    · refine (fault?_eq_none_iff _).2 ⟨hcolor, hobeys.color, hobeys.source, ?_, hobeys.table⟩
      exact Path.join_ne_nil _ _
    · -- what is filled in does not depend on the path
      show { c.withDefaults with path := Path.join (Path.dir configPath) c.path } = _
      rw [h.filled]

theorem settled_of_load {fs : FileSystem} {path : Bytes} {c : Config} (h : load fs path = .ok c) :
    c.Settled := by
  unfold load at h
  split at h
  · cases h
  · rename_i content hread
    cases hparse : parse content path with
    | error e =>
      rw [hparse] at h
      cases h
    | ok c' =>
      obtain ⟨d, -, hd⟩ := exists_document hparse
      rw [hparse] at h
      cases h
      exact (settled_of_complete hd).locate path

theorem Settled.table_ne_nil {c : Config} (h : c.Settled) (hsource : c.source = sqlite) :
    c.table ≠ [] := by
  intro hempty
  have htable : c.withDefaults.table = Param.standardTable := if_pos ⟨hsource, hempty⟩
  rw [h.filled, hempty] at htable
  exact absurd htable (by decide)

end Config

end StackTypes
