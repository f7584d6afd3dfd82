/-
The store stage behind the configuration stage. A configuration that a stage has loaded is a settled one
and stays in its context, whatever else is done with that. So the store stage finds a source that it
knows and opens what the configuration names. All that it can report is that this cannot be opened, and
a database is always asked for a table by its name.
-/
import StackTypes.Proofs.Config
import StackTypes.Proofs.Warmup.Release
import Mathlib.Data.List.Basic

namespace StackTypes

theorem Bytes.head?_of_startsWith {s lead : Bytes} {b : UInt8} (h : s.startsWith (b :: lead) = true) :
    s.head? = some b := by
  cases s with
  | nil => cases h
  | cons a s =>
    by_cases hab : b = a
    · rw [hab]
      rfl
    · simp [Bytes.startsWith, Bytes.dropLead?, hab] at h

namespace Warmup

open Param (Dump Store StoreError)

/-! ## Opening a store -/

/-- The line noted before a store is opened. -/
def openingLine (c : Config) : Bytes :=
  utf8 "Opening " ++ c.source ++ utf8 " params from " ++ c.path

/-- The state after an attempt to open a store. -/
def State.received (s : State) (line : Bytes) : Except StoreError (Store × List Closer) → State
  | .error e => s.stopped (.store e) [line]
  | .ok (store, closers) => (s.note line).withContext
      { s.context with store := some store, closers := s.context.closers ++ closers }

/-- What the store stage does with a configuration: it keeps a store that is there, or opens the text or
the table that the configuration names. -/
inductive Attempted (fs : FileSystem) (c : Config) (s : State) : State → Prop
  | kept (hstore : s.context.store ≠ none) : Attempted fs c s s
  | text (hnone : s.context.store = none) (hsource : c.source = Config.yaml) :
      Attempted fs c s (s.received (openingLine c)
        ((Store.openYaml fs c.path).map fun store => (store, [])))
  | table (hnone : s.context.store = none) (hsource : c.source = Config.sqlite)
      (htable : c.table ≠ []) :
      Attempted fs c s (s.received (openingLine c)
        ((Dump.openTable fs c.path c.table).map fun d =>
          (.dump d, [.store (fs.driver.closingFault d.path)])))

theorem openStore_yaml (fs : FileSystem) {c : Config} (h : c.source = Config.yaml) :
    openStore fs c =
      ((Store.openYaml fs c.path).map fun store => (store, [])).mapError .store := by
  unfold openStore
  rw [if_pos h]
  cases Store.openYaml fs c.path <;> rfl

theorem openStore_sqlite (fs : FileSystem) {c : Config} (h : c.source = Config.sqlite) :
    openStore fs c =
      ((Dump.openTable fs c.path c.table).map fun d =>
        (.dump d, [.store (fs.driver.closingFault d.path)])).mapError .store := by
  have hne : c.source ≠ Config.yaml := by
    rw [h]
    decide
  unfold openStore
  rw [if_neg hne, if_pos h]
  cases Dump.openTable fs c.path c.table <;> rfl

theorem loadStore_eq {fs : FileSystem} {s : State} {c : Config} (hnone : s.context.store = none)
    (hconfig : s.context.config = some c) {r : Except StoreError (Store × List Closer)}
    (hopen : openStore fs c = r.mapError .store) :
    loadStore fs s = s.received (openingLine c) r := by
  unfold loadStore
  rw [hnone, hconfig]
  dsimp only
  rw [if_neg (by simp), hopen]
  rcases r with e | ⟨store, closers⟩ <;> rfl

theorem attempted_loadStore (fs : FileSystem) {s : State} {c : Config}
    (hconfig : s.context.config = some c) (hc : c.Settled) : Attempted fs c s (loadStore fs s) := by
  obtain ⟨-, hobeys⟩ := (Config.fault?_eq_none_iff c).1 hc.sound
  by_cases hnone : s.context.store = none
  · rcases hobeys.source with hsource | hsource
    · rw [loadStore_eq hnone hconfig (openStore_yaml fs hsource)]
      exact .text hnone hsource
    · rw [loadStore_eq hnone hconfig (openStore_sqlite fs hsource)]
      exact .table hnone hsource (hc.table_ne_nil hsource)
  · have hkept : loadStore fs s = s := if_pos (Option.isSome_iff_ne_none.2 hnone)
    rw [hkept]
    exact .kept hnone

/-! ## What is reported -/

/-- The error is about what could not be opened. -/
inductive OpeningError : StageError → Prop
  | file (path : Bytes) (e : FileError) : OpeningError (.store (.file path e))
  | tableName (name : Bytes) : OpeningError (.store (.tableName name))
  | driver (path text : Bytes) : OpeningError (.store (.opening path text))

theorem State.errors_received {α : Type} {s : State} {line : Bytes} {x : Except StoreError α}
    {f : α → Store × List Closer} (h : ∀ e, x = .error e → OpeningError (.store e)) :
    ∃ new, (s.received line (x.map f)).context.errors = s.context.errors ++ new ∧
      ∀ e ∈ new, OpeningError e := by
  cases x with
  | error e =>
    refine ⟨[.store e], rfl, ?_⟩
    intro e' he'
    obtain rfl := List.mem_singleton.1 he'
    exact h e rfl
  | ok a => exact ⟨[], (List.append_nil _).symm, by simp⟩

theorem openingError_openYaml {fs : FileSystem} {path : Bytes} {e : StoreError}
    (h : Store.openYaml fs path = .error e) : OpeningError (.store e) := by
  unfold Store.openYaml at h
  split at h <;> cases h
  exact .file _ _

theorem openingError_openTable {fs : FileSystem} {path table : Bytes} {e : StoreError}
    (h : Dump.openTable fs path table = .error e) : OpeningError (.store e) := by
  unfold Dump.openTable at h
  dsimp only at h
  generalize (if table.isEmpty then Param.standardTable else table) = name at h
  split at h
  · split at h <;> cases h
    exact .driver path _
  · cases h
    exact .tableName name

theorem Attempted.errors {fs : FileSystem} {c : Config} {s s' : State} (h : Attempted fs c s s') :
    ∃ new, s'.context.errors = s.context.errors ++ new ∧ ∀ e ∈ new, OpeningError e := by
  cases h with
  | kept => exact ⟨[], (List.append_nil _).symm, by simp⟩
  | text => exact State.errors_received fun e => openingError_openYaml
  | table => exact State.errors_received fun e => openingError_openTable

theorem OpeningError.head?_message {e : StageError} (h : OpeningError e) :
    ∃ b ∈ [0x72, 0x69, 0x6F], e.message.head? = some b := by
  have hreading : utf8 "reading params " = 0x72 :: utf8 "eading params " := by decide +kernel
  have hinvalid : utf8 "invalid table name " = 0x69 :: utf8 "nvalid table name " := by decide +kernel
  have hopening : utf8 "opening " = 0x6F :: utf8 "pening " := by decide +kernel
  cases h with
  | file path e =>
    exact ⟨0x72, by decide, by simp [StageError.message, StoreError.message, hreading]⟩
  | tableName name =>
    exact ⟨0x69, by decide, by simp [StageError.message, StoreError.message, hinvalid]⟩
  | driver path text =>
    exact ⟨0x6F, by decide, by simp [StageError.message, StoreError.message, hopening]⟩

/-- By its text such an error is not about the configuration. -/
theorem OpeningError.message_ne {e : StageError} (h : OpeningError e) :
    e.message ≠ utf8 "no configuration loaded" ∧
      ¬ e.message.startsWith (utf8 "unknown params source") := by
  have hunloaded : (utf8 "no configuration loaded").head? = some 0x6E := by decide +kernel
  have hunknown : utf8 "unknown params source" = 0x75 :: utf8 "nknown params source" := by
    decide +kernel
  -- the first byte tells them apart
  obtain ⟨b, hb, hhead⟩ := h.head?_message
  constructor
  · intro heq
    rw [heq, hunloaded] at hhead
    obtain rfl := Option.some.inj hhead
    exact absurd hb (by decide)
  · intro hstarts
    rw [hunknown] at hstarts
    rw [Bytes.head?_of_startsWith hstarts] at hhead
    obtain rfl := Option.some.inj hhead
    exact absurd hb (by decide)

/-! ## Behind the configuration stage -/

theorem settled_of_loadConfig {fs : FileSystem} {s : State} {c : Config}
    (hnone : s.context.config = none) (h : (loadConfig fs s).context.config = some c) : c.Settled := by
  unfold loadConfig at h
  rw [hnone, if_neg (by simp)] at h
  -- a load that fails leaves the context without a configuration
  cases hload : Config.load fs s.context.configPath with
  | error e =>
    rw [hload] at h
    exact absurd (hnone.symm.trans h) (by simp)
  | ok c' =>
    rw [hload] at h
    obtain rfl : c' = c := Option.some.inj h
    exact Config.settled_of_load hload

/-- A document is accepted exactly when it obeys the rules; it then stands for itself with what is left
out filled in, which is settled. A configuration that a stage has loaded is settled too, and it is still
there after any operations on the context. The store stage then opens what it names, a database with
the name of a table, and reports nothing but that this cannot be opened. -/
theorem loaded_config_serves_store :
    (∀ d : Config, ((∃ c, d.complete = .ok c) ↔ d.Obeys) ∧
      ∀ c, d.complete = .ok c → c = d.withDefaults ∧ c.Settled) ∧
    (∀ content path d, Config.ofYaml content = .ok d →
      Config.parse content path = d.complete.mapError (.invalid path)) ∧
    ∀ (fs : FileSystem) (s : State) (c : Config), s.context.config = none →
      (Stage.config.run fs s).context.config = some c → c.Settled ∧
      ∀ (ops : List Operation) (fs' : FileSystem),
        let s₁ := after (Stage.config.run fs s) ops
        let s₂ := Stage.store.run fs' s₁
        s₁.context.config = some c ∧ Attempted fs' c s₁ s₂ ∧
        ∃ new, s₂.context.errors = s₁.context.errors ++ new ∧ ∀ e ∈ new,
          e.message ≠ utf8 "no configuration loaded" ∧
            ¬ e.message.startsWith (utf8 "unknown params source") := by
  refine ⟨?_, ?_, ?_⟩
  · intro d
    constructor
    · constructor
      · rintro ⟨c, hc⟩
        exact ((Config.complete_eq_ok_iff d c).1 hc).1
      · intro hd
        exact ⟨d.withDefaults, (Config.complete_eq_ok_iff d _).2 ⟨hd, rfl⟩⟩
    · intro c hc
      exact ⟨((Config.complete_eq_ok_iff d c).1 hc).2, Config.settled_of_complete hc⟩
  · intro content path d hd
    exact Config.parse_of_ofYaml hd path
  · intro fs s c hnone hloaded
    have hc : c.Settled := settled_of_loadConfig hnone hloaded
    refine ⟨hc, ?_⟩
    intro ops fs' s₁ s₂
    have hconfig : s₁.context.config = some c := config_after hloaded ops
    have hattempted : Attempted fs' c s₁ s₂ := attempted_loadStore fs' hconfig hc
    obtain ⟨new, hnew, hopening⟩ := hattempted.errors
    exact ⟨hconfig, hattempted, new, hnew, fun e he => (hopening e he).message_ne⟩

/-- A database that is configured without a table. Something else is released before the store stage,
and the driver then refuses the database. -/
theorem store_stage_of_refused_database :
    let content := utf8 "params:\n  source: sqlite\n  path: d.db\n"
    let d : Config := { source := Config.sqlite, path := utf8 "d.db" }
    let c : Config := { d with table := Param.standardTable, color := Config.auto }
    let fs : FileSystem := { entries := [([utf8 "c.yaml"], .file content)] }
    let fs' : FileSystem := { driver := { openingFault := fun _ => some (utf8 "no such driver") } }
    let start : State := { context := { configPath := utf8 "c.yaml" } }
    let s₁ := after (Stage.config.run fs start) [.addCloser (.named (utf8 "other") none), .close]
    let s₂ := Stage.store.run fs' s₁
    d.complete = .ok c ∧ d.Obeys ∧ c.Settled ∧
      Config.ofYaml content = .ok d ∧ Config.parse content [] = .ok c ∧
      start.context.config = none ∧ (Stage.config.run fs start).context.config = some c ∧
      s₁.context.config = some c ∧ Attempted fs' c s₁ s₂ ∧
      s₂.context.errors = [.store (.opening (utf8 "d.db") (utf8 "no such driver"))] := by
  intro content d c fs fs' start s₁ s₂
  obtain ⟨hdocuments, htexts, hstages⟩ := loaded_config_serves_store
  have hcomplete : d.complete = .ok c := by decide +kernel
  have hread : Config.ofYaml content = .ok d := by decide +kernel
  have hloaded : (Stage.config.run fs start).context.config = some c := by decide +kernel
  have hparse : Config.parse content [] = .ok c := by
    rw [htexts content [] d hread, hcomplete]
    rfl
  obtain ⟨hsettled, hstore⟩ := hstages fs start c rfl hloaded
  obtain ⟨hkept, hattempted, -⟩ :=
    hstore [.addCloser (.named (utf8 "other") none), .close] fs'
  exact ⟨hcomplete, (hdocuments d).1.1 ⟨c, hcomplete⟩, hsettled, hread, hparse, rfl, hloaded, hkept,
    hattempted, by decide +kernel⟩

end Warmup

end StackTypes
