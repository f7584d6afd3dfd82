/-
The command that prints attributes. Its stages load if the configuration can be read, the store that
it names can be opened and all records in it can be read; then the shared table is filled with these
records. If one of the three fails, the command fails and the table is left alone. On a filled table
an id that is not negative selects one attribute, which is printed alone or reported missing. A
negative id stands for no selection, although attributes can have such ids.
-/
import StackTypes.Command
import StackTypes.Proofs.Attribute
import StackTypes.Proofs.Command.Flag
import StackTypes.Proofs.Text.Integer
import StackTypes.Proofs.Warmup.Release

namespace StackTypes.Command

open Param (Record)
open Warmup (Stage State openStore)

/-! ## Loading -/

/-- A configuration file leads to a configuration, and this to records. -/
structure Loads (fs : FileSystem) (path : Bytes) (c : Config) (rs : List Record) : Prop where
  config : Config.load fs path = .ok c
  records : ∃ store closers, openStore fs c = .ok (store, closers) ∧ store.records fs = .ok rs

/-- The lines noted while attributes are loaded. -/
def loadedLog (c : Config) (n : Nat) : List Bytes :=
  [utf8 "Opening " ++ c.source ++ utf8 " params from " ++ c.path, utf8 "Populating params...",
    utf8 "Populated " ++ Numeral.ofNat n ++ utf8 " params"]

/-- The line noted when something cannot be closed. -/
def closingLine (text : Bytes) : Bytes :=
  utf8 "Error closing params store: " ++ text

/-- The lines noted when the store of a configuration is closed: one if that is a database that cannot
be closed. -/
def closingLog (fs : FileSystem) (c : Config) : List Bytes :=
  if c.source = Config.sqlite then (fs.driver.closingFault c.path).toList.map closingLine else []

/-- What the stages start from. -/
def loading (path : Bytes) (t : AttributeTable) : State :=
  { context := { configPath := path }, shared := t }

/-- With a configuration. -/
def configured (path : Bytes) (c : Config) (t : AttributeTable) : State :=
  { context := { configPath := path, config := some c }, shared := t }

/-- With a store. -/
def opened (path : Bytes) (c : Config) (store : Param.Store) (closers : List Warmup.Closer)
    (t : AttributeTable) : State :=
  { context := { configPath := path, config := some c, store := some store, closers := closers }
    shared := t
    log := [utf8 "Opening " ++ c.source ++ utf8 " params from " ++ c.path] }

section Stages

variable {fs : FileSystem} {path : Bytes} {c : Config} {store : Param.Store}
  {closers : List Warmup.Closer}

theorem step_config (h : Config.load fs path = .ok c) (t : AttributeTable) :
    Warmup.step fs (loading path t) .config = configured path c t := by
  rw [Warmup.step_of_no_errors fs rfl]
  simp only [Stage.run, Warmup.loadConfig, loading, h]
  rfl

theorem step_config_error {e : ConfigError} (h : Config.load fs path = .error e) (t : AttributeTable) :
    Warmup.step fs (loading path t) .config = (loading path t).stopped (.config e) [] := by
  rw [Warmup.step_of_no_errors fs rfl]
  simp only [Stage.run, Warmup.loadConfig, loading, h]
  rfl

theorem step_store (h : openStore fs c = .ok (store, closers)) (t : AttributeTable) :
    Warmup.step fs (configured path c t) .store = opened path c store closers t := by
  rw [Warmup.step_of_no_errors fs rfl]
  simp only [Stage.run, Warmup.loadStore, configured, h]
  rfl

theorem step_store_error {e : Warmup.StageError} (h : openStore fs c = .error e) (t : AttributeTable) :
    Warmup.step fs (configured path c t) .store =
      (configured path c t).stopped e
        [utf8 "Opening " ++ c.source ++ utf8 " params from " ++ c.path] := by
  rw [Warmup.step_of_no_errors fs rfl]
  simp only [Stage.run, Warmup.loadStore, configured, h]
  rfl

theorem step_attributes {rs : List Record} (h : store.records fs = .ok rs) (t : AttributeTable) :
    Warmup.step fs (opened path c store closers t) (.attributes .shared) =
      { context := { (opened path c store closers t).context with
          attributeCount := (t.addAll rs).size }
        shared := t.addAll rs
        log := loadedLog c (t.addAll rs).size } := by
  rw [Warmup.step_of_no_errors fs rfl]
  simp only [Stage.run, Warmup.fillTable, opened, h]
  rfl

theorem step_attributes_error {e : Param.StoreError} (h : store.records fs = .error e)
    (t : AttributeTable) :
    Warmup.step fs (opened path c store closers t) (.attributes .shared) =
      (opened path c store closers t).stopped (.attributes e) [utf8 "Populating params..."] := by
  rw [Warmup.step_of_no_errors fs rfl]
  simp only [Stage.run, Warmup.fillTable, opened, h]
  rfl

/-- The stages after one that has failed do nothing. -/
theorem run_stopped (s : State) (e : Warmup.StageError) (lines : List Bytes) (ps : List Stage) :
    (Warmup.run fs ps (s.stopped e lines)).context.errors ≠ [] ∧
      (Warmup.run fs ps (s.stopped e lines)).shared = s.shared := by
  have herr : (s.stopped e lines).context.errors ≠ [] := by simp [State.stopped]
  rw [Warmup.run_of_errors herr]
  exact ⟨herr, rfl⟩

/-- A run that does not load has an error, and the table is as it was. -/
theorem run_unloaded (h : ¬ ∃ c rs, Loads fs path c rs) (t : AttributeTable) :
    (Warmup.run fs attributeStages (loading path t)).context.errors ≠ [] ∧
      (Warmup.run fs attributeStages (loading path t)).shared = t := by
  rw [attributeStages, Warmup.run_cons]
  rcases hc : Config.load fs path with e | c
  · rw [step_config_error hc]
    exact run_stopped _ _ _ _
  rw [step_config hc, Warmup.run_cons]
  rcases ho : openStore fs c with e | ⟨store, closers⟩
  · rw [step_store_error ho]
    exact run_stopped _ _ _ _
  rw [step_store ho, Warmup.run_cons]
  rcases hr : store.records fs with e | rs
  · rw [step_attributes_error hr]
    exact run_stopped _ _ _ _
  · exact absurd ⟨c, rs, hc, store, closers, ho, hr⟩ h

theorem closeNoted_shared (s : State) : (Warmup.closeNoted s).2.shared = s.shared := by
  unfold Warmup.closeNoted
  dsimp only
  split <;> rfl

theorem closeNoted_log (s : State) :
    (Warmup.closeNoted s).2.log = s.log ++ s.context.close.1.failure.toList.map closingLine := by
  unfold Warmup.closeNoted
  dsimp only
  cases s.context.close.1.failure with
  | none => exact (List.append_nil _).symm
  | some text => rfl

/-- Of what a configuration opens, only a database can fail to close. -/
theorem closingLog_of_openStore (h : openStore fs c = .ok (store, closers)) :
    (closers.reverse.findSome? Warmup.Closer.failure?).toList.map closingLine = closingLog fs c := by
  rcases Warmup.openStore_closers h with ⟨hne, -, rfl⟩ | ⟨hsqlite, d, -, hpath, -, rfl⟩
  · rw [closingLog, if_neg hne]
    rfl
  · rw [closingLog, if_pos hsqlite, hpath]
    cases fs.driver.closingFault c.path <;> rfl

/-- A run that loads fills the table. Closing its context changes nothing but the log. -/
theorem run_loaded {rs : List Record} (h : Loads fs path c rs) (t : AttributeTable) :
    let s := Warmup.run fs attributeStages (loading path t)
    s.context.errors = [] ∧ s.context.config = some c ∧ s.shared = t.addAll rs ∧
      (Warmup.closeNoted s).2.log = loadedLog c (t.addAll rs).size ++ closingLog fs c := by
  intro s
  obtain ⟨hc, store, closers, hopen, hrecords⟩ := h
  have hs : s = Warmup.step fs (opened path c store closers t) (.attributes .shared) := by
    show Warmup.run fs (.config :: .store :: [.attributes .shared]) (loading path t) = _
    rw [Warmup.run_cons, step_config hc, Warmup.run_cons, step_store hopen, Warmup.run_cons]
    rfl
  rw [hs, step_attributes hrecords]
  refine ⟨rfl, rfl, rfl, ?_⟩
  rw [closeNoted_log, ← closingLog_of_openStore hopen]
  rfl

end Stages

/-! ## The report -/

section Reports

variable {fs : FileSystem} {args rest : List Bytes} {settings : AttributeSettings}

theorem attributeReport_unloaded
    (hflags : Flag.parse attributeFlags args {} = (.ok rest, settings))
    (h : ¬ ∃ c rs, Loads fs settings.config c rs) (session : Session) :
    (attributeReport fs args session).1.error ≠ none ∧
      (attributeReport fs args session).2 = session := by
  obtain ⟨herr, hshared⟩ := run_unloaded h session.attributes
  have hfailed : (Warmup.run fs attributeStages
      (loading settings.config session.attributes)).context.failed = true := by
    simpa [Warmup.Context.failed] using herr
  unfold loading at hfailed hshared
  simp only [attributeReport, hflags, hfailed, if_true, closeNoted_shared, hshared]
  exact ⟨by simp, trivial⟩

theorem attributeReport_loaded {c : Config} {rs : List Record}
    (hflags : Flag.parse attributeFlags args {} = (.ok rest, settings))
    (h : Loads fs settings.config c rs) (session : Session) :
    let t := session.attributes.addAll rs
    let log := Warmup.logText (loadedLog c t.size ++ closingLog fs c)
    (∀ results, attributeResults settings.id t = .ok results →
      attributeReport fs args session =
        ({ results := results, log := log, colored := asksColor (some c) },
          { session with attributes := t })) ∧
    (∀ e, attributeResults settings.id t = .error e →
      attributeReport fs args session =
        ({ error := some e, log := log, colored := asksColor (some c) },
          { session with attributes := t })) := by
  intro t log
  obtain ⟨herr, hconfig, hshared, hlog⟩ := run_loaded h session.attributes
  have hfailed : (Warmup.run fs attributeStages
      (loading settings.config session.attributes)).context.failed = false := by
    simpa [Warmup.Context.failed] using herr
  unfold loading at hfailed hshared hlog hconfig
  simp only [attributeReport, hflags, hfailed, Bool.false_eq_true, if_false, closeNoted_shared,
    hshared, hlog, hconfig]
  constructor
  · intro results hresults
    rw [hresults]
  · intro e he
    rw [he]

theorem attributeReport_session {c : Config} {rs : List Record}
    (hflags : Flag.parse attributeFlags args {} = (.ok rest, settings))
    (h : Loads fs settings.config c rs) (session : Session) :
    (attributeReport fs args session).2 =
      { session with attributes := session.attributes.addAll rs } := by
  obtain ⟨hshown, hrefused⟩ := attributeReport_loaded hflags h session
  rcases hresults : attributeResults settings.id (session.attributes.addAll rs) with e | results
  · rw [hrefused e hresults]
  · rw [hshown results hresults]

end Reports

/-! ## Flags -/

/-- A flag of the command. -/
inductive AttributeItem where
  | config (path : Bytes)
  | id (n : Int64)
deriving DecidableEq, Repr

namespace AttributeItem

/-- The name of the flag. -/
def flagName : AttributeItem → Bytes
  | .config _ => utf8 "config"
  | .id _ => utf8 "id"

/-- Its value: the path, or the numeral of the id. -/
def text : AttributeItem → Bytes
  | .config path => path
  | .id n => Numeral.ofInt n.toInt

/-- The path, if the flag gives one. -/
def path? : AttributeItem → Option Bytes
  | .config path => some path
  | .id _ => none

/-- The id, if the flag gives one. -/
def id? : AttributeItem → Option Int64
  | .config _ => none
  | .id n => some n

end AttributeItem

/-- A flag of the command, and how it is written. -/
structure AttributeFlag where
  item : AttributeItem
  double : Bool
  attached : Bool
deriving DecidableEq, Repr

/-- The flag with its name and value as they are given. -/
def AttributeFlag.given (f : AttributeFlag) : Flag.Given :=
  ⟨f.item.flagName, f.item.text, f.double, f.attached⟩

/-- The configuration file: the last one that is given, or the usual one. -/
def configFile (flags : List AttributeFlag) : Bytes :=
  (flags.filterMap (·.item.path?)).getLast?.getD (utf8 "cs2types.yaml")

/-- The last id that is given. -/
def selected? (flags : List AttributeFlag) : Option Int64 :=
  (flags.filterMap (·.item.id?)).getLast?

/-- What a flag sets. -/
def AttributeItem.set (s : AttributeSettings) : AttributeItem → AttributeSettings
  | .config path => { s with config := path }
  | .id n => { s with id := n }

theorem parse_attributeFlag (f : AttributeFlag) (rest : List Bytes) (s : AttributeSettings) :
    Flag.parse attributeFlags (f.given.words ++ rest) s =
      Flag.parse attributeFlags rest (f.item.set s) := by
  obtain ⟨item, double, attached⟩ := f
  cases item with
  | config path =>
    exact Flag.parse_words_ok (g := ⟨utf8 "config", path, double, attached⟩)
      (Flag.properName_cons (by decide) (by decide)) rfl rfl rfl rest
  | id n =>
    refine Flag.parse_words_ok (g := ⟨utf8 "id", Numeral.ofInt n.toInt, double, attached⟩)
      (Flag.properName_cons (by decide) (by decide)) rfl rfl ?_ rest
    dsimp only
    rw [Integer.readPrefixedInt_ofInt]
    rfl

theorem parse_allAttributeFlags (flags : List AttributeFlag) (rest : List Bytes) (s : AttributeSettings) :
    Flag.parse attributeFlags (flags.flatMap (·.given.words) ++ rest) s =
      Flag.parse attributeFlags rest (flags.foldl (fun s f => f.item.set s) s) := by
  induction flags generalizing s with
  | nil => rfl
  | cons f flags ih =>
    rw [List.flatMap_cons, List.append_assoc, parse_attributeFlag, ih, List.foldl_cons]

/-- Of the flags of one kind the last counts. -/
theorem foldl_set_eq (flags : List AttributeFlag) :
    flags.foldl (fun s f => f.item.set s) {} =
      { config := configFile flags, id := (selected? flags).getD (-1) } := by
  induction flags using List.reverseRecOn with
  | nil => rfl
  | append_singleton flags f ih =>
    rw [List.foldl_append, ih]
    obtain ⟨item, double, attached⟩ := f
    cases item <;>
      simp [AttributeItem.set, configFile, selected?, AttributeItem.path?, AttributeItem.id?]

theorem parse_attributeArguments (flags : List AttributeFlag) {rest : List Bytes}
    (hrest : ∀ w ∈ rest.head?, w.head? ≠ some 0x2D) :
    Flag.parse attributeFlags (flags.flatMap (·.given.words) ++ rest) {} =
      (.ok rest, { config := configFile flags, id := (selected? flags).getD (-1) }) := by
  rw [parse_allAttributeFlags, foldl_set_eq]
  cases rest with
  | nil => rfl
  | cons w rest => exact Flag.parse_plain (hrest w rfl) rest _

/-! ## One attribute -/

/-- The line of one attribute. -/
def attributeLine (id : Int64) (a : Atomic) : Bytes :=
  Numeral.ofInt id.toInt ++ [0x09] ++ a.name ++ [0x0A]

section Results

variable {t : AttributeTable} {n : Int64}

theorem attributeResults_found (hn : 0 ≤ n) {a : Atomic} (h : t.lookup n = some a) :
    attributeResults n t = .ok (attributeLine n a) := by
  simp only [attributeResults, hn, if_true, h, attributeLine]

theorem attributeResults_missing (hn : 0 ≤ n) (h : t.lookup n = none) :
    attributeResults n t = .error (.noAttribute n) := by
  simp only [attributeResults, hn, if_true, h]

theorem attributeResults_negative (hn : n < 0) (t : AttributeTable) :
    attributeResults n t =
      .ok (Columns.layout (t.ids.map fun i => [Numeral.ofInt i.toInt, (t.typeOf i).name])) := by
  simp only [attributeResults, if_neg (Int64.not_le.2 hn)]

end Results

/-- When the attributes have been loaded, an id that is not negative selects one of them: the command
prints the line of this attribute and nothing else, or it fails because the table does not have it, and
prints nothing. With a negative id it prints all attributes, whether or not the table has the id. -/
theorem attrs_prints_selected (fs : FileSystem) (session : Session) (flags : List AttributeFlag)
    {rest : List Bytes} (hrest : ∀ w ∈ rest.head?, w.head? ≠ some 0x2D) {n : Int64}
    (hn : selected? flags = some n) {c : Config} {rs : List Record}
    (h : Loads fs (configFile flags) c rs) :
    let t := session.attributes.addAll rs
    let log := Warmup.logText (loadedLog c t.size ++ closingLog fs c)
    let r := run fs (utf8 "attrs" :: flags.flatMap (·.given.words) ++ rest) session
    r.2 = { session with attributes := t } ∧
    (0 ≤ n →
      (∀ a, t.lookup n = some a → r.1 = { stdout := attributeLine n a, stderr := log, code := 0 }) ∧
      (t.lookup n = none →
        r.1 = { stdout := []
                stderr := log ++ Report.errorLine (asksColor (some c)) (.noAttribute n)
                code := 1 } ∧
        (CommandError.noAttribute n).message =
          utf8 "attribute " ++ Numeral.ofInt n.toInt ++ utf8 " not found")) ∧
    (n < 0 →
      r.1 = { stdout := Columns.layout (t.ids.map fun i => [Numeral.ofInt i.toInt, (t.typeOf i).name])
              stderr := log
              code := 0 }) := by
  intro t log r
  have hflags := parse_attributeArguments flags hrest
  rw [hn, Option.getD_some] at hflags
  obtain ⟨hshown, hrefused⟩ := attributeReport_loaded hflags h session
  have hr : r = ((attributeReport fs (flags.flatMap (·.given.words) ++ rest) session).1.outcome,
    (attributeReport fs (flags.flatMap (·.given.words) ++ rest) session).2) := rfl
  rw [hr]
  refine ⟨attributeReport_session hflags h session,
    fun hpos => ⟨fun a ha => ?_, fun hnone => ⟨?_, rfl⟩⟩, fun hneg => ?_⟩
  · rw [hshown _ (attributeResults_found hpos ha)]
    rfl
  · rw [hrefused _ (attributeResults_missing hpos hnone)]
    simp only [Report.outcome, CommandError.isUsage, Bool.false_eq_true, if_false, List.append_nil]
    rfl
  · rw [hshown _ (attributeResults_negative hneg t)]
    rfl

/-- Two attributes, the second selected by the last of two ids. -/
theorem attrs_of_last_id :
    let content := utf8 "params:\n- id: -5\n  type: s\n- id: 20\n  type: o\n"
    let fs : FileSystem := { entries :=
      [([utf8 "c.yaml"], .file (utf8 "params: \x7bsource: yaml, path: p.yaml\x7d\ncolor: always\n")),
        ([utf8 "p.yaml"], .file content)] }
    let flags : List AttributeFlag :=
      [⟨.id (-5), true, true⟩, ⟨.config (utf8 "c.yaml"), false, false⟩, ⟨.id 20, true, false⟩]
    let c : Config :=
      { source := Config.yaml, path := utf8 "p.yaml", color := Config.always }
    let rs : List Record := [{ id := -5, stackType := 0x73 }, { id := 20, stackType := 0x6F }]
    (∀ w ∈ [utf8 "rest"].head?, w.head? ≠ some 0x2D) ∧ selected? flags = some 20 ∧
      Loads fs (configFile flags) c rs ∧
      (run fs (utf8 "attrs" :: flags.flatMap (·.given.words) ++ [utf8 "rest"]) {}).1 =
        { stdout := utf8 "20\tItem\n"
          stderr := utf8 "Opening yaml params from p.yaml\nPopulating params...\nPopulated 2 params\n" } := by
  intro content fs flags c rs
  have hrest : ∀ w ∈ [utf8 "rest"].head?, w.head? ≠ some 0x2D := by decide +kernel
  have hn : selected? flags = some 20 := rfl
  have hload : Loads fs (configFile flags) c rs := by
    refine ⟨by decide +kernel, .yaml content (utf8 "p.yaml"), [], ?_, ?_⟩ <;> decide +kernel
  have hfound : (AttributeTable.empty.addAll rs).lookup 20 = some .item := by decide +kernel
  refine ⟨hrest, hn, hload, ?_⟩
  rw [((attrs_prints_selected fs {} flags hrest hn hload).2.1 (by decide)).1 .item hfound]
  decide +kernel

/-- A negative id that the table has. -/
theorem attrs_of_negative_id_prints_all :
    let fs : FileSystem := { entries :=
      [([utf8 "cs2types.yaml"], .file (utf8 "params:\n  source: yaml\n  path: p.yaml\n")),
        ([utf8 "p.yaml"], .file (utf8 "params:\n- id: -5\n  type: s\n- id: 20\n  type: o\n"))] }
    let r := run fs [utf8 "attrs", utf8 "-id", utf8 "-5"] {}
    r.2.attributes.lookup (-5) = some .string ∧ r.1.stdout ≠ attributeLine (-5) .string ∧
      r.1.stdout = utf8 "-5  string\n20  Item\n" ∧ r.1.code = 0 := by
  decide +kernel

end StackTypes.Command
