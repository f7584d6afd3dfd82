/-
Runs that fail. A command that fails has printed nothing, whatever made it fail, with one exception:
descriptors are shown one after the other, so a run that meets one which cannot be read has shown those
before it, and shows nothing more. The shared attributes change only if the stages that load them have
gone through to the end.
-/
import StackTypes.Proofs.Command.Attributes
import StackTypes.Proofs.History

namespace StackTypes

/-! ## Reports -/

namespace Report

/-- No results beside an error. -/
def Clean (r : Report) : Prop :=
  r.error ≠ none → r.results = []

/-- The results of a report are what the run prints, whether it fails or not. -/
theorem stdout_outcome (r : Report) : r.outcome.stdout = r.results := by
  unfold outcome
  split <;> rfl

/-- A run ends with code zero exactly if its report has no error. -/
theorem code_outcome (r : Report) : r.outcome.code = 0 ↔ r.error = none := by
  unfold outcome
  split
  · rename_i h
    simp [h]
  · rename_i e h
    cases e.isUsage <;> simp [h]

/-- A run whose report is clean prints nothing if it fails. -/
theorem Clean.stdout_eq_nil {r : Report} (h : r.Clean) (hcode : r.outcome.code ≠ 0) :
    r.outcome.stdout = [] := by
  rw [stdout_outcome]
  exact h fun hnone => hcode (r.code_outcome.2 hnone)

theorem clean_ofResults (results : Bytes) : (ofResults results).Clean :=
  fun h => absurd rfl h

end Report

namespace Command

theorem clean_compactReport (args : List Bytes) : (compactReport args).Clean := by
  unfold compactReport
  split
  · exact fun _ => rfl
  · split
    · exact fun _ => rfl
    · exact Report.clean_ofResults _

theorem clean_castTargets (es : List Expr) (targets : List Bytes) (it : Interner) :
    (castTargets es targets it).1.Clean := by
  unfold castTargets
  split
  · exact fun _ => rfl
  · dsimp only
    split
    · exact fun _ => rfl
    · exact Report.clean_ofResults _

/-- A run of `cast` that fails has no results, for everything is cast before anything is shown. -/
theorem clean_castReport (args : List Bytes) (session : Session) :
    (castReport args session).1.Clean := by
  unfold castReport
  split
  · exact fun _ => rfl
  · split
    · exact fun _ => rfl
    · exact clean_castTargets _ _ _

/-- A run of `attrs` that fails has no results, whichever stage or choice fails. -/
theorem clean_attributeReport (fs : FileSystem) (args : List Bytes) (session : Session) :
    (attributeReport fs args session).1.Clean := by
  unfold attributeReport
  split
  · exact fun _ => rfl
  · dsimp only
    split
    · exact fun _ => rfl
    · split
      · exact fun _ => rfl
      · exact fun h => absurd rfl h

/-! ## Descriptors -/

theorem dumpText_eq (t : Ty) :
    dumpText t = (if t.isComposite then utf8 "(*typesystem.Composite)(0xPTR)("
      else utf8 "(*typesystem.Atomic)(0xPTR)(") ++ t.toText ++ utf8 ")\n" := by
  cases t <;> rfl

/-- The lines of a type do not show its place. -/
theorem descLines_alike (dump : Bool) {t u : Ty} (h : t.Alike u) :
    descLines dump t = descLines dump u := by
  have hview := h.view_eq
  have htext : t.toText = u.toText := congrArg Ty.View.text hview
  have hslots : t.footprint = u.footprint := congrArg Ty.View.footprint hview
  have hkind : t.isComposite = u.isComposite := congrArg Ty.View.isComposite hview
  rw [descLines, descLines, dumpText_eq, dumpText_eq, htext, hslots, hkind]

/-- What is shown of a descriptor that can be read. -/
def descText (dump : Bool) (d : Bytes) : Bytes :=
  ((Descriptor.parse d .shared).1.map (descLines dump)).getD []

/-- The lines of a descriptor are those of the type that is read, whatever is registered. -/
theorem descText_eq (dump : Bool) {d : Bytes} {it it' : Interner} {t : Ty}
    (h : Descriptor.parse d it = (some t, it')) : descText dump d = descLines dump t := by
  obtain ⟨hrel, -⟩ := Descriptor.agree_parse d .shared it
  have hrel : Option.Rel Ty.Alike (Descriptor.parse d .shared).1 (Descriptor.parse d it).1 := hrel
  unfold descText
  rw [h] at hrel
  generalize (Descriptor.parse d .shared).1 = o at hrel
  cases hrel with
  | some hrel => exact descLines_alike dump hrel

/-- Descriptors that can be read are shown in order, and the rest are shown after them. -/
theorem descAll_append {front : List Bytes} (h : ∀ d ∈ front, Descriptor.Readable d) (dump : Bool)
    (back : List Bytes) (it : Interner) :
    ∃ it', descAll dump (front ++ back) it =
      (front.flatMap (descText dump) ++ (descAll dump back it').1, (descAll dump back it').2) := by
  induction front generalizing it with
  | nil => exact ⟨it, rfl⟩
  | cons d front ih =>
    obtain ⟨hd, hfront⟩ := List.forall_mem_cons.1 h
    obtain ⟨t, it₁, ht⟩ := hd.exists_parse it
    obtain ⟨it', hrest⟩ := ih hfront it₁
    refine ⟨it', ?_⟩
    simp only [List.cons_append, descAll, ht, hrest, List.flatMap_cons, descText_eq dump ht,
      List.append_assoc]

/-- A run of `desc` comes to a descriptor that cannot be read, after others that can. -/
structure Misread (args : List Bytes) (dump : Bool) (before : List Bytes) (bad : Bytes) : Prop where
  args_eq : ∃ rest settings after, args = utf8 "desc" :: rest ∧ settings.dump = dump ∧
    Flag.parse descFlags rest {} = (.ok (before ++ bad :: after), settings)
  readable : ∀ d ∈ before, Descriptor.Readable d
  unreadable : ¬ Descriptor.Readable bad

section Desc

variable {rest : List Bytes} (session : Session)

/-- A misread run names the descriptor that cannot be read, and has shown those before it. -/
theorem descReport_misread {dump : Bool} {before : List Bytes} {bad : Bytes}
    (h : Misread (utf8 "desc" :: rest) dump before bad) :
    (descReport rest session).1.error = some (.unknownType bad) ∧
      (descReport rest session).1.results = before.flatMap (descText dump) := by
  obtain ⟨⟨_, settings, after, ⟨⟩, rfl, hflags⟩, hbefore, hbad⟩ := h
  obtain ⟨it', hall⟩ := descAll_append hbefore settings.dump (bad :: after) session.interner
  rw [Descriptor.readable_iff bad it'] at hbad
  rcases hparse : Descriptor.parse bad it' with ⟨_ | t, it''⟩
  · have hempty : (before ++ bad :: after).isEmpty = false := by simp
    simp only [descAll, hparse, List.append_nil] at hall
    simp only [descReport, hflags, hempty, Bool.false_eq_true, if_false, hall, and_self]
  · rw [hparse] at hbad
    exact absurd rfl hbad

/-- A run of `desc` that meets no descriptor it cannot read is clean. -/
theorem clean_descReport
    (h : ¬ ∃ dump before bad, Misread (utf8 "desc" :: rest) dump before bad) :
    (descReport rest session).1.Clean := by
  rcases hflags : Flag.parse descFlags rest {} with ⟨e | ds, settings⟩
  · simp only [descReport, hflags]
    exact fun _ => rfl
  cases hempty : ds.isEmpty with
  | true =>
    simp only [descReport, hflags, hempty, if_true]
    exact fun _ => rfl
  | false =>
    -- a first descriptor that cannot be read would make it a misread run
    have hread : ∀ d ∈ ds, Descriptor.Readable d := by
      by_contra hnot
      cases hfind : ds.find? (fun d => !decide (Descriptor.Readable d)) with
      | none => exact hnot (by simpa using hfind)
      | some bad =>
        obtain ⟨hbad, before, after, rfl, hbefore⟩ := List.find?_eq_some_iff_append.1 hfind
        exact h ⟨settings.dump, before, bad, ⟨rest, settings, after, rfl, rfl, hflags⟩,
          by simpa using hbefore, by simpa using hbad⟩
    obtain ⟨it', hall⟩ := descAll_append hread settings.dump [] session.interner
    rw [List.append_nil] at hall
    simp only [descAll] at hall
    simp only [descReport, hflags, hempty, Bool.false_eq_true, if_false, hall]
    exact Report.clean_ofResults _

end Desc

/-! ## Runs -/

/-- A run does what the command of its first argument does with the other arguments. -/
theorem run_cons (fs : FileSystem) {name : Bytes} {c : Command} (h : ofName? name = some c)
    (args : List Bytes) (session : Session) :
    run fs (name :: args) session =
      ((c.report fs args session).1.outcome, (c.report fs args session).2) := by
  simp only [run, h]

theorem eq_desc_of_ofName? {name : Bytes} (h : ofName? name = some .desc) : name = utf8 "desc" := by
  obtain ⟨front, back, hnames, -⟩ := List.lookup_eq_some_iff.1 h
  have hmem : (name, Command.desc) ∈ names := by simp [hnames]
  have honly : ∀ p ∈ names, p.2 = .desc → p.1 = utf8 "desc" := by decide +kernel
  exact honly _ hmem rfl

/-- The report of every command is clean, but for runs of `desc` that are misread. -/
theorem clean_or_misread (fs : FileSystem) {name : Bytes} {c : Command} (h : ofName? name = some c)
    (args : List Bytes) (session : Session) :
    (c.report fs args session).1.Clean ∨ ∃ dump before bad, Misread (name :: args) dump before bad := by
  cases c with
  | catalog => exact .inl (Report.clean_ofResults _)
  | compact => exact .inl (clean_compactReport args)
  | desc =>
    obtain rfl := eq_desc_of_ofName? h
    by_cases hmis : ∃ dump before bad, Misread (utf8 "desc" :: args) dump before bad
    · exact .inr hmis
    · exact .inl (clean_descReport session hmis)
  | cast => exact .inl (clean_castReport args session)
  | attrs => exact .inl (clean_attributeReport fs args session)
  | help => exact .inl (Report.clean_ofResults _)

/-- A run that fails has printed nothing, or it is misread. -/
theorem stdout_of_failed (fs : FileSystem) (args : List Bytes) (session : Session)
    (hcode : (run fs args session).1.code ≠ 0) :
    (∃ dump before bad, Misread args dump before bad) ∨ (run fs args session).1.stdout = [] := by
  cases args with
  | nil => exact .inr rfl
  | cons name args =>
    cases hname : ofName? name with
    | none =>
      have hclean : (Report.ofUsage (.unknownCommand name)).Clean := fun _ => rfl
      simp only [run, hname] at hcode ⊢
      exact .inr (hclean.stdout_eq_nil hcode)
    | some c =>
      rw [run_cons fs hname] at hcode ⊢
      rcases clean_or_misread fs hname args session with hclean | hmis
      · exact .inr (hclean.stdout_eq_nil hcode)
      · exact .inl hmis

/-- The flags of `attrs` can be read, and what they lead to loads. -/
def LoadsFrom (fs : FileSystem) (args : List Bytes) (c : Config) (rs : List Param.Record) : Prop :=
  ∃ rest settings, Flag.parse attributeFlags args {} = (.ok rest, settings) ∧
    Loads fs settings.config c rs

/-- A run of `attrs` that cannot load fails and leaves the session as it was. -/
theorem attributeReport_of_not_loadsFrom {fs : FileSystem} {args : List Bytes}
    (h : ¬ ∃ c rs, LoadsFrom fs args c rs) (session : Session) :
    (attributeReport fs args session).1.error ≠ none ∧
      (attributeReport fs args session).2 = session := by
  rcases hflags : Flag.parse attributeFlags args {} with ⟨e | rest, settings⟩
  · simp only [attributeReport, hflags]
    exact ⟨by simp [Report.ofFlagError], trivial⟩
  · refine attributeReport_unloaded hflags ?_ session
    rintro ⟨c, rs, hload⟩
    exact h ⟨c, rs, rest, settings, hflags, hload⟩

/-- A run that fails prints nothing, unless it meets a descriptor that cannot be read. Such a run fails,
and prints what is shown of the descriptors before that one and nothing else. A run of `attrs` whose
stages do not go through to the end fails and leaves the shared attributes as they were; if they go
through, their records are added. -/
theorem failing_run_prints_nothing (fs : FileSystem) (args : List Bytes) (session : Session) :
    let r := run fs args session
    (r.1.code ≠ 0 → (∃ dump before bad, Misread args dump before bad) ∨ r.1.stdout = []) ∧
    (∀ dump before bad, Misread args dump before bad →
      r.1.code = 1 ∧ r.1.stdout = before.flatMap (descText dump)) ∧
    (∀ rest, args = utf8 "attrs" :: rest →
      ((¬ ∃ c rs, LoadsFrom fs rest c rs) →
        r.1.code ≠ 0 ∧ r.2.attributes = session.attributes) ∧
      (∀ c rs, LoadsFrom fs rest c rs → r.2.attributes = session.attributes.addAll rs)) := by
  intro r
  refine ⟨stdout_of_failed fs args session, fun dump before bad hmis => ?_, fun rest hargs => ?_⟩
  · obtain ⟨rest, -, -, rfl, -⟩ := hmis.args_eq
    obtain ⟨herror, hresults⟩ := descReport_misread session hmis
    have hname : ofName? (utf8 "desc") = some .desc := by decide +kernel
    have hr : r = ((descReport rest session).1.outcome, (descReport rest session).2) :=
      run_cons fs hname rest session
    rw [hr]
    refine ⟨?_, by rw [Report.stdout_outcome, hresults]⟩
    simp [Report.outcome, herror, CommandError.isUsage]
  · subst hargs
    have hname : ofName? (utf8 "attrs") = some .attrs := by decide +kernel
    have hr : r = ((attributeReport fs rest session).1.outcome, (attributeReport fs rest session).2) :=
      run_cons fs hname rest session
    rw [hr]
    refine ⟨fun hnot => ?_, fun c rs hload => ?_⟩
    · obtain ⟨herror, hsession⟩ := attributeReport_of_not_loadsFrom hnot session
      refine ⟨fun hcode => herror ((Report.code_outcome _).1 hcode), by rw [hsession]⟩
    · obtain ⟨words, settings, hflags, hload⟩ := hload
      rw [attributeReport_session hflags hload session]

theorem desc_of_unreadable_third :
    let before := [utf8 "int", utf8 "\x7bint,string\x7d"]
    let args := [utf8 "desc", utf8 "-interned"] ++ before ++ [utf8 "nope", utf8 "string"]
    Misread args false before (utf8 "nope") ∧
      (run {} args {}).1.code = 1 ∧
      (run {} args {}).1.stdout = utf8 "int (1,0,0)\nint, string (1,1,0)\n" := by
  intro before args
  have hmis : Misread args false before (utf8 "nope") := by
    refine ⟨⟨_, { interned := true }, [utf8 "string"], rfl, rfl, ?_⟩, ?_, ?_⟩ <;> decide +kernel
  obtain ⟨hcode, hstdout⟩ := (failing_run_prints_nothing {} args {}).2.1 _ _ _ hmis
  refine ⟨hmis, hcode, hstdout.trans ?_⟩
  decide +kernel

end Command

end StackTypes
