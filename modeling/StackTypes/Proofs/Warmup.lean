/-
Laws of the warm-up. `Ran` says once what a stage can do to the state: leave it alone, put in what was
missing, fill a table, or fail, and a failure adds one error and perhaps lines in the log but touches
nothing else. So a run of stages goes on without errors up to some stage, and if that is not the last
one, the next stage has failed and the state is as it was before it.
-/
import StackTypes.Warmup

namespace StackTypes.Warmup

/-! ## One stage -/

/-- The state in which a stage has stopped a run: one more error, perhaps lines in the log, and nothing
else. -/
def State.stopped (s : State) (e : StageError) (lines : List Bytes) : State :=
  { s with
    context := { s.context with errors := s.context.errors ++ [e] }
    log := s.log ++ lines }

/-- What a stage can do to a state. -/
inductive Ran (fs : FileSystem) (s : State) : State → Prop
  /-- What the stage would put in is there. -/
  | kept : Ran fs s s
  | configured {c : Config} (hnone : s.context.config = none)
      (hload : Config.load fs s.context.configPath = .ok c) :
      Ran fs s (s.withContext { s.context with config := some c })
  | opened {c : Config} {store : Param.Store} {closers : List Closer}
      (hnone : s.context.store = none) (hconfig : s.context.config = some c)
      (hopen : openStore fs c = .ok (store, closers)) (line : Bytes) :
      Ran fs s ((s.note line).withContext
        { s.context with store := some store, closers := s.context.closers ++ closers })
  | filled {choice : TableChoice} {store : Param.Store} {n : Nat} {t : AttributeTable}
      (hstore : s.context.store = some store)
      (hfill : (s.table choice).populate (store.records fs) = (⟨n, none⟩, t)) (lines : List Bytes) :
      Ran fs s { s.setTable choice t with
        context := { s.context with attributeCount := n }, log := s.log ++ lines }
  | failed (e : StageError) (lines : List Bytes) : Ran fs s (s.stopped e lines)

theorem ran_fail (fs : FileSystem) (s : State) (e : StageError) : Ran fs s (s.fail e) := by
  have h : Ran fs s (s.stopped e []) := .failed e []
  unfold State.stopped at h
  rwa [List.append_nil] at h

/-- The configuration is kept, loaded, or the stage fails. -/
theorem ran_loadConfig (fs : FileSystem) (s : State) : Ran fs s (loadConfig fs s) := by
  unfold loadConfig
  split
  · exact .kept
  · rename_i hnone
    split
    · exact ran_fail fs s _
    · rename_i c hload
      exact .configured (by simpa using hnone) hload

/-- The store is kept, opened, or the stage fails. -/
theorem ran_loadStore (fs : FileSystem) (s : State) : Ran fs s (loadStore fs s) := by
  unfold loadStore
  split
  · exact .kept
  · rename_i hnone
    split
    · exact ran_fail fs s _
    · rename_i c hconfig
      dsimp only
      split
      · exact .failed _ [_]
      · rename_i store closers hopen
        exact .opened (by simpa using hnone) hconfig hopen _

@[simp] theorem State.table_note (s : State) (line : Bytes) (choice : TableChoice) :
    (s.note line).table choice = s.table choice := by
  cases choice <;> rfl

theorem State.setTable_note (s : State) (line : Bytes) (choice : TableChoice) (t : AttributeTable) :
    (s.note line).setTable choice t =
      { s.setTable choice t with context := s.context, log := s.log ++ [line] } := by
  cases choice <;> rfl

/-- The table is filled, or the stage fails. -/
theorem ran_fillTable (fs : FileSystem) (choice : TableChoice) (s : State) :
    Ran fs s (fillTable fs choice s) := by
  unfold fillTable
  split
  · exact ran_fail fs s _
  · rename_i store hstore
    dsimp only
    split
    · exact .failed _ [_]
    · rename_i n t hfill
      rw [State.table_note] at hfill
      -- the table is filled between the two lines of the log, which makes no difference
      have h := Ran.filled hstore hfill [utf8 "Populating params...",
        utf8 "Populated " ++ Numeral.ofNat n ++ utf8 " params"]
      rw [List.append_cons] at h
      rw [State.setTable_note]
      exact h

/-- Every stage does one of the things a stage can do. -/
theorem ran_stage (fs : FileSystem) (s : State) (stage : Stage) : Ran fs s (stage.run fs s) := by
  cases stage with
  | config => exact ran_loadConfig fs s
  | store => exact ran_loadStore fs s
  | attributes choice => exact ran_fillTable fs choice s
  | fail text => exact ran_fail fs s _

/-- A stage adds no error, or it stops. -/
theorem errors_or_stopped (fs : FileSystem) (s : State) (stage : Stage) :
    (stage.run fs s).context.errors = s.context.errors ∨
      ∃ e lines, stage.run fs s = s.stopped e lines := by
  have hran := ran_stage fs s stage
  generalize stage.run fs s = s' at *
  cases hran with
  | kept | configured | opened | filled => exact .inl rfl
  | failed e lines => exact .inr ⟨e, lines, rfl⟩

/-! ## Runs of stages -/

/-- A stage is passed over once there is an error. -/
theorem step_of_errors {fs : FileSystem} {s : State} (h : s.context.errors ≠ []) (stage : Stage) :
    step fs s stage = s := by
  unfold step Context.failed
  simp [h]

theorem step_of_no_errors (fs : FileSystem) {s : State} (h : s.context.errors = []) (stage : Stage) :
    step fs s stage = stage.run fs s := by
  unfold step Context.failed
  simp [h]

theorem ran_step (fs : FileSystem) (s : State) (stage : Stage) : Ran fs s (step fs s stage) := by
  by_cases h : s.context.errors = []
  · rw [step_of_no_errors fs h]
    exact ran_stage fs s stage
  · rw [step_of_errors h]
    exact .kept

theorem run_cons (fs : FileSystem) (stage : Stage) (ps : List Stage) (s : State) :
    run fs (stage :: ps) s = run fs ps (step fs s stage) := rfl

theorem run_append (fs : FileSystem) (ps qs : List Stage) (s : State) :
    run fs (ps ++ qs) s = run fs qs (run fs ps s) := List.foldl_append

/-- A run that starts with an error does nothing. -/
theorem run_of_errors {fs : FileSystem} {s : State} (h : s.context.errors ≠ []) (ps : List Stage) :
    run fs ps s = s := by
  induction ps with
  | nil => rfl
  | cons stage ps ih => rw [run_cons, step_of_errors h, ih]

/-- The stages up to the `k`-th have run without an error, and the next one, if there is one, has
stopped the run. -/
structure StopsAfter (fs : FileSystem) (ps : List Stage) (s : State) (k : Nat) : Prop where
  le_length : k ≤ ps.length
  clean : ∀ i ≤ k, (run fs (ps.take i) s).context.errors = []
  stopped : k < ps.length → ∃ stage e lines, ps[k]? = some stage ∧
    stage.run fs (run fs (ps.take k) s) = (run fs (ps.take k) s).stopped e lines ∧
    run fs ps s = (run fs (ps.take k) s).stopped e lines

/-- A run that starts without errors goes through to the end, or is stopped at some stage. -/
theorem exists_stopsAfter (fs : FileSystem) (ps : List Stage) {s : State}
    (h : s.context.errors = []) : ∃ k, StopsAfter fs ps s k := by
  induction ps generalizing s with
  | nil => exact ⟨0, Nat.le_refl 0, by simpa [run] using h, by simp⟩
  | cons stage ps ih =>
    have hstep := step_of_no_errors fs h stage
    rcases errors_or_stopped fs s stage with herr | ⟨e, lines, hstop⟩
    · -- the first stage went well, so the run stops where the rest of it does
      obtain ⟨k, hle, hclean, hstopped⟩ := ih (s := step fs s stage) (by rw [hstep, herr, h])
      refine ⟨k + 1, Nat.succ_le_succ hle, fun i hi => ?_, fun hk => ?_⟩
      · cases i with
        | zero => exact h
        | succ i => exact hclean i (Nat.le_of_succ_le_succ hi)
      · exact hstopped (Nat.lt_of_succ_lt_succ hk)
    · -- the first stage stopped, and the others are passed over
      refine ⟨0, Nat.zero_le _, fun i hi => ?_, fun _ => ⟨stage, e, lines, rfl, hstop, ?_⟩⟩
      · obtain rfl := Nat.le_zero.1 hi
        exact h
      · rw [run_cons, hstep, hstop]
        exact run_of_errors (by simp [State.stopped]) ps

/-- Stages in one run do what they do in two runs, one after the other; with an error they do nothing;
and without one they run up to some place, where the run ends or the next stage stops it and leaves
everything but the errors and the log as it was. -/
theorem run_composes_and_stops (fs : FileSystem) (ps qs : List Stage) (s : State) :
    run fs (ps ++ qs) s = run fs qs (run fs ps s) ∧
    (s.context.errors ≠ [] → run fs ps s = s) ∧
    (s.context.errors = [] → ∃ k, StopsAfter fs ps s k) :=
  ⟨run_append fs ps qs s, fun h => run_of_errors h ps, exists_stopsAfter fs ps⟩

end StackTypes.Warmup
