/-
Whatever is registered with a context is released once. A run of operations interleaves stages with
registering, closing and forgetting errors, in any order and under file systems that may differ from
stage to stage. `Change` says once what an operation does to the store and to what is registered; from
it follow the accounts of a whole run: all that was registered is released or still waits, a closing
releases what was registered since the closing before it, and a database that a stage opened is either
open and registered or closed and released.
-/
import StackTypes.Proofs.Warmup

namespace StackTypes.Warmup

/-! ## Closing -/

/-- The closing releases these, the latest registered first, and reports the first failure. -/
structure Closing.Releases (closing : Closing) (registered : List Closer) : Prop where
  released : closing.released = registered.reverse
  failure_eq_none : closing.failure = none ↔ ∀ c ∈ registered, c.failure? = none
  failure_eq_some : ∀ e, closing.failure = some e ↔ ∃ front c back,
    closing.released = front ++ c :: back ∧ c.failure? = some e ∧ ∀ d ∈ front, d.failure? = none

theorem close_releases (c : Context) : c.close.1.Releases c.closers where
  released := rfl
  failure_eq_none := by
    show c.closers.reverse.findSome? Closer.failure? = none ↔ _
    rw [List.findSome?_eq_none_iff]
    simp
  failure_eq_some e := by
    show c.closers.reverse.findSome? Closer.failure? = some e ↔ _
    rw [List.findSome?_eq_some_iff]
    rfl

/-- Is it the store that is to be released? -/
def Closer.isStore : Closer → Bool
  | .store _ => true
  | .named .. => false

/-- The store once it is closed, if that is something to be closed. -/
def shut : Param.Store → Param.Store
  | .dump d => .dump { d with isOpen := false }
  | store => store

theorem shut_comp_shut : shut ∘ shut = shut := by
  funext store
  cases store <;> rfl

theorem closeStore_eq (c : Context) : c.closeStore = { c with store := c.store.map shut } := by
  obtain ⟨_, _, store, _, _, _⟩ := c
  rcases store with _ | store
  · rfl
  · cases store <;> rfl

/-- Releasing touches nothing but the store, and that only if it is among what is released. -/
theorem foldl_release (order : List Closer) (c : Context) :
    order.foldl Context.release c =
      { c with store := if order.any Closer.isStore then c.store.map shut else c.store } := by
  induction order generalizing c with
  | nil => rfl
  | cons closer order ih =>
    rw [List.foldl_cons, ih]
    cases closer with
    | named => simp [Context.release, Closer.isStore]
    | store =>
      rw [Context.release, closeStore_eq]
      cases ho : order.any Closer.isStore <;> simp [ho, Closer.isStore, shut_comp_shut]

/-- A closing closes the store if it is registered, and leaves nothing registered. -/
theorem close_context (c : Context) :
    c.close.2 = { c with
      store := if c.closers.any Closer.isStore then c.store.map shut else c.store
      closers := [] } := by
  unfold Context.close
  dsimp only
  rw [foldl_release, List.any_reverse]

/-! ## Operations -/

/-- What is done with a context. -/
inductive Operation where
  /-- A stage, with the file system that it finds. -/
  | stage (fs : FileSystem) (stage : Stage)
  | addCloser (closer : Closer)
  | close
  | clearErrors

/-- The database that is there now, if there was no store before. -/
def newDatabase : Option Param.Store → Option Param.Store → List Param.Dump
  | none, some (.dump d) => [d]
  | _, _ => []

namespace Operation

/-- The state after an operation. -/
def perform (s : State) : Operation → State
  | stage fs p => step fs s p
  | addCloser closer => s.withContext (s.context.addCloser closer)
  | close => s.withContext s.context.close.2
  | clearErrors => s.withContext s.context.clearErrors

/-- The database that an operation opens. -/
def opens (s : State) (op : Operation) : List Param.Dump :=
  newDatabase s.context.store (op.perform s).context.store

/-- What an operation has to register: what it is given, or the database that it opens, with what the
driver reports when that is closed. -/
def registers (s : State) : Operation → List Closer
  | stage fs p => ((stage fs p).opens s).map fun d => .store (fs.driver.closingFault d.path)
  | addCloser closer => [closer]
  | close | clearErrors => []

/-- What an operation releases, in order. -/
def releases (s : State) : Operation → List Closer
  | close => s.context.close.1.released
  | _ => []

end Operation

/-- The state after operations. -/
def after (s : State) (ops : List Operation) : State :=
  ops.foldl Operation.perform s

/-- What the operations of a run give, each in the state that it finds. -/
def along {α : Type} (give : State → Operation → List α) : State → List Operation → List α
  | _, [] => []
  | s, op :: ops => give s op ++ along give (op.perform s) ops

/-! ## One operation -/

/-- What an operation can do to the store of a context and to what is registered with it, by the
databases it opens, what it registers and what it releases. -/
inductive Change (c c' : Context) : List Param.Dump → List Closer → List Closer → Prop
  | unchanged (hstore : c'.store = c.store) (hclosers : c'.closers = c.closers) : Change c c' [] [] []
  /-- A store that needs no closing is put in. -/
  | text (hnone : c.store = none) {content path : Bytes} (hstore : c'.store = some (.yaml content path))
      (hclosers : c'.closers = c.closers) : Change c c' [] [] []
  | database (hnone : c.store = none) {d : Param.Dump} (hopen : d.isOpen = true)
      (hstore : c'.store = some (.dump d)) {failure : Option Bytes}
      (hclosers : c'.closers = c.closers ++ [.store failure]) : Change c c' [d] [.store failure] []
  | added (closer : Closer) (hstore : c'.store = c.store) (hclosers : c'.closers = c.closers ++ [closer]) :
      Change c c' [] [closer] []
  | closed (hstore : c'.store = if c.closers.any Closer.isStore then c.store.map shut else c.store)
      (hclosers : c'.closers = []) : Change c c' [] [] c.closers.reverse

theorem opened_of_openTable {fs : FileSystem} {path table : Bytes} {d : Param.Dump}
    (h : Param.Dump.openTable fs path table = .ok d) : d.path = path ∧ d.isOpen = true := by
  unfold Param.Dump.openTable at h
  dsimp only at h
  generalize (if table.isEmpty then Param.standardTable else table) = name at h
  split at h
  · split at h <;> cases h
    exact ⟨rfl, rfl⟩
  · cases h

theorem yaml_of_openYaml {fs : FileSystem} {path : Bytes} {store : Param.Store}
    (h : Param.Store.openYaml fs path = .ok store) : ∃ content, store = .yaml content path := by
  unfold Param.Store.openYaml at h
  split at h <;> cases h
  exact ⟨_, rfl⟩

/-- A store needs closing exactly when it is a database, and a database is open at first. -/
theorem openStore_closers {fs : FileSystem} {c : Config} {store : Param.Store} {closers : List Closer}
    (h : openStore fs c = .ok (store, closers)) :
    (c.source ≠ Config.sqlite ∧ (∃ content, store = .yaml content c.path) ∧ closers = []) ∨
      (c.source = Config.sqlite ∧ ∃ d : Param.Dump, store = .dump d ∧ d.path = c.path ∧
        d.isOpen = true ∧ closers = [.store (fs.driver.closingFault d.path)]) := by
  unfold openStore at h
  split at h
  · rename_i hyaml
    have hne : c.source ≠ Config.sqlite := by
      rw [hyaml]
      decide
    split at h <;> cases h
    rename_i hopen
    exact .inl ⟨hne, yaml_of_openYaml hopen, rfl⟩
  · split at h
    · rename_i hsqlite
      split at h <;> cases h
      rename_i d hopen
      obtain ⟨hpath, hd⟩ := opened_of_openTable hopen
      exact .inr ⟨hsqlite, d, rfl, hpath, hd, rfl⟩
    · cases h

theorem newDatabase_some (store : Param.Store) (store' : Option Param.Store) :
    newDatabase (some store) store' = [] := rfl

theorem newDatabase_self (store : Option Param.Store) : newDatabase store store = [] := by
  cases store <;> rfl

/-- Where the store stays and nothing is registered, no database is opened. -/
theorem Change.of_same {c c' : Context} {closer : Param.Dump → Closer} (hstore : c'.store = c.store)
    (hclosers : c'.closers = c.closers) :
    Change c c' (newDatabase c.store c'.store) ((newDatabase c.store c'.store).map closer) [] := by
  rw [hstore, newDatabase_self]
  exact .unchanged hstore hclosers

/-- A stage registers a database if it opens one, and nothing else. -/
theorem Ran.change {fs : FileSystem} {s s' : State} (h : Ran fs s s') :
    Change s.context s'.context (newDatabase s.context.store s'.context.store)
      ((newDatabase s.context.store s'.context.store).map fun d =>
        .store (fs.driver.closingFault d.path)) [] := by
  cases h with
  | kept | configured | filled | failed => exact .of_same rfl rfl
  | opened hnone hconfig hopen line =>
    rw [hnone]
    rcases openStore_closers hopen with ⟨-, ⟨content, rfl⟩, rfl⟩ | ⟨-, d, rfl, -, hd, rfl⟩
    · exact .text hnone rfl (List.append_nil _)
    · exact .database hnone hd rfl rfl

/-- Only a stage opens a database. -/
theorem opens_of_ne_stage (op : Operation) (h : ∀ fs p, op ≠ .stage fs p) (s : State) :
    op.opens s = [] := by
  cases op with
  | stage fs p => exact absurd rfl (h fs p)
  | addCloser | clearErrors => exact newDatabase_self _
  | close =>
    show newDatabase s.context.store s.context.close.2.store = []
    -- a closing puts no store where there was none
    rw [close_context]
    cases s.context.store with
    | none => simp [newDatabase_self]
    | some store => rfl

theorem change_perform (s : State) (op : Operation) :
    Change s.context (op.perform s).context (op.opens s) (op.registers s) (op.releases s) := by
  cases op with
  | stage fs p => exact (ran_step fs s p).change
  | addCloser closer =>
    rw [opens_of_ne_stage (.addCloser closer) (by simp)]
    exact .added closer rfl rfl
  | close =>
    have hstore : (Operation.close.perform s).context.store =
        if s.context.closers.any Closer.isStore then s.context.store.map shut
        else s.context.store := by
      show s.context.close.2.store = _
      rw [close_context]
    rw [opens_of_ne_stage .close (by simp)]
    exact .closed hstore rfl
  | clearErrors =>
    rw [opens_of_ne_stage .clearErrors (by simp)]
    exact .unchanged rfl rfl

theorem Change.closers_eq {c c' : Context} {opened : List Param.Dump} {registered released : List Closer}
    (h : Change c c' opened registered released) (hreleased : released = []) :
    c'.closers = c.closers ++ registered := by
  cases h with
  | unchanged _ hclosers | text _ _ hclosers => rw [hclosers, List.append_nil]
  | database _ _ _ hclosers | added _ _ hclosers => exact hclosers
  | closed _ hclosers =>
    rw [hclosers, List.reverse_eq_nil_iff.1 hreleased]
    rfl

/-- What was registered and what an operation registers is released by it or still waits. -/
theorem Change.account {c c' : Context} {opened : List Param.Dump} {registered released : List Closer}
    (h : Change c c' opened registered released) :
    (released ++ c'.closers).Perm (c.closers ++ registered) := by
  cases h with
  | unchanged _ hclosers | text _ _ hclosers => simp [hclosers]
  | database _ _ _ hclosers | added _ _ hclosers => simp [hclosers]
  | closed _ hclosers => simp [hclosers]

/-- A database that is opened is open, is the store from then on, and is registered. -/
theorem Change.opened_cases {c c' : Context} {opened : List Param.Dump}
    {registered released : List Closer} (h : Change c c' opened registered released) :
    opened = [] ∨ ∃ d failure, opened = [d] ∧ d.isOpen = true ∧ c'.store = some (.dump d) ∧
      c'.closers = c.closers ++ [.store failure] := by
  cases h with
  | unchanged | text | added | closed => exact .inl rfl
  | database _ hopen hstore hclosers => exact .inr ⟨_, _, rfl, hopen, hstore, hclosers⟩

/-- A store stays, but it may be closed. -/
theorem Change.store_kept {c c' : Context} {opened : List Param.Dump}
    {registered released : List Closer} (h : Change c c' opened registered released)
    {store : Param.Store} (hsome : c.store = some store) :
    c'.store = some store ∨ c'.store = some (shut store) := by
  cases h with
  | unchanged hstore | added _ hstore => exact .inl (hstore.trans hsome)
  | text hnone | database hnone => rw [hsome] at hnone; cases hnone
  | closed hstore =>
    rw [hsome] at hstore
    split at hstore
    · exact .inr hstore
    · exact .inl hstore

theorem config_perform {s : State} {c : Config} (h : s.context.config = some c) (op : Operation) :
    (op.perform s).context.config = some c := by
  cases op with
  | stage fs p =>
    have hran := ran_step fs s p
    show (step fs s p).context.config = some c
    generalize step fs s p = s' at *
    cases hran with
    | kept | opened | filled | failed => exact h
    | configured hnone => rw [h] at hnone; cases hnone
  | addCloser closer => exact h
  | close =>
    show s.context.close.2.config = some c
    rw [close_context]
    exact h
  | clearErrors => exact h

/-! ## Runs of operations -/

theorem after_cons (s : State) (op : Operation) (ops : List Operation) :
    after s (op :: ops) = after (op.perform s) ops := rfl

theorem after_append (s : State) (ops ops' : List Operation) :
    after s (ops ++ ops') = after (after s ops) ops' := List.foldl_append

/-- A run of stages is its stages, one operation after the other. -/
theorem run_eq_after (fs : FileSystem) (ps : List Stage) (s : State) :
    run fs ps s = after s (ps.map (.stage fs)) := by
  unfold run after
  rw [List.foldl_map]
  rfl

theorem releases_of_ne_close {op : Operation} (h : op ≠ .close) (s : State) : op.releases s = [] := by
  cases op with
  | close => exact absurd rfl h
  | stage | addCloser | clearErrors => rfl

/-- Without a closing, all that is registered waits, in the order of registration. -/
theorem closers_after {ops : List Operation} (h : .close ∉ ops) (s : State) :
    (after s ops).context.closers = s.context.closers ++ along Operation.registers s ops := by
  induction ops generalizing s with
  | nil => exact (List.append_nil _).symm
  | cons op ops ih =>
    rw [List.mem_cons, not_or] at h
    obtain ⟨hop, hops⟩ := h
    have hstep := (change_perform s op).closers_eq (releases_of_ne_close (Ne.symm hop) s)
    rw [after_cons, ih hops, hstep, List.append_assoc]
    rfl

theorem account_after (s : State) (ops : List Operation) :
    (along Operation.releases s ops ++ (after s ops).context.closers).Perm
      (s.context.closers ++ along Operation.registers s ops) := by
  induction ops generalizing s with
  | nil => simp [along, after]
  | cons op ops ih =>
    -- the account of the first operation, with that of the others behind it
    have hstep := (change_perform s op).account
    rw [after_cons, along, along, List.append_assoc, ← List.append_assoc s.context.closers]
    refine ((ih (op.perform s)).append_left _).trans ?_
    rw [← List.append_assoc]
    exact hstep.append_right _

theorem config_after {s : State} {c : Config} (h : s.context.config = some c) (ops : List Operation) :
    (after s ops).context.config = some c := by
  induction ops generalizing s with
  | nil => exact h
  | cons op ops ih => exact ih (config_perform h op)

theorem store_after {s : State} {store : Param.Store} (h : s.context.store = some store)
    (ops : List Operation) :
    (after s ops).context.store = some store ∨ (after s ops).context.store = some (shut store) := by
  induction ops generalizing s store with
  | nil => exact .inl h
  | cons op ops ih =>
    rcases (change_perform s op).store_kept h with hop | hop
    · exact ih hop
    · -- closing it again changes nothing
      right
      have hshut : shut (shut store) = shut store := congrFun shut_comp_shut store
      rcases ih hop with hops | hops
      · exact hops
      · exact hops.trans (congrArg some hshut)

/-- Where there is a store, no other one is opened. -/
theorem opens_of_store {s : State} {store : Param.Store} (h : s.context.store = some store)
    (ops : List Operation) : along Operation.opens s ops = [] := by
  induction ops generalizing s store with
  | nil => rfl
  | cons op ops ih =>
    have hop : op.opens s = [] := by
      unfold Operation.opens
      rw [h]
      exact newDatabase_some _ _
    rw [along, hop]
    rcases (change_perform s op).store_kept h with h' | h' <;> exact ih h'

theorem length_opens_le (s : State) (ops : List Operation) :
    (along Operation.opens s ops).length ≤ 1 := by
  induction ops generalizing s with
  | nil => exact Nat.zero_le 1
  | cons op ops ih =>
    rw [along]
    rcases (change_perform s op).opened_cases with hop | ⟨d, failure, hop, -, hstore, -⟩
    · rw [hop]
      exact ih (op.perform s)
    · rw [hop, opens_of_store hstore]
      exact Nat.le_refl 1

/-! ## The database that a stage opened -/

theorem not_added_cons {op : Operation} {ops : List Operation}
    (h : ∀ failure, .addCloser (.store failure) ∉ op :: ops) :
    (∀ failure, op ≠ .addCloser (.store failure)) ∧ ∀ failure, .addCloser (.store failure) ∉ ops := by
  constructor
  · intro failure hop
    exact h failure (hop ▸ List.mem_cons_self)
  · intro failure hops
    exact h failure (List.mem_cons_of_mem op hops)

/-- An operation registers the store for the database that it opens, and else only if it is given it. -/
theorem count_registers {op : Operation} (h : ∀ failure, op ≠ .addCloser (.store failure)) (s : State) :
    (op.registers s).countP Closer.isStore = (op.opens s).length := by
  rcases op with ⟨fs, p⟩ | closer | _ | _
  · rw [Operation.registers, List.countP_map]
    exact List.countP_eq_length.2 fun d _ => rfl
  · rw [opens_of_ne_stage (.addCloser closer) (by simp)]
    cases closer with
    | store failure => exact absurd rfl (h failure)
    | named => rfl
  · rw [opens_of_ne_stage .close (by simp)]
    rfl
  · rw [opens_of_ne_stage .clearErrors (by simp)]
    rfl

theorem count_along_registers {ops : List Operation}
    (h : ∀ failure, .addCloser (.store failure) ∉ ops) (s : State) :
    (along Operation.registers s ops).countP Closer.isStore = (along Operation.opens s ops).length := by
  induction ops generalizing s with
  | nil => rfl
  | cons op ops ih =>
    obtain ⟨hop, hops⟩ := not_added_cons h
    rw [along, along, List.countP_append, List.length_append, ih hops, count_registers hop]

/-- The database is the store of the context, and it is open as long as it is registered. -/
def Held (d : Param.Dump) (c : Context) : Prop :=
  c.store = some (.dump { d with isOpen := c.closers.any Closer.isStore })

theorem Change.held {c c' : Context} {opened : List Param.Dump} {registered released : List Closer}
    (h : Change c c' opened registered released)
    (hcount : registered.countP Closer.isStore = opened.length) {d : Param.Dump} (hd : Held d c) :
    Held d c' := by
  unfold Held at *
  cases h with
  | unchanged hstore hclosers => rw [hstore, hclosers, hd]
  | text hnone | database hnone => rw [hnone] at hd; cases hd
  | added closer hstore hclosers =>
    have hne : closer.isStore = false := by simpa using List.countP_eq_zero.1 hcount
    rw [hstore, hclosers, hd]
    simp [hne]
  | closed hstore hclosers =>
    rw [hstore, hclosers, hd]
    cases c.closers.any Closer.isStore <;> simp [shut]

theorem held_after {ops : List Operation} (h : ∀ failure, .addCloser (.store failure) ∉ ops)
    {s : State} {d : Param.Dump} (hd : Held d s.context) : Held d (after s ops).context := by
  induction ops generalizing s with
  | nil => exact hd
  | cons op ops ih =>
    obtain ⟨hop, hops⟩ := not_added_cons h
    exact ih hops ((change_perform s op).held (count_registers hop s) hd)

theorem held_of_opens {ops : List Operation} (h : ∀ failure, .addCloser (.store failure) ∉ ops)
    {s : State} {d : Param.Dump} (hd : d ∈ along Operation.opens s ops) : Held d (after s ops).context := by
  induction ops generalizing s with
  | nil => cases hd
  | cons op ops ih =>
    obtain ⟨hop, hops⟩ := not_added_cons h
    rw [along, List.mem_append] at hd
    rcases hd with hd | hd
    · -- opened here, and so registered
      rcases (change_perform s op).opened_cases with
        hnil | ⟨d', failure, hone, hopen, hstore, hclosers⟩
      · rw [hnil] at hd
        cases hd
      · rw [hone, List.mem_singleton] at hd
        subst hd
        refine held_after hops ?_
        have hany : (s.context.closers ++ [Closer.store failure]).any Closer.isStore = true := by
          simp [Closer.isStore]
        unfold Held
        rw [hstore, hclosers, hany, ← hopen]
    · exact ih hops hd

/-- The database is open and waits to be released once, or it is closed and has been released once. -/
inductive ReleasedOnce (d : Param.Dump) (c : Context) (released : List Closer) : Prop
  | waiting (hstore : c.store = some (.dump { d with isOpen := true }))
      (hclosers : c.closers.countP Closer.isStore = 1)
      (hreleased : released.countP Closer.isStore = 0)
  | released (hstore : c.store = some (.dump { d with isOpen := false }))
      (hclosers : c.closers.countP Closer.isStore = 0)
      (hreleased : released.countP Closer.isStore = 1)

theorem releasedOnce_after {ops : List Operation} (h : ∀ failure, .addCloser (.store failure) ∉ ops)
    {s : State} (hclosers : s.context.closers = []) {d : Param.Dump} (hd : d ∈ along Operation.opens s ops) :
    ReleasedOnce d (after s ops).context (along Operation.releases s ops) := by
  have hheld : Held d (after s ops).context := held_of_opens h hd
  unfold Held at hheld
  -- one database was opened, so the store was registered once
  have hone : (along Operation.opens s ops).length = 1 :=
    Nat.le_antisymm (length_opens_le s ops) (List.length_pos_of_mem hd)
  have hcount := (account_after s ops).countP_eq Closer.isStore
  rw [hclosers, List.nil_append, count_along_registers h, hone, List.countP_append] at hcount
  -- it is open as long as it waits, and what does not wait has been released
  cases hany : (after s ops).context.closers.any Closer.isStore with
  | true =>
    have hpos : 0 < (after s ops).context.closers.countP Closer.isStore :=
      List.countP_pos_iff.2 (List.any_eq_true.1 hany)
    rw [hany] at hheld
    exact .waiting hheld (by omega) (by omega)
  | false =>
    have hzero : (after s ops).context.closers.countP Closer.isStore = 0 :=
      List.countP_eq_zero.2 (by simpa using List.any_eq_false.1 hany)
    rw [hany] at hheld
    exact .released hheld hzero (by omega)

/-- Over a run of operations on a context with nothing registered, a closing releases exactly what was
registered since the closing before it, all of it and the latest first, and reports the first failure,
so that a closing right after it does nothing. All that was registered has been released or waits.
A configuration and a store stay once they are there, the stages open one database at most, and that is
open and waits or is closed and has been released once. -/
theorem run_releases_each_once {start : State} (hstart : start.context.closers = [])
    (ops : List Operation) :
    let s := after start ops
    (∀ fs ps s, run fs ps s = after s (ps.map (.stage fs))) ∧
    (∀ clear, clear = start ∨ clear = Operation.close.perform s → ∀ recent, .close ∉ recent →
      (after clear recent).context.close.1.Releases (along Operation.registers clear recent)) ∧
    (Operation.close.perform s).context.close.1 = ⟨[], none⟩ ∧
    (along Operation.releases start ops ++ s.context.closers).Perm
      (along Operation.registers start ops) ∧
    (∀ c, s.context.config = some c → ∀ later, (after s later).context.config = some c) ∧
    (∀ store, s.context.store = some store → ∀ later,
      (after s later).context.store = some store ∨ (after s later).context.store = some (shut store)) ∧
    (along Operation.opens start ops).length ≤ 1 ∧
    ((∀ failure, .addCloser (.store failure) ∉ ops) → ∀ d ∈ along Operation.opens start ops,
      ReleasedOnce d s.context (along Operation.releases start ops)) := by
  intro s
  have hclosed : (Operation.close.perform s).context.closers = [] := rfl
  refine ⟨run_eq_after, fun clear hclear recent hrecent => ?_, rfl, ?_,
    fun c hc => config_after hc, fun store hs => store_after hs, length_opens_le start ops,
    fun hadd d hd => releasedOnce_after hadd hstart hd⟩
  · have hnil : clear.context.closers = [] := by
      rcases hclear with rfl | rfl
      · exact hstart
      · exact hclosed
    have hclosers := closers_after hrecent clear
    rw [hnil, List.nil_append] at hclosers
    rw [← hclosers]
    exact close_releases _
  · have haccount := account_after start ops
    rwa [hstart, List.nil_append] at haccount

/-- Two closers around a database, of which the first fails to close and so does the database, then the
same stage again and a second closing. -/
theorem database_released_between_closers :
    let first := Closer.named (utf8 "first") (some (utf8 "busy"))
    let last := Closer.named (utf8 "last") none
    let d : Param.Dump := { path := utf8 "cache.db", table := utf8 "params" }
    let fs : FileSystem := { driver := { closingFault := fun _ => some (utf8 "locked") } }
    let start : State := { context :=
      { configPath := [], config := some { source := Config.sqlite, path := d.path, table := d.table } } }
    let recent : List Operation := [.addCloser first, .stage fs .store, .addCloser last]
    let ops := recent ++ [.close, .clearErrors, .stage fs .store, .close]
    start.context.closers = [] ∧
      (after start recent).context.close.1.Releases [first, .store (some (utf8 "locked")), last] ∧
      ReleasedOnce d (after start ops).context (along Operation.releases start ops) := by
  intro first last d fs start recent ops
  have hstart : start.context.closers = [] := rfl
  have h := run_releases_each_once hstart ops
  have hregisters : along Operation.registers start recent =
      [first, .store (some (utf8 "locked")), last] := by decide +kernel
  have hopened : d ∈ along Operation.opens start ops := by decide +kernel
  refine ⟨hstart, ?_, h.2.2.2.2.2.2.2 (by simp [ops, recent, first, last]) d hopened⟩
  rw [← hregisters]
  exact h.2.1 start (.inl rfl) recent (by simp [recent])

end StackTypes.Warmup
