/-
Laws of the attribute table. A table is known by its lookups, since its entries stand in ascending
order of their ids; and a record changes the lookup of its own id only. So after any run of calls the
type of an attribute is that of the last record with its id among all records that were given, a call
that failed counts for nothing, and records with different ids may come in any order.
-/
import StackTypes.Attribute
import Mathlib.Data.List.Induction
import Mathlib.Data.List.Dedup
import Mathlib.Data.List.Perm.Basic

namespace StackTypes.AttributeTable

open Param (Record)

/-! ## Lookups -/

theorem lookup_cons_eq (e : Int64 × Atomic) (es : List (Int64 × Atomic)) (k : Int64) :
    (e :: es).lookup k = if k = e.1 then some e.2 else es.lookup k := by
  obtain ⟨id, type⟩ := e
  by_cases hk : k = id
  · simp [hk]
  · have hb : (k == id) = false := beq_false_of_ne hk
    simp [List.lookup_cons, hb, hk]

theorem lookup_insertEntry (id : Int64) (type : Atomic) (es : List (Int64 × Atomic)) (k : Int64) :
    (insertEntry id type es).lookup k = if k = id then some type else es.lookup k := by
  induction es with
  | nil => exact lookup_cons_eq (id, type) [] k
  | cons e es ih =>
    unfold insertEntry
    split
    · exact lookup_cons_eq (id, type) (e :: es) k
    · split
      · rename_i heq
        rw [lookup_cons_eq, lookup_cons_eq, ← heq]
        by_cases hk : k = id <;> simp [hk]
      · -- the entry in front has another id, so it hides nothing
        rename_i hne
        rw [lookup_cons_eq, lookup_cons_eq, ih]
        by_cases hk : k = e.1
        · simp [hk, Ne.symm hne]
        · simp [hk]

theorem lookup_add (t : AttributeTable) (r : Record) (id : Int64) :
    (t.add r).lookup id = if id = r.id then some (Atomic.ofDescriptor r.stackType) else t.lookup id :=
  lookup_insertEntry r.id _ t.entries id

/-- The ids are those that are found. -/
theorem mem_ids_iff {t : AttributeTable} {id : Int64} : id ∈ t.ids ↔ (t.lookup id).isSome = true := by
  unfold ids lookup
  rw [List.lookup_isSome_iff, List.mem_map]
  constructor
  · rintro ⟨e, he, rfl⟩
    exact ⟨e, he, by simp⟩
  · rintro ⟨e, he, hid⟩
    exact ⟨e, he, (beq_iff_eq.1 hid).symm⟩

theorem ascending_ids (t : AttributeTable) : t.ids.Pairwise (· < ·) :=
  List.pairwise_map.2 t.ascending

theorem nodup_ids (t : AttributeTable) : t.ids.Nodup :=
  t.ascending_ids.imp Int64.ne_of_lt

theorem mem_entries_iff {t : AttributeTable} {e : Int64 × Atomic} :
    e ∈ t.entries ↔ t.lookup e.1 = some e.2 := by
  unfold lookup
  rw [List.lookup_eq_some_iff]
  constructor
  · intro he
    obtain ⟨front, back, hes⟩ := List.append_of_mem he
    refine ⟨front, back, hes, fun p hp => ?_⟩
    -- an entry in front of it has a smaller id
    have hlt := t.ascending
    rw [hes] at hlt
    have := (List.pairwise_append.1 hlt).2.2 p hp e (by simp)
    simpa using (Int64.ne_of_lt this).symm
  · rintro ⟨front, back, hes, -⟩
    rw [hes]
    simp

/-- A table is known by its lookups. -/
theorem ext_lookup {t u : AttributeTable} (h : ∀ id, t.lookup id = u.lookup id) : t = u := by
  have hmem : ∀ e, e ∈ t.entries ↔ e ∈ u.entries := by
    intro e
    rw [mem_entries_iff, mem_entries_iff, h]
  -- in ascending order there is one way only to list the same entries
  have hperm : t.entries.Perm u.entries :=
    (List.perm_ext_iff_of_nodup t.nodup_ids.of_map u.nodup_ids.of_map).2 hmem
  have hentries : t.entries = u.entries :=
    hperm.eq_of_pairwise (fun _ _ _ _ hlt hgt => absurd hgt (Int64.lt_asymm hlt)) t.ascending
      u.ascending
  cases t
  cases u
  cases hentries
  rfl

/-! ## Records -/

/-- The last of the records with an id. -/
def lastRecord (id : Int64) (rs : List Record) : Option Record :=
  (rs.filter fun r => r.id == id).getLast?

theorem lastRecord_concat (id : Int64) (rs : List Record) (r : Record) :
    lastRecord id (rs ++ [r]) = if id = r.id then some r else lastRecord id rs := by
  unfold lastRecord
  rw [List.filter_append]
  by_cases hid : id = r.id
  · simp [hid]
  · simp [hid, Ne.symm hid]

theorem isSome_lastRecord_iff {id : Int64} {rs : List Record} :
    (lastRecord id rs).isSome = true ↔ ∃ r ∈ rs, r.id = id := by
  unfold lastRecord
  simp

theorem addAll_append (t : AttributeTable) (rs rs' : List Record) :
    t.addAll (rs ++ rs') = (t.addAll rs).addAll rs' := List.foldl_append

/-- Of the records with one id the last counts. -/
theorem lookup_addAll (t : AttributeTable) (rs : List Record) (id : Int64) :
    (t.addAll rs).lookup id =
      ((lastRecord id rs).map fun r => Atomic.ofDescriptor r.stackType).or (t.lookup id) := by
  -- on the records already added, since a later one is seen first
  induction rs using List.reverseRecOn with
  | nil => rfl
  | append_singleton rs r ih =>
    rw [addAll_append, lastRecord_concat]
    show ((t.addAll rs).add r).lookup id = _
    rw [lookup_add, ih]
    by_cases hid : id = r.id <;> simp [hid]

theorem add_comm (t : AttributeTable) {r r' : Record} (h : r.id ≠ r'.id) :
    (t.add r).add r' = (t.add r').add r := by
  apply ext_lookup
  intro id
  simp only [lookup_add]
  by_cases hid : id = r.id
  · simp [hid, h]
  · simp [hid]

/-- Records with different ids may come in any order. -/
theorem addAll_perm (t : AttributeTable) {rs rs' : List Record} (h : rs.Perm rs')
    (hids : (rs.map (·.id)).Nodup) : t.addAll rs = t.addAll rs' := by
  refine h.foldl_eq' (fun r hr r' hr' t => ?_) t
  by_cases heq : r.id = r'.id
  · rw [List.inj_on_of_nodup_map hids hr hr' heq]
  · exact add_comm t heq

/-! ## Runs of calls -/

section Runs

variable {ε : Type}

/-- The records that a call is given. -/
def given : Except ε (List Record) → List Record
  | .ok rs => rs
  | .error _ => []

/-- The table after calls, one after the other. -/
def after (t : AttributeTable) (calls : List (Except ε (List Record))) : AttributeTable :=
  calls.foldl (fun t loaded => (t.populate loaded).2) t

theorem after_append (t : AttributeTable) (calls calls' : List (Except ε (List Record))) :
    t.after (calls ++ calls') = (t.after calls).after calls' := List.foldl_append

theorem populate_table (t : AttributeTable) (loaded : Except ε (List Record)) :
    (t.populate loaded).2 = t.addAll (given loaded) := by
  cases loaded <;> rfl

/-- A call with records of different ids does the same in whatever order they come. -/
theorem populate_perm (t : AttributeTable) {rs rs' : List Record} (h : rs.Perm rs')
    (hids : (rs.map (·.id)).Nodup) :
    t.populate (.ok rs : Except ε (List Record)) = t.populate (.ok rs') := by
  unfold populate
  dsimp only
  rw [addAll_perm t h hids]

/-- A run of calls adds all the records that its calls are given. -/
theorem after_eq_addAll (t : AttributeTable) (calls : List (Except ε (List Record))) :
    t.after calls = t.addAll (calls.flatMap given) := by
  induction calls generalizing t with
  | nil => rfl
  | cons loaded calls ih =>
    rw [List.flatMap_cons, addAll_append, ← populate_table]
    exact ih _

theorem lookup_after (calls : List (Except ε (List Record))) (id : Int64) :
    (empty.after calls).lookup id =
      (lastRecord id (calls.flatMap given)).map fun r => Atomic.ofDescriptor r.stackType := by
  rw [after_eq_addAll, lookup_addAll]
  show Option.or _ none = _
  rw [Option.or_none]

theorem isSome_lookup_after_iff {calls : List (Except ε (List Record))} {id : Int64} :
    ((empty.after calls).lookup id).isSome = true ↔ ∃ rs, .ok rs ∈ calls ∧ ∃ r ∈ rs, r.id = id := by
  rw [lookup_after, Option.isSome_map, isSome_lastRecord_iff]
  constructor
  · rintro ⟨r, hr, hid⟩
    obtain ⟨loaded, hmem, hr⟩ := List.mem_flatMap.1 hr
    cases loaded with
    | error e => cases hr
    | ok rs => exact ⟨rs, hmem, r, hr, hid⟩
  · rintro ⟨rs, hmem, r, hr, hid⟩
    exact ⟨r, List.mem_flatMap.2 ⟨.ok rs, hmem, hr⟩, hid⟩

/-- The size is the number of different ids. -/
theorem size_after (calls : List (Except ε (List Record))) :
    (empty.after calls).size = ((calls.flatMap given).map (·.id)).dedup.length := by
  have hperm : (empty.after calls).ids.Perm ((calls.flatMap given).map (·.id)).dedup := by
    refine (List.perm_ext_iff_of_nodup (nodup_ids _) (List.nodup_dedup _)).2 fun id => ?_
    rw [mem_ids_iff, lookup_after, Option.isSome_map, isSome_lastRecord_iff, List.mem_dedup,
      List.mem_map]
  rw [← hperm.length_eq]
  unfold ids size
  rw [List.length_map]

/-- After any run of calls on a new table, an attribute is found exactly when a call that succeeded
was given a record with its id, and its type is that of the last such record; the ids are those that
are found, in ascending order, and the size is their number. A next call that fails reports zero and
changes nothing, one that succeeds reports the size of the table; and the records of a call may come
in any order if their ids are different. -/
theorem run_last_record_counts (calls : List (Except ε (List Record))) :
    let t := empty.after calls
    (∀ id, (t.lookup id).isSome = true ↔ ∃ rs, .ok rs ∈ calls ∧ ∃ r ∈ rs, r.id = id) ∧
    (∀ id, t.lookup id =
      (lastRecord id (calls.flatMap given)).map fun r => Atomic.ofDescriptor r.stackType) ∧
    t.size = ((calls.flatMap given).map (·.id)).dedup.length ∧
    t.ids.Pairwise (· < ·) ∧
    (∀ id, id ∈ t.ids ↔ (t.lookup id).isSome = true) ∧
    (∀ e : ε, t.populate (.error e) = (⟨0, some e⟩, t)) ∧
    (∀ rs, (t.populate (.ok rs : Except ε _)).1 = ⟨(empty.after (calls ++ [.ok rs])).size, none⟩) ∧
    (∀ rs rs' : List Record, rs.Perm rs' → (rs.map (·.id)).Nodup → ∀ later,
      empty.after (calls ++ .ok rs :: later) = empty.after (calls ++ .ok rs' :: later)) := by
  intro t
  refine ⟨fun id => isSome_lookup_after_iff, lookup_after calls, size_after calls, ascending_ids t,
    fun id => mem_ids_iff, fun e => rfl, fun rs => ?_, fun rs rs' hperm hids later => ?_⟩
  · rw [after_append]
    rfl
  · rw [after_append, after_append]
    show (t.populate (.ok rs : Except ε _)).2.after later = (t.populate (.ok rs' : Except ε _)).2.after later
    rw [populate_perm t hperm hids]

end Runs

end StackTypes.AttributeTable
