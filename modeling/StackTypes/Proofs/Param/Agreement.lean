/-
The stores agree. A parameter can be written as a stream of fields in a table of a database, or as an
entry of a YAML text, and in many ways each: fields in any order, left out where they say nothing new,
rows and entries in any order. Whichever way it is written, it is read as the one record of the
parameter, so that the stores give the same records up to their order and fill tables alike.
-/
import StackTypes.Proofs.Attribute
import StackTypes.Proofs.Param.Definition
import StackTypes.Proofs.Text.Utf8
import StackTypes.Param.Store
import Mathlib.Data.List.Forall2

namespace StackTypes.Param

/-! ## Parameters -/

/-- The field for a default number. -/
def Field.ofInt (n : Int32) : Field :=
  let bits := n.toBitVec.toNat
  .defaultInt (bits / 16777216).toUInt8 (bits / 65536).toUInt8 (bits / 256).toUInt8 bits.toUInt8

/-- A parameter, apart from how it is written. -/
structure Parameter where
  id : Int64
  /-- The descriptor of the values, a Windows-1252 character. -/
  stackType : Option UInt8 := none
  defaultInt : Int32 := 0
  /-- The default text, in Windows-1252. -/
  defaultString : Bytes := []
  autoDisable : Bool := true
  zero_not_mem : 0 ∉ defaultString := by decide

namespace Parameter

/-- The record of a parameter. -/
def record (p : Parameter) : Record where
  id := p.id
  stackType := p.stackType.elim 0 fun b => Int32.ofNat (Windows1252.decode b)
  defaultInt := p.defaultInt
  defaultString := Windows1252.decodeText p.defaultString
  autoDisable := p.autoDisable

/-- The fields that say something true of a parameter. -/
def fields (p : Parameter) : List Field :=
  p.stackType.toList.map .stackType ++ [.ofInt p.defaultInt, .defaultString p.defaultString] ++
    if p.autoDisable then [] else [.noAutoDisable]

/-- The parameter is written in these fields: in any order, and what holds anyway may be left out. -/
structure Written (p : Parameter) (fs : List Field) : Prop where
  mem_fields : ∀ f ∈ fs, f ∈ p.fields
  stackType : ∀ b, p.stackType = some b → .stackType b ∈ fs
  defaultInt : p.defaultInt ≠ 0 → .ofInt p.defaultInt ∈ fs
  defaultString : p.defaultString ≠ [] → .defaultString p.defaultString ∈ fs
  autoDisable : p.autoDisable = false → .noAutoDisable ∈ fs

/-- The row holds the id of the parameter and a stream in which it is written. -/
def StoredIn (p : Parameter) (row : Int64 × Bytes) : Prop :=
  row.1 = p.id ∧ ∃ fs rest, p.Written fs ∧ row.2 = encodeFields fs ++ 0 :: rest

/-- The entry holds the parameter; that it switches itself off may be left out. -/
structure EnteredAs (p : Parameter) (e : Entry) : Prop where
  id : e.id = p.id
  stackType : e.stackType = p.stackType.elim [] fun b => Utf8.encode (Windows1252.decode b)
  defaultInt : e.defaultInt = p.defaultInt
  defaultString : e.defaultString = Windows1252.decodeText p.defaultString
  autoDisable : e.autoDisable = some p.autoDisable ∨ e.autoDisable = none ∧ p.autoDisable = true

end Parameter

/-- The list holds the parameters, each in one of its forms, in any order. -/
def HoldsAll {α : Type} (form : Parameter → α → Prop) (ps : List Parameter) (xs : List α) : Prop :=
  ∃ qs : List Parameter, qs.Perm ps ∧ List.Forall₂ form qs xs

/-- The dump is open, its table has these rows, and the query gives all of them. -/
structure HasRows (fs : FileSystem) (d : Dump) (rows : List (Int64 × Bytes)) : Prop where
  isOpen : d.isOpen = true
  isTableWord : Database.isTableWord d.table = true
  table : ∃ database, fs.openDatabase d.path = .ok database ∧
    database.table? d.table = some (.ofRows d.table Database.standardColumns
      (rows.map fun row => [.int row.1, .blob row.2]))
  unbroken : fs.driver.break? d.path = none

/-! ## Streams -/

theorem bigEndian_ofInt (n : Int32) :
    Field.bigEndian (n.toBitVec.toNat / 16777216).toUInt8 (n.toBitVec.toNat / 65536).toUInt8
      (n.toBitVec.toNat / 256).toUInt8 n.toBitVec.toNat.toUInt8 = n := by
  have hlt : n.toBitVec.toNat < 4294967296 := n.toBitVec.isLt
  have hbits : ∀ m : Nat, m.toUInt8.toNat = m % 256 := fun m => UInt8.toNat_ofNat'
  unfold Field.bigEndian
  rw [← Int32.toBitVec_inj, Int32.toBitVec_ofNat']
  apply BitVec.eq_of_toNat_eq
  simp only [hbits, BitVec.toNat_ofNat]
  omega

namespace Field

theorem exists_of_last {α : Type} {given : Field → Option α} {fs : List Field} {a : α}
    (h : last given fs = some a) : ∃ f ∈ fs, given f = some a :=
  List.mem_filterMap.1 (List.mem_of_getLast? h)

theorem eq_none_of_last {α : Type} {given : Field → Option α} {fs : List Field}
    (h : last given fs = none) {f : Field} (hf : f ∈ fs) : given f = none :=
  List.filterMap_eq_nil_iff.1 (List.getLast?_eq_none_iff.1 h) f hf

theorem defaultInt?_ofInt (n : Int32) : defaultInt? (ofInt n) = some n.toBitVec := by
  have h := toBitVec_bigEndian (n.toBitVec.toNat / 16777216).toUInt8
    (n.toBitVec.toNat / 65536).toUInt8 (n.toBitVec.toNat / 256).toUInt8 n.toBitVec.toNat.toUInt8
  rw [bigEndian_ofInt] at h
  exact congrArg some h.symm

end Field

namespace Parameter

theorem fields_cases {p : Parameter} {f : Field} (h : f ∈ p.fields) :
    (∃ b, p.stackType = some b ∧ f = .stackType b) ∨ f = .ofInt p.defaultInt ∨
      f = .defaultString p.defaultString ∨ p.autoDisable = false ∧ f = .noAutoDisable := by
  unfold fields at h
  cases hs : p.stackType <;> cases ha : p.autoDisable <;> simp_all

theorem writable_of_mem {p : Parameter} {f : Field} (h : f ∈ p.fields) : f.Writable := by
  rcases fields_cases h with ⟨b, -, rfl⟩ | rfl | rfl | ⟨-, rfl⟩
  · trivial
  · trivial
  · exact p.zero_not_mem
  · trivial

section Written

variable {p : Parameter} {fs : List Field} (h : p.Written fs)
include h

theorem Written.last_stackType : Field.last Field.stackType? fs = p.stackType := by
  cases hl : Field.last Field.stackType? fs with
  | none =>
    cases hs : p.stackType with
    | none => rfl
    | some b => cases Field.eq_none_of_last hl (h.stackType b hs)
  | some b =>
    obtain ⟨f, hf, hb⟩ := Field.exists_of_last hl
    rcases fields_cases (h.mem_fields f hf) with ⟨b', hs, rfl⟩ | rfl | rfl | ⟨-, rfl⟩
    · rw [hs]
      exact hb.symm
    all_goals cases hb

theorem Written.last_defaultInt :
    (Field.last Field.defaultInt? fs).getD 0 = p.defaultInt.toBitVec := by
  cases hl : Field.last Field.defaultInt? fs with
  | none =>
    -- a number that is left out is zero
    by_cases hz : p.defaultInt = 0
    · rw [hz]
      rfl
    · have hnone := Field.eq_none_of_last hl (h.defaultInt hz)
      rw [Field.defaultInt?_ofInt] at hnone
      cases hnone
  | some bits =>
    obtain ⟨f, hf, hb⟩ := Field.exists_of_last hl
    rcases fields_cases (h.mem_fields f hf) with ⟨b, -, rfl⟩ | rfl | rfl | ⟨-, rfl⟩
    · cases hb
    · rw [Field.defaultInt?_ofInt] at hb
      exact (Option.some.inj hb).symm
    all_goals cases hb

theorem Written.last_defaultString :
    (Field.last Field.defaultString? fs).elim [] Windows1252.decodeText =
      Windows1252.decodeText p.defaultString := by
  cases hl : Field.last Field.defaultString? fs with
  | none =>
    -- a text that is left out is empty
    by_cases hz : p.defaultString = []
    · rw [hz]
      rfl
    · cases Field.eq_none_of_last hl (h.defaultString hz)
  | some s =>
    obtain ⟨f, hf, hb⟩ := Field.exists_of_last hl
    rcases fields_cases (h.mem_fields f hf) with ⟨b, -, rfl⟩ | rfl | rfl | ⟨-, rfl⟩
    · cases hb
    · cases hb
    · cases hb
      rfl
    · cases hb

theorem Written.noAutoDisable_mem_iff : .noAutoDisable ∈ fs ↔ p.autoDisable = false := by
  refine ⟨fun hf => ?_, h.autoDisable⟩
  rcases fields_cases (h.mem_fields _ hf) with ⟨b, -, hb⟩ | hb | hb | ⟨ha, -⟩
  · cases hb
  · cases hb
  · cases hb
  · exact ha

/-- The fields of a parameter, in whatever order, build up its record. -/
theorem Written.foldl_apply : fs.foldl Field.apply { id := p.id } = p.record := by
  have hlatest := latest_foldl_apply p.id fs
  generalize fs.foldl Field.apply { id := p.id } = r at *
  obtain ⟨hid, htype, hint, htext, hauto⟩ := hlatest
  have htype' : r.stackType = p.record.stackType := by
    rw [h.last_stackType] at htype
    rw [← Int32.toInt_inj, htype]
    unfold record
    cases p.stackType with
    | none => rfl
    | some b => exact (Int32.toInt_ofNat_of_lt (Nat.lt_trans (decode_lt b) (by decide))).symm
  have hint' : r.defaultInt = p.defaultInt := by
    rw [← Int32.toBitVec_inj, hint, h.last_defaultInt]
  have htext' : r.defaultString = p.record.defaultString := htext.trans h.last_defaultString
  have hauto' : r.autoDisable = p.autoDisable := by
    rw [h.noAutoDisable_mem_iff] at hauto
    cases hp : p.autoDisable <;> simp_all
  cases r
  unfold record at *
  simp_all

end Written

/-- The row of a parameter is read as its record. -/
theorem StoredIn.decode_eq {p : Parameter} {row : Int64 × Bytes} (h : p.StoredIn row) :
    decode row.1 row.2 = (p.record, none) := by
  obtain ⟨hid, fs, rest, hfs, hdata⟩ := h
  have hstored : Stored fs rest row.2 := ⟨fun f hf => writable_of_mem (hfs.mem_fields f hf), hdata⟩
  rw [Param.decode_eq (readFields_eq_closed_iff.2 ⟨rest, hstored⟩), hid, hfs.foldl_apply]
  rfl

/-! ## Entries -/

theorem isScalar_decode (b : UInt8) : Utf8.isScalar (Windows1252.decode b) = true := by
  have all : ∀ n < 256, Utf8.isScalar (Windows1252.decode (UInt8.ofNat n)) = true := by decide +kernel
  have := all b.toNat b.toNat_lt
  rwa [UInt8.ofNat_toNat] at this

/-- The entry of a parameter is read as its record. -/
theorem EnteredAs.toRecord?_eq {p : Parameter} {e : Entry} (h : p.EnteredAs e) :
    e.toRecord? = some p.record := by
  have hauto : e.autoDisable.getD true = p.autoDisable := by
    rcases h.autoDisable with ha | ⟨ha, hp⟩
    · rw [ha]
      rfl
    · rw [ha, hp]
      rfl
  unfold Entry.toRecord?
  rw [h.id, h.stackType, h.defaultInt, h.defaultString, hauto]
  unfold record
  cases p.stackType with
  | none => rfl
  | some b =>
    -- a descriptor that is there is not taken for none
    have hne : (Utf8.encode (Windows1252.decode b)).isEmpty = false := by
      simpa using Utf8.encode_ne_nil _
    simp [hne, Utf8.single?_encode (isScalar_decode b)]

end Parameter

theorem toRecords_eq {ps : List Parameter} {es : List Entry}
    (h : List.Forall₂ Parameter.EnteredAs ps es) (index : Nat) :
    Entry.toRecords index es = .ok (ps.map Parameter.record) := by
  induction h generalizing index with
  | nil => rfl
  | cons he _ ih =>
    rw [Entry.toRecords, he.toRecord?_eq, ih]
    rfl

/-- A YAML text with entries of parameters gives their records. -/
theorem yaml_records {content : Bytes} {es : List Entry} (hread : Entry.readAll content = .ok es)
    {ps : List Parameter} (h : HoldsAll Parameter.EnteredAs ps es) (fs : FileSystem) (path : Bytes) :
    ∃ rs, (Store.yaml content path).records fs = .ok rs ∧ rs.Perm (ps.map Parameter.record) := by
  obtain ⟨qs, hperm, hentries⟩ := h
  refine ⟨qs.map Parameter.record, ?_, hperm.map _⟩
  unfold Store.records entryRecords
  dsimp only
  rw [hread]
  dsimp only
  rw [toRecords_eq hentries]
  rfl

/-! ## Rows -/

/-- The row as the query gives it. -/
def cells (row : Int64 × Bytes) : Database.Cell × Database.Cell := (.int row.1, .blob row.2)

/-- The rows in ascending order of their ids. -/
def sortRows (rows : List (Int64 × Bytes)) : List (Int64 × Bytes) :=
  rows.mergeSort fun a b => a.1 ≤ b.1

theorem ascending_sortRows (rows : List (Int64 × Bytes)) :
    (sortRows rows).Pairwise fun a b => a.1 ≤ b.1 := by
  have h : (sortRows rows).Pairwise fun a b => decide (a.1 ≤ b.1) = true := by
    apply List.pairwise_mergeSort
    · intro a b c hab hbc
      simp only [decide_eq_true_eq] at *
      exact Int64.le_trans hab hbc
    · intro a b
      simpa using Int64.le_total a.1 b.1
  exact h.imp of_decide_eq_true

/-- The query gives the rows of a table in ascending order of their ids. -/
theorem definitions_ofRows (name : Bytes) (rows : List (Int64 × Bytes)) :
    (Database.Table.ofRows name Database.standardColumns
      (rows.map fun row => [.int row.1, .blob row.2])).definitions = .ok ((sortRows rows).map cells) := by
  generalize ht : Database.Table.ofRows name Database.standardColumns
    (rows.map fun row => [.int row.1, .blob row.2]) = t
  have hid : t.column? "id" = some 0 := by
    subst ht
    show Database.standardColumns.findIdx? _ = _
    decide +kernel
  have hdata : t.column? "data" = some 1 := by
    subst ht
    show Database.standardColumns.findIdx? _ = _
    decide +kernel
  have hrows : t.rows.map (fun row => (row.getD 0 .null, row.getD 1 .null)) = rows.map cells := by
    subst ht
    simp [Database.Table.ofRows, Database.standardColumns, Database.Affinity.store, cells]
  -- numbers come in the order of the cells they stand in
  have hsort : (sortRows rows).map cells = (rows.map cells).mergeSort fun a b => a.1.le b.1 :=
    List.map_mergeSort fun a _ b _ => rfl
  unfold Database.Table.definitions
  rw [hid, hdata, hsort, ← hrows]

/-- The record of a row. -/
def rowRecord (row : Int64 × Bytes) : Record := (decode row.1 row.2).1

theorem id_rowRecord (row : Int64 × Bytes) : (rowRecord row).id = row.1 := by
  unfold rowRecord
  rw [decode_eq (rfl : readFields row.2 = ((readFields row.2).1, (readFields row.2).2))]
  exact id_foldl_apply _ _

theorem readRow_cells (table : Bytes) {row : Int64 × Bytes} (h : (decode row.1 row.2).2 = none) :
    readRow table (cells row) = .ok (rowRecord row) := by
  have hdecode : decode row.1 row.2 = (rowRecord row, none) := Prod.ext rfl h
  show (decode? row.1 row.2).mapError StoreError.definition = _
  unfold decode?
  rw [hdecode]
  rfl

theorem mapM_readRow (table : Bytes) {rows : List (Int64 × Bytes)}
    (h : ∀ row ∈ rows, (decode row.1 row.2).2 = none) :
    (rows.map cells).mapM (readRow table) = .ok (rows.map rowRecord) := by
  induction rows with
  | nil => rfl
  | cons row rows ih =>
    obtain ⟨hrow, hrows⟩ := List.forall_mem_cons.1 h
    rw [List.map_cons, List.mapM_cons, readRow_cells table hrow, ih hrows]
    rfl

theorem HasRows.rows_eq {fs : FileSystem} {d : Dump} {rows : List (Int64 × Bytes)}
    (h : HasRows fs d rows) : d.rows fs = .ok ((sortRows rows).map cells) := by
  obtain ⟨hopen, hword, ⟨database, hdatabase, htable⟩, -⟩ := h
  unfold Dump.rows
  rw [hopen, hdatabase, hword]
  show database.definitions d.table = _
  unfold Database.definitions
  rw [htable]
  exact definitions_ofRows d.table rows

theorem map_rowRecord {ps : List Parameter} {rows : List (Int64 × Bytes)}
    (h : List.Forall₂ Parameter.StoredIn ps rows) :
    (∀ row ∈ rows, (decode row.1 row.2).2 = none) ∧ rows.map rowRecord = ps.map Parameter.record := by
  induction h with
  | nil => exact ⟨by simp, rfl⟩
  | cons hrow _ ih =>
    refine ⟨List.forall_mem_cons.2 ⟨by rw [hrow.decode_eq], ih.1⟩, ?_⟩
    rw [List.map_cons, List.map_cons, ih.2, rowRecord, hrow.decode_eq]

/-- A table with rows of parameters gives their records in ascending order of the ids. -/
theorem dump_records {fs : FileSystem} {d : Dump} {rows : List (Int64 × Bytes)}
    (hrows : HasRows fs d rows) {ps : List Parameter} (hids : (ps.map (·.id)).Nodup)
    (h : HoldsAll Parameter.StoredIn ps rows) :
    ∃ rs, (Store.dump d).records fs = .ok rs ∧ rs.Perm (ps.map Parameter.record) ∧
      (rs.map (·.id)).Pairwise (· < ·) := by
  obtain ⟨qs, hperm, hstored⟩ := h
  obtain ⟨hdecode, hrecords⟩ := map_rowRecord hstored
  -- the order changes nothing but the order of the records
  have hsort : (sortRows rows).Perm rows := List.mergeSort_perm _ _
  have hrs : ((sortRows rows).map rowRecord).Perm (ps.map Parameter.record) := by
    refine (hsort.map _).trans ?_
    rw [hrecords]
    exact hperm.map _
  refine ⟨(sortRows rows).map rowRecord, ?_, hrs, ?_⟩
  · show d.records fs = _
    unfold Dump.records
    rw [hrows.rows_eq, hrows.unbroken]
    exact mapM_readRow d.table fun row hrow => hdecode row (hsort.mem_iff.1 hrow)
  · -- the rows ascend, and strictly since their ids are different
    have hle : (((sortRows rows).map rowRecord).map (·.id)).Pairwise (· ≤ ·) := by
      rw [List.pairwise_map, List.pairwise_map]
      simpa only [id_rowRecord] using ascending_sortRows rows
    have hne : (((sortRows rows).map rowRecord).map (·.id)).Nodup := by
      rw [(hrs.map (·.id)).nodup_iff, List.map_map]
      exact hids
    exact (hle.and hne).imp fun h => Int64.lt_of_le_of_ne h.1 h.2

/-- Parameters with different ids, written as rows of a table in any order, as entries of a YAML text
in any order, and held in memory: all three stores give their records, the table in ascending order of
the ids, and so they fill every attribute table alike. -/
theorem stores_agree {ps : List Parameter} (hids : (ps.map (·.id)).Nodup)
    {fs : FileSystem} {d : Dump} {rows : List (Int64 × Bytes)} (hrows : HasRows fs d rows)
    (hstored : HoldsAll Parameter.StoredIn ps rows)
    {content : Bytes} {es : List Entry} (hread : Entry.readAll content = .ok es)
    (hentered : HoldsAll Parameter.EnteredAs ps es) (path : Bytes) :
    ∃ stored entered,
      (Store.dump d).records fs = .ok stored ∧
      (Store.yaml content path).records fs = .ok entered ∧
      stored.Perm entered ∧
      stored.Perm (ps.map Parameter.record) ∧
      (stored.map (·.id)).Pairwise (· < ·) ∧
      ∀ t : AttributeTable,
        t.populate ((Store.dump d).records fs) =
          t.populate ((Store.memory (ps.map Parameter.record)).records fs) ∧
        t.populate ((Store.yaml content path).records fs) =
          t.populate ((Store.memory (ps.map Parameter.record)).records fs) := by
  obtain ⟨stored, hdump, hperm, hascending⟩ := dump_records hrows hids hstored
  obtain ⟨entered, hyaml, hperm'⟩ := yaml_records hread hentered fs path
  have hids' : ((ps.map Parameter.record).map (·.id)).Nodup := by
    rw [List.map_map]
    exact hids
  refine ⟨stored, entered, hdump, hyaml, hperm.trans hperm'.symm, hperm, hascending, fun t => ?_⟩
  rw [hdump, hyaml]
  exact ⟨(t.populate_perm hperm.symm hids').symm, (t.populate_perm hperm'.symm hids').symm⟩

/-- A parameter with all its fields in an unusual order and one with none, as rows and as entries in
opposite orders. -/
theorem two_parameters_read_alike :
    let p : Parameter := { id := 7, stackType := some 0xD0, defaultInt := -1
                           defaultString := [0x80], autoDisable := false }
    let q : Parameter := { id := -3 }
    let rows := [(7, [4, 5, 0x80, 0, 2, 0xFF, 0xFF, 0xFF, 0xFF, 1, 0xD0, 0]), (-3, [0, 9])]
    let d : Dump := { path := utf8 "cache.db", table := utf8 "params" }
    let database : Database := ⟨[.ofRows d.table Database.standardColumns
      (rows.map fun row => [.int row.1, .blob row.2])]⟩
    let fs : FileSystem := { entries := [([d.path], .database database)] }
    let content := utf8 "params:\n- id: -3\n- id: 7\n  type: Ð\n  default_int: -1\n" ++
      utf8 "  default_string: €\n  auto_disable: false\n"
    let es : List Entry := [{ id := -3 }, { id := 7, stackType := utf8 "Ð", defaultInt := -1
                                            defaultString := utf8 "€", autoDisable := some false }]
    ([p, q].map (·.id)).Nodup ∧ HasRows fs d rows ∧ HoldsAll Parameter.StoredIn [p, q] rows ∧
      Entry.readAll content = .ok es ∧ HoldsAll Parameter.EnteredAs [p, q] es ∧
      ∃ stored entered, (Store.dump d).records fs = .ok stored ∧
        (Store.yaml content []).records fs = .ok entered ∧ stored.Perm entered ∧
        stored.Perm [p.record, q.record] ∧ (stored.map (·.id)).Pairwise (· < ·) := by
  intro p q rows d database fs content es
  have hids : ([p, q].map (·.id)).Nodup := by decide
  have hrows : HasRows fs d rows := ⟨rfl, by decide +kernel, ⟨database, rfl, rfl⟩, rfl⟩
  have hp : p.StoredIn (7, [4, 5, 0x80, 0, 2, 0xFF, 0xFF, 0xFF, 0xFF, 1, 0xD0, 0]) := by
    refine ⟨rfl, [.noAutoDisable, .defaultString [0x80], .ofInt (-1), .stackType 0xD0], [], ?_, rfl⟩
    refine ⟨by decide, fun b hb => ?_, fun _ => by decide, fun _ => by decide, fun _ => by decide⟩
    cases hb
    decide
  have hq : q.StoredIn (-3, [0, 9]) := by
    refine ⟨rfl, [], [9], ⟨by simp, nofun, ?_, ?_, nofun⟩, rfl⟩
    · exact fun h => absurd rfl h
    · exact fun h => absurd rfl h
  have hstored : HoldsAll Parameter.StoredIn [p, q] rows := ⟨_, .refl _, .cons hp (.cons hq .nil)⟩
  have hread : Entry.readAll content = .ok es := by decide +kernel
  have hentered : HoldsAll Parameter.EnteredAs [p, q] es := by
    refine ⟨[q, p], .swap p q [], .cons ⟨rfl, rfl, rfl, rfl, .inr ⟨rfl, rfl⟩⟩ (.cons ?_ .nil)⟩
    exact ⟨rfl, by decide +kernel, rfl, by decide +kernel, .inl rfl⟩
  obtain ⟨stored, entered, hdump, hyaml, hperm, hrecords, hascending, -⟩ :=
    stores_agree hids hrows hstored hread hentered []
  exact ⟨hids, hrows, hstored, hread, hentered, stored, entered, hdump, hyaml, hperm, hrecords,
    hascending⟩

end StackTypes.Param
