/-
The attribute table: the type of the values of each attribute, by id. The entries are kept in
ascending order of their ids, and of two records with one id the later counts.
-/
import StackTypes.Atomic
import StackTypes.Param.Record

namespace StackTypes

/-- A table of attribute types, in ascending order of the ids. -/
structure AttributeTable where
  entries : List (Int64 × Atomic)
  ascending : entries.Pairwise fun a b => a.1 < b.1
deriving DecidableEq, Repr

namespace AttributeTable

/-- The table without attributes. -/
def empty : AttributeTable := ⟨[], .nil⟩

/-- An entry put in its place among entries in ascending order. -/
def insertEntry (id : Int64) (type : Atomic) : List (Int64 × Atomic) → List (Int64 × Atomic)
  | [] => [(id, type)]
  | e :: es =>
    if id < e.1 then (id, type) :: e :: es
    else if id = e.1 then (id, type) :: es
    else e :: insertEntry id type es

theorem eq_or_mem_of_mem_insertEntry {id : Int64} {type : Atomic} {es : List (Int64 × Atomic)}
    {e : Int64 × Atomic} (h : e ∈ insertEntry id type es) : e = (id, type) ∨ e ∈ es := by
  induction es with
  | nil => simpa [insertEntry] using h
  | cons f es ih =>
    unfold insertEntry at h
    split at h
    · simpa using h
    · split at h
      · rcases List.mem_cons.1 h with h | h
        · exact .inl h
        · exact .inr (List.mem_cons_of_mem _ h)
      · rcases List.mem_cons.1 h with h | h
        · exact .inr (List.mem_cons.2 (.inl h))
        · exact (ih h).imp_right (List.mem_cons_of_mem _)

/-- An entry in its place keeps the order. -/
theorem ascending_insertEntry (id : Int64) (type : Atomic) {es : List (Int64 × Atomic)}
    (h : es.Pairwise fun a b => a.1 < b.1) :
    (insertEntry id type es).Pairwise fun a b => a.1 < b.1 := by
  induction es with
  | nil => simp [insertEntry]
  | cons e es ih =>
    obtain ⟨hlt, hes⟩ := List.pairwise_cons.1 h
    unfold insertEntry
    split
    · rename_i hid
      refine List.pairwise_cons.2 ⟨fun f hf => ?_, h⟩
      rcases List.mem_cons.1 hf with rfl | hf
      · exact hid
      · exact Int64.lt_trans hid (hlt f hf)
    · split
      · rename_i heq
        exact List.pairwise_cons.2 ⟨fun f hf => heq ▸ hlt f hf, hes⟩
      · rename_i hge hne
        have hid : e.1 < id := Int64.lt_of_le_of_ne (Int64.not_lt.1 hge) (Ne.symm hne)
        refine List.pairwise_cons.2 ⟨fun f hf => ?_, ih hes⟩
        rcases eq_or_mem_of_mem_insertEntry hf with rfl | hf
        · exact hid
        · exact hlt f hf

/-- The table with the type of one attribute set. -/
def insert (t : AttributeTable) (id : Int64) (type : Atomic) : AttributeTable where
  entries := insertEntry id type t.entries
  ascending := ascending_insertEntry id type t.ascending

/-- The table with the attribute of a record. -/
def add (t : AttributeTable) (r : Param.Record) : AttributeTable :=
  t.insert r.id (Atomic.ofDescriptor r.stackType)

/-- The table with the attributes of records, one after the other. -/
def addAll (t : AttributeTable) (rs : List Param.Record) : AttributeTable :=
  rs.foldl add t

/-- The type of an attribute. -/
def lookup (t : AttributeTable) (id : Int64) : Option Atomic :=
  t.entries.lookup id

/-- The type of an attribute, unknown if the table does not have it. -/
def typeOf (t : AttributeTable) (id : Int64) : Atomic :=
  (t.lookup id).getD .unknown

/-- How many attributes there are. -/
def size (t : AttributeTable) : Nat :=
  t.entries.length

/-- The ids in ascending order. -/
def ids (t : AttributeTable) : List Int64 :=
  t.entries.map (·.1)

/-- What came of filling a table: the size that is reported, and why the store gave no records. -/
structure Filling (ε : Type) where
  size : Nat
  failure : Option ε
deriving DecidableEq, Repr

/-- The table filled from what a store gave. A store that failed leaves it alone, and the size
reported is zero then. -/
def populate {ε : Type} (t : AttributeTable) (loaded : Except ε (List Param.Record)) :
    Filling ε × AttributeTable :=
  match loaded with
  | .error e => (⟨0, some e⟩, t)
  | .ok rs => (⟨(t.addAll rs).size, none⟩, t.addAll rs)

end AttributeTable

end StackTypes
