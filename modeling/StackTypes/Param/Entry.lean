/-
Parameters written out in YAML: a mapping whose `params` is a list of entries, each with an id and
perhaps a descriptor, default values and whether the parameter switches itself off.
-/
import StackTypes.Param.Record
import StackTypes.Yaml.Reading

namespace StackTypes.Param

/-- A parameter as a YAML text gives it. -/
structure Entry where
  id : Int64 := 0
  /-- The descriptor character of the values, or nothing. -/
  stackType : Bytes := []
  defaultInt : Int32 := 0
  defaultString : Bytes := []
  /-- Does the parameter switch itself off? It does if nothing is said. -/
  autoDisable : Option Bool := none
deriving DecidableEq, Repr

namespace Entry

open Yaml (Reading)
open Yaml.Reading (RecordField)

/-- The fields of an entry. -/
def fields : List (RecordField Entry) :=
  [.of "id" (Reading.scalar Reading.int64) fun v e => { e with id := v },
    .of "type" (Reading.scalar Reading.text) fun v e => { e with stackType := v },
    .of "default_int" (Reading.scalar Reading.int32) fun v e => { e with defaultInt := v },
    .of "default_string" (Reading.scalar Reading.text) fun v e => { e with defaultString := v },
    .of "auto_disable" (Reading.scalar Reading.bool) fun v e => { e with autoDisable := some v }]

/-- The list of entries in a document. -/
def list (fuel : Nat) : List (RecordField (List Entry)) :=
  [.of "params"
    (Reading.list (utf8 "[]params.yamlParam")
      (Reading.record fuel (utf8 "params.yamlParam") fields {}))
    fun v _ => v]

/-- All entries that a YAML text holds. -/
def readAll (s : Bytes) : Except Yaml.Failure (List Entry) :=
  Yaml.read (fun fuel => Reading.record fuel (utf8 "params.yamlFile") (list fuel)) [] s

/-- The record of an entry, if its descriptor is one character or absent. -/
def toRecord? (e : Entry) : Option Record :=
  let record := fun stackType : Int32 =>
    { id := e.id, stackType := stackType, defaultInt := e.defaultInt
      defaultString := e.defaultString, autoDisable := e.autoDisable.getD true : Record }
  if e.stackType.isEmpty then some (record 0)
  else (Utf8.single? e.stackType).map fun n => record (Int32.ofNat n)

end Entry

/-- The descriptor of an entry is not a single character. -/
structure BadEntry where
  index : Nat
  stackType : Bytes
deriving DecidableEq, Repr

/-- The text of the fault. -/
def BadEntry.message (e : BadEntry) : Bytes :=
  utf8 "params[" ++ Numeral.ofNat e.index ++ utf8 "]: type " ++ Quoted.text e.stackType
    ++ utf8 " must be a single character"

/-- The records of entries, the first of which has the given index. -/
def Entry.toRecords (index : Nat) : List Entry → Except BadEntry (List Record)
  | [] => .ok []
  | e :: es =>
    match e.toRecord? with
    | none => .error ⟨index, e.stackType⟩
    | some r => (toRecords (index + 1) es).map (r :: ·)

end StackTypes.Param
