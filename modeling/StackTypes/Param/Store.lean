/-
Where parameters come from: records held in memory, a YAML text, or the stored definitions in a table
of a database. A store gives its records in a fixed order or says why it cannot.
-/
import StackTypes.FileSystem
import StackTypes.Param.Definition
import StackTypes.Param.Entry

namespace StackTypes.Param

/-- A table of a database; it gives nothing more once it is closed. -/
structure Dump where
  path : Bytes
  table : Bytes
  isOpen : Bool := true
deriving DecidableEq, Repr

/-- A source of parameters. -/
inductive Store where
  | memory (records : List Record)
  | yaml (content path : Bytes)
  | dump (d : Dump)
deriving DecidableEq, Repr

/-- Why an id cannot be read from a row. -/
inductive IdFault where
  | null
  | text (s : Bytes) (fault : Integer.Fault)
  | blob (s : Bytes) (fault : Integer.Fault)
deriving DecidableEq, Repr

/-- Why a store gives no records. -/
inductive StoreError where
  | file (path : Bytes) (e : FileError)
  | document (path : Bytes) (e : Yaml.Failure)
  | entry (path : Bytes) (e : BadEntry)
  | tableName (name : Bytes)
  | opening (path text : Bytes)
  | query (table : Bytes) (e : QueryError)
  | id (table : Bytes) (e : IdFault)
  | definition (e : DefinitionError)
  | reading (table text : Bytes)
deriving DecidableEq, Repr

/-- The text of an id fault. -/
def IdFault.message : IdFault → Bytes
  | .null => utf8 "converting NULL to int64 is unsupported"
  | .text s fault =>
    utf8 "converting driver.Value type string (" ++ Quoted.text s ++ utf8 ") to a int64: "
      ++ fault.message
  | .blob s fault =>
    utf8 "converting driver.Value type []uint8 (" ++ Quoted.text s ++ utf8 ") to a int64: "
      ++ fault.message

/-- The text of a store error. -/
def StoreError.message : StoreError → Bytes
  | .file path e => utf8 "reading params " ++ path ++ utf8 ": " ++ e.message
  | .document path e => utf8 "parsing params " ++ path ++ utf8 ": " ++ e.message
  | .entry path e => path ++ utf8 ": " ++ e.message
  | .tableName name => utf8 "invalid table name " ++ Quoted.text name
  | .opening path text => utf8 "opening " ++ path ++ utf8 ": " ++ text
  | .query table e => utf8 "querying " ++ table ++ utf8 ": " ++ e.message
  | .id table e =>
    utf8 "scanning " ++ table ++ utf8 ": sql: Scan error on column index 0, name \"id\": "
      ++ e.message
  | .definition e => e.message
  | .reading table text => utf8 "reading " ++ table ++ utf8 ": " ++ text

/-! ## Opening -/

/-- May the byte start the name of a table? -/
def startsName (c : UInt8) : Bool :=
  (0x41 ≤ c && c ≤ 0x5A) || (0x61 ≤ c && c ≤ 0x7A) || c == 0x5F

/-- Is it the name of a table: letters, digits and underscores, and no digit first? -/
def isTableName : Bytes → Bool
  | [] => false
  | c :: s => startsName c && s.all fun c => startsName c || Integer.isDecimal c

/-- The table of a database that is used if none is named. -/
def standardTable : Bytes := utf8 "params"

/-- The YAML text in a file. -/
def Store.openYaml (fs : FileSystem) (path : Bytes) : Except StoreError Store :=
  match fs.read path with
  | .ok content => .ok (.yaml content path)
  | .error e => .error (.file path e)

/-- A table of a database, if the driver takes the name of the database. The database itself is only
opened when it is asked. -/
def Dump.openTable (fs : FileSystem) (path table : Bytes) : Except StoreError Dump :=
  let table := if table.isEmpty then standardTable else table
  if isTableName table then
    match fs.driver.openingFault path with
    | none => .ok { path := path, table := table }
    | some text => .error (.opening path text)
  else .error (.tableName table)

/-! ## Records -/

/-- The id in a row. -/
def readId : Database.Cell → Except IdFault Int64
  | .null => .error .null
  | .int n => .ok n
  | .text s => (Integer.readInt 10 s).mapError (.text s)
  | .blob s => (Integer.readInt 10 s).mapError (.blob s)

/-- The bytes of a definition in a row. -/
def readData : Database.Cell → Bytes
  | .null => []
  | .int n => Numeral.ofInt n.toInt
  | .text s => s
  | .blob s => s

/-- The record in a row. -/
def readRow (table : Bytes) (row : Database.Cell × Database.Cell) : Except StoreError Record :=
  match readId row.1 with
  | .error e => .error (.id table e)
  | .ok id => (decode? id (readData row.2)).mapError .definition

/-- The rows of the table. -/
def Dump.rows (fs : FileSystem) (d : Dump) :
    Except QueryError (List (Database.Cell × Database.Cell)) :=
  if !d.isOpen then .error .closed
  else match fs.openDatabase d.path with
    | .error .cannotOpen => .error .cannotOpen
    | database =>
      if Database.isTableWord d.table then do (← database).definitions d.table
      else .error (.syntaxError d.table)

/-- The records of an answer. The first bad row is the error, and without one a break is. -/
def readRows (table : Bytes) (rows : List (Database.Cell × Database.Cell)) :
    Option Database.Break → Except StoreError (List Record)
  | none => rows.mapM (readRow table)
  | some b =>
    match (rows.take b.given).mapM (readRow table) with
    | .error e => .error e
    | .ok _ => .error (.reading table b.text)

/-- The records of the table in ascending order of their ids. -/
def Dump.records (fs : FileSystem) (d : Dump) : Except StoreError (List Record) :=
  match d.rows fs with
  | .error e => .error (.query d.table e)
  | .ok rows => readRows d.table rows (fs.driver.break? d.path)

/-- The records that entries of a YAML text give. -/
def entryRecords (path : Bytes) (es : List Entry) : Except StoreError (List Record) :=
  (Entry.toRecords 0 es).mapError (.entry path)

/-- The records of a store. -/
def Store.records (fs : FileSystem) : Store → Except StoreError (List Record)
  | .memory records => .ok records
  | .yaml content path =>
    match Entry.readAll content with
    | .error e => .error (.document path e)
    | .ok es => entryRecords path es
  | .dump d => d.records fs

end StackTypes.Param
