/-
Databases, as far as parameters are read from them: tables with named columns, and the query for the
columns `id` and `data` of a table in the order of the ids. The type a column is declared with
decides in which form values are stored.
-/
import StackTypes.Database.Keyword
import StackTypes.Text.Blank
import StackTypes.Text.Integer
import StackTypes.Text.Numeral

namespace StackTypes

namespace Database

/-- A stored value. -/
inductive Cell where
  | null
  | int (n : Int64)
  | text (s : Bytes)
  | blob (s : Bytes)
deriving DecidableEq, Repr

/-- The text with its ASCII letters in lower case; names count as the same up to case. -/
def lowerCase (s : Bytes) : Bytes :=
  s.map fun c => if 0x41 ≤ c ∧ c ≤ 0x5A then c + 0x20 else c

/-- The form in which a column likes to store values. -/
inductive Affinity where
  | numeric
  | text
  | none
deriving DecidableEq, Repr

/-- Does a word stand somewhere in a text? -/
def mentions (word : String) : Bytes → Bool
  | [] => false
  | c :: s => Bytes.startsWith (c :: s) (utf8 word) || mentions word s

/-- The form that a declared type, in lower case, asks for. -/
def Affinity.ofType (s : Bytes) : Affinity :=
  if mentions "int" s then .numeric
  else if mentions "char" s || mentions "clob" s || mentions "text" s then .text
  else if mentions "blob" s || s.isEmpty then .none
  else .numeric

/-- A value in the form that a column stores it. -/
def Affinity.store : Affinity → Cell → Cell
  | .numeric, .text s =>
    match Integer.readInt 10 (Blank.trim s) with
    | .ok n => .int n
    | .error _ => .text s
  | .text, .int n => .text (Numeral.ofInt n.toInt)
  | _, c => c

/-- A column. -/
structure Column where
  name : Bytes
  affinity : Affinity
deriving DecidableEq, Repr

/-- The words of a text, divided by blanks. -/
def splitWords (s : Bytes) : List Bytes :=
  (s.splitBy fun a b => (a == 0x20) == (b == 0x20)).filter fun w => w.head? != some 0x20

/-- The words that end the type in the definition of a column. -/
def constraintWords : List Bytes :=
  ["primary", "not", "null", "unique", "check", "default", "collate", "references", "generated",
    "as", "constraint"].map utf8

/-- A column by its definition: the name, the type, and what else holds of it. -/
def Column.ofDefinition (s : Bytes) : Column :=
  match splitWords s with
  | [] => ⟨[], .none⟩
  | name :: rest =>
    let type := (rest.map lowerCase).takeWhile fun w => !constraintWords.contains w
    ⟨name, Affinity.ofType (Bytes.joinWith (utf8 " ") type)⟩

/-- A table. -/
structure Table where
  name : Bytes
  columns : List Column
  rows : List (List Cell)
deriving Repr

/-- The columns of a table if nothing else is said. -/
def standardColumns : List Column :=
  [⟨utf8 "id", .numeric⟩, ⟨utf8 "data", .none⟩]

/-- A table with rows stored in it. -/
def Table.ofRows (name : Bytes) (columns : List Column) (rows : List (List Cell)) : Table :=
  { name := name, columns := columns
    rows := rows.map fun row => row.zipWith (fun c column => column.affinity.store c) columns }

end Database

/-- A database: its tables. -/
structure Database where
  tables : List Database.Table := []
deriving Repr

/-- Why a query has no answer. -/
inductive QueryError where
  | cannotOpen
  | notDatabase
  | syntaxError (word : Bytes)
  | noTable (name : Bytes)
  | noColumn (name : Bytes)
  | closed
deriving DecidableEq, Repr

/-- The text of a query error. -/
def QueryError.message : QueryError → Bytes
  | .cannotOpen => utf8 "unable to open database file: out of memory (14)"
  | .notDatabase => utf8 "file is not a database (26)"
  | .syntaxError word => utf8 "SQL logic error: near \"" ++ word ++ utf8 "\": syntax error (1)"
  | .noTable name => utf8 "SQL logic error: no such table: " ++ name ++ utf8 " (1)"
  | .noColumn name => utf8 "SQL logic error: no such column: " ++ name ++ utf8 " (1)"
  | .closed => utf8 "sql: database is closed"

namespace Database

/-- The bytes that the file of a database starts with. -/
def header : Bytes :=
  utf8 "SQLite format 3" ++ [0]

/-- The tables that every database has. -/
def systemTables : List Bytes :=
  ["sqlite_master", "sqlite_schema", "sqlite_temp_master", "sqlite_temp_schema"].map utf8

/-- Is a text before another, byte by byte? -/
def bytesLe : Bytes → Bytes → Bool
  | [], _ => true
  | _ :: _, [] => false
  | a :: s, b :: t => if a = b then bytesLe s t else a < b

/-- Is a value at most another: nothing, then numbers, then texts, then raw bytes? -/
def Cell.le : Cell → Cell → Bool
  | .null, _ => true
  | _, .null => false
  | .int a, .int b => a ≤ b
  | .int _, _ => true
  | _, .int _ => false
  | .text s, .text t => bytesLe s t
  | .text _, _ => true
  | _, .text _ => false
  | .blob s, .blob t => bytesLe s t

/-- The place of a column. -/
def Table.column? (t : Table) (name : String) : Option Nat :=
  t.columns.findIdx? fun c => lowerCase c.name == utf8 name

/-- The ids and data of a table, ordered by id. -/
def Table.definitions (t : Table) : Except QueryError (List (Cell × Cell)) :=
  match t.column? "id", t.column? "data" with
  | none, _ => .error (.noColumn (utf8 "id"))
  | _, none => .error (.noColumn (utf8 "data"))
  | some i, some d =>
    .ok ((t.rows.map fun row => (row.getD i .null, row.getD d .null)).mergeSort
      fun a b => a.1.le b.1)

/-- The table with a name; case does not count. -/
def table? (d : Database) (name : Bytes) : Option Table :=
  if systemTables.contains (lowerCase name) then some { name := name, columns := [], rows := [] }
  else d.tables.find? fun t => lowerCase t.name == lowerCase name

/-- The ids and data of the table with a name, ordered by id. -/
def definitions (d : Database) (name : Bytes) : Except QueryError (List (Cell × Cell)) :=
  match d.table? name with
  | none => .error (.noTable name)
  | some t => t.definitions

/-- Can the word name a table in a query? -/
def isTableWord (name : Bytes) : Bool :=
  !keywords.contains (lowerCase name)

/-- An answer that breaks off: how many rows have come before, and what is reported then. -/
structure Break where
  given : Nat
  text : Bytes
deriving DecidableEq, Repr

/-- What the driver of databases reports on its own account, for each name of a database. -/
structure Driver where
  /-- Why the database cannot be opened. -/
  openingFault : Bytes → Option Bytes := fun _ => none
  /-- Where an answer of the database breaks off. -/
  break? : Bytes → Option Break := fun _ => none
  /-- Why the database cannot be closed. -/
  closingFault : Bytes → Option Bytes := fun _ => none

end Database

end StackTypes
