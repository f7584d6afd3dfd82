/-
A file system: files with their content, directories, and database files, under their names from the
root on. The directories above an entry exist with it, and so do those above the working directory.
-/
import StackTypes.Database
import StackTypes.Path

namespace StackTypes

/-- What stands under a path. -/
inductive FileEntry where
  | file (content : Bytes)
  | directory
  | database (d : Database)

/-- The entries, each under its names from the root on, the directory that paths start from, and the
driver for the databases. -/
structure FileSystem where
  workingDirectory : List Bytes := []
  entries : List (List Bytes × FileEntry) := []
  driver : Database.Driver := {}

/-- Why a file cannot be read. -/
inductive FileFault where
  | missing
  | notDirectory
  | isDirectory
  | nameTooLong
  | invalidName
deriving DecidableEq, Repr

/-- A file that cannot be read. -/
structure FileError where
  path : Bytes
  fault : FileFault
deriving DecidableEq, Repr

namespace FileError

/-- The text of a file error. Only a directory can be opened and then not be read. -/
def message (e : FileError) : Bytes :=
  match e.fault with
  | .missing => utf8 "open " ++ e.path ++ utf8 ": no such file or directory"
  | .notDirectory => utf8 "open " ++ e.path ++ utf8 ": not a directory"
  | .isDirectory => utf8 "read " ++ e.path ++ utf8 ": is a directory"
  | .nameTooLong => utf8 "open " ++ e.path ++ utf8 ": file name too long"
  | .invalidName => utf8 "open " ++ e.path ++ utf8 ": invalid argument"

end FileError

namespace FileSystem

/-- What stands under names. A directory exists if an entry is below it. -/
def entry? (fs : FileSystem) (names : List Bytes) : Option FileEntry :=
  match fs.entries.find? fun e => e.1 == names with
  | some (_, e) => some e
  | none =>
    if names.isPrefixOf fs.workingDirectory || fs.entries.any fun e => names.isPrefixOf e.1 then
      some .directory
    else none

/-- The longest name. -/
def maxName : Nat := 255

/-- The names after one more, which has to be looked up in a directory. -/
def step (fs : FileSystem) (names : List Bytes) (name : Bytes) : Except FileFault (List Bytes) :=
  match fs.entry? names with
  | none => .error .missing
  | some .directory =>
    if name = [] ∨ name = Path.here then .ok names
    else if name = Path.above then .ok names.dropLast
    else if maxName < name.length then .error .nameTooLong
    else .ok (names ++ [name])
  | some _ => .error .notDirectory

/-- The names that a path leads to from the root on; the last of them need not exist. -/
def locate (fs : FileSystem) (path : Bytes) : Except FileFault (List Bytes) :=
  if path.contains 0 then .error .invalidName
  else if path.isEmpty then .error .missing
  else (Path.split path).foldlM fs.step (if Path.isAbsolute path then [] else fs.workingDirectory)

/-- The content of a file. -/
def read (fs : FileSystem) (path : Bytes) : Except FileError Bytes :=
  match fs.locate path with
  | .error fault => .error ⟨path, fault⟩
  | .ok names =>
    match fs.entry? names with
    | none => .error ⟨path, .missing⟩
    | some (.file content) => .ok content
    | some .directory => .error ⟨path, .isDirectory⟩
    | some (.database d) => .ok (if d.tables.isEmpty then [] else Database.header)

/-- The database in a file. A file that does not exist is made, and an empty file is an empty
database; the name is cut at a question mark, and without a name there is an empty database. -/
def openDatabase (fs : FileSystem) (path : Bytes) : Except QueryError Database :=
  let file := match path with
    | [] => []
    | c :: s => c :: s.takeWhile (· != 0x3F)
  if file.isEmpty ∨ file = utf8 ":memory:" then .ok {}
  else match fs.locate file with
    | .error _ => .error .cannotOpen
    | .ok names =>
      match fs.entry? names with
      | none => .ok {}
      | some .directory => .error .cannotOpen
      | some (.database d) => .ok d
      | some (.file content) => if content.isEmpty then .ok {} else .error .notDatabase

end FileSystem

end StackTypes
