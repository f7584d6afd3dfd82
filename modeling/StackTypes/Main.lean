/-
The program as it runs: the files that a command needs are read first, and what the command leaves
behind is written out. Databases are not looked into here: the file of one counts as no database.
-/
import StackTypes.Command

namespace StackTypes

/-- The file system with what stands under a path. -/
def lookAt (fs : FileSystem) (path : Bytes) : IO FileSystem := do
  match String.fromUTF8? ⟨path.toArray⟩ with
  | none => pure fs
  | some name =>
    let file := (← IO.currentDir) / name
    let names := Path.namesFrom fs.workingDirectory path
    if ← file.isDir then pure { fs with entries := (names, .directory) :: fs.entries }
    else
      try
        let content ← IO.FS.readBinFile file
        pure { fs with entries := (names, .file content.toList) :: fs.entries }
      catch _ => pure fs

/-- The file system with what stands under a path and on the way to it. -/
def readInto (fs : FileSystem) (path : Bytes) : IO FileSystem :=
  (Path.leads path).foldlM lookAt fs

/-- The files that a command needs. -/
def neededFiles (args : List Bytes) : IO FileSystem := do
  let directory := utf8 (← IO.currentDir).toString
  let fs : FileSystem := { workingDirectory := Path.namesFrom [] directory }
  match args with
  | [] => pure fs
  | name :: args =>
    match Command.ofName? name, Command.configPath? args with
    | some .attrs, some path =>
      let fs ← readInto fs path
      match Config.load fs path with
      | .error _ => pure fs
      | .ok config => readInto fs config.path
    | _, _ => pure fs

end StackTypes

open StackTypes in
/-- One command, by its arguments. -/
def main (args : List String) : IO UInt32 := do
  let args := args.map utf8
  let fs ← neededFiles args
  let (outcome, _) := Command.run fs args {}
  (← IO.getStdout).write ⟨outcome.stdout.toArray⟩
  (← IO.getStderr).write ⟨outcome.stderr.toArray⟩
  pure outcome.code.toUInt32
