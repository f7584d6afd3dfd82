/-
What a command reports: its results, its log, and perhaps why it failed. The error line is written
after the log; a command that is used wrongly also gets the usage, and another exit code.
-/
import StackTypes.Attribute
import StackTypes.Cast
import StackTypes.Command.Flag
import StackTypes.Warmup

namespace StackTypes

/-- What commands share and leave to each other: the registered composites and the attributes. -/
structure Session where
  interner : Interner := Interner.shared
  attributes : AttributeTable := .empty
deriving DecidableEq, Repr

/-- How a command is used wrongly. -/
inductive UsageFault where
  | flags (e : FlagError)
  | unknownCommand (name : Bytes)
  | byteRange
  | notOneCharacter
  | noDescriptor
  | noTarget
deriving DecidableEq, Repr

/-- The text of a usage fault. -/
def UsageFault.message : UsageFault → Bytes
  | .flags e => e.message
  | .unknownCommand name => utf8 "unknown command " ++ Quoted.text name
  | .byteRange => utf8 "-byte must be in 0..255"
  | .notOneCharacter => utf8 "compact takes a single character"
  | .noDescriptor => utf8 "desc takes at least one descriptor"
  | .noTarget => utf8 "cast takes at least one target type"

/-- Why a command failed. -/
inductive CommandError where
  | usage (fault : UsageFault)
  | unknownType (descriptor : Bytes)
  | call (e : CallError)
  | stages (es : List Warmup.StageError)
  | noAttribute (id : Int64)
deriving DecidableEq, Repr

namespace CommandError

/-- The text of a command error. -/
def message : CommandError → Bytes
  | .usage fault => utf8 "invalid usage: " ++ fault.message
  | .unknownType descriptor => utf8 "unknown type descriptor " ++ Quoted.text descriptor
  | .call e => e.message
  | .stages es => Bytes.joinWith [0x0A] (es.map Warmup.StageError.message)
  | .noAttribute id => utf8 "attribute " ++ Numeral.ofInt id.toInt ++ utf8 " not found"

/-- Is the command used wrongly? -/
def isUsage : CommandError → Bool
  | .usage _ => true
  | _ => false

end CommandError

/-- What a command reports. -/
structure Report where
  /-- The results. -/
  results : Bytes := []
  /-- What is told on the way. -/
  log : Bytes := []
  error : Option CommandError := none
  /-- Is the error line coloured? -/
  colored : Bool := false
deriving DecidableEq, Repr

/-- What a run of the program leaves behind: two texts and the exit code. -/
structure Outcome where
  stdout : Bytes := []
  stderr : Bytes := []
  code : Nat := 0
deriving DecidableEq, Repr

/-- How the program is used. -/
def usage : Bytes :=
  utf8 ("Usage: cs2types <command> [flags] [args]\n\nCommands:\n" ++
    "  catalog                      list all atomic types\n" ++
    "  compact [-byte N] [char]     decode a compact descriptor\n" ++
    "  desc [-dump] [-interned] <descriptor>...\n" ++
    "                               parse textual descriptors\n" ++
    "  cast [-int N | -var TYPE]... <type>...\n" ++
    "                               cast literals or typed variables, one per type\n" ++
    "  attrs [-config FILE] [-id N] load and print attribute stack types\n")

namespace Report

/-- A report of results. -/
def ofResults (results : Bytes) : Report :=
  { results := results }

/-- A report of a failure. -/
def ofError (e : CommandError) : Report :=
  { error := some e }

/-- A report of wrong use. -/
def ofUsage (fault : UsageFault) : Report :=
  ofError (.usage fault)

/-- A report of flags that cannot be read, which tells how they are used. -/
def ofFlagError (flagUsage : Bytes) (e : FlagError) : Report :=
  let told := if e = .help then [] else e.message ++ [0x0A]
  { log := told ++ flagUsage, error := some (.usage (.flags e)) }

/-- The escape sequence that starts red text. -/
def red : Bytes := [0x1B] ++ utf8 "[31m"

/-- The escape sequence that ends coloured text. -/
def plain : Bytes := [0x1B] ++ utf8 "[0m"

/-- The error line. -/
def errorLine (colored : Bool) (e : CommandError) : Bytes :=
  let line := utf8 "error: " ++ e.message ++ [0x0A]
  if colored then red ++ line ++ plain else line

/-- What a report leaves behind. -/
def outcome (r : Report) : Outcome :=
  match r.error with
  | none => { stdout := r.results, stderr := r.log }
  | some e =>
    { stdout := r.results
      stderr := r.log ++ errorLine r.colored e ++ (if e.isUsage then usage else [])
      code := if e.isUsage then 2 else 1 }

end Report

end StackTypes
