/-
The program: a command with its arguments, run on a file system and in a session.
-/
import StackTypes.Command.Attributes
import StackTypes.Command.Casting
import StackTypes.Command.Types

namespace StackTypes

/-- What the first argument asks for. -/
inductive Command where
  | catalog
  | compact
  | desc
  | cast
  | attrs
  | help
deriving DecidableEq, Repr

namespace Command

/-- The commands by name. -/
def names : List (Bytes × Command) :=
  [(utf8 "catalog", .catalog), (utf8 "compact", .compact), (utf8 "desc", .desc),
    (utf8 "cast", .cast), (utf8 "attrs", .attrs), (utf8 "help", .help), (utf8 "-help", .help),
    (utf8 "--help", .help), (utf8 "-h", .help)]

/-- The command with a name. -/
def ofName? (name : Bytes) : Option Command :=
  names.lookup name

/-- What a command reports, and the session afterwards. -/
def report (fs : FileSystem) (c : Command) (args : List Bytes) (session : Session) :
    Report × Session :=
  match c with
  | .catalog => (Command.catalogReport, session)
  | .compact => (Command.compactReport args, session)
  | .desc => Command.descReport args session
  | .cast => Command.castReport args session
  | .attrs => Command.attributeReport fs args session
  | .help => (.ofResults usage, session)

/-- What a run of the program leaves behind, and the session afterwards. -/
def run (fs : FileSystem) (args : List Bytes) (session : Session) : Outcome × Session :=
  match args with
  | [] => ({ stderr := usage, code := 2 }, session)
  | name :: args =>
    match ofName? name with
    | none => ((Report.ofUsage (.unknownCommand name)).outcome, session)
    | some c =>
      let (r, session) := c.report fs args session
      (r.outcome, session)

end Command

end StackTypes
