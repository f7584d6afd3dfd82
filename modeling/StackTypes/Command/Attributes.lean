/-
The command that loads the attributes and prints them: all of them in columns, or one.
-/
import StackTypes.Command.Report
import StackTypes.Text.Columns

namespace StackTypes.Command

/-- What is loaded and printed. -/
structure AttributeSettings where
  /-- The configuration file. -/
  config : Bytes := utf8 "cs2types.yaml"
  /-- The attribute to print; a negative number stands for all. -/
  id : Int64 := -1
deriving DecidableEq, Repr

/-- The flags of the command. -/
def attributeFlags : List (Flag AttributeSettings) :=
  [.ofText "config" fun v s => { s with config := v },
    .ofInt "id" fun n s => { s with id := n }]

/-- How the flags are used. -/
def attributeUsage : Bytes :=
  utf8 ("Usage of attrs:\n" ++
    "  -config string\n    \tconfiguration file (default \"cs2types.yaml\")\n" ++
    "  -id int\n    \tprint only this attribute (default -1)\n")

/-- The configuration file that the arguments lead to, if they can be read. -/
def configPath? (args : List Bytes) : Option Bytes :=
  match Flag.parse attributeFlags args {} with
  | (.error _, _) => none
  | (.ok _, settings) => some settings.config

/-- The stages that load the attributes. -/
def attributeStages : List Warmup.Stage :=
  [.config, .store, .attributes .shared]

/-- The results on a filled table: one attribute, or all in columns. -/
def attributeResults (id : Int64) (t : AttributeTable) : Except CommandError Bytes :=
  if 0 ≤ id then
    match t.lookup id with
    | none => .error (.noAttribute id)
    | some a => .ok (Numeral.ofInt id.toInt ++ [0x09] ++ a.name ++ [0x0A])
  else .ok (Columns.layout (t.ids.map fun i => [Numeral.ofInt i.toInt, (t.typeOf i).name]))

/-- Does the configuration ask for colour in any case? -/
def asksColor (c : Option Config) : Bool :=
  c.any fun c => c.color == Config.always

/-- The attributes that a configuration leads to. -/
def attributeReport (fs : FileSystem) (args : List Bytes) (session : Session) : Report × Session :=
  match Flag.parse attributeFlags args {} with
  | (.error e, _) => (.ofFlagError attributeUsage e, session)
  | (.ok _, settings) =>
    let start : Warmup.State :=
      { context := { configPath := settings.config }, shared := session.attributes }
    let warm := Warmup.run fs attributeStages start
    let closed := (Warmup.closeNoted warm).2
    let session := { session with attributes := closed.shared }
    let report : Report :=
      { log := Warmup.logText closed.log, colored := asksColor warm.context.config }
    if warm.context.failed then
      ({ report with error := some (.stages warm.context.errors) }, session)
    else match attributeResults settings.id closed.shared with
      | .error e => ({ report with error := some e }, session)
      | .ok results => ({ report with results := results }, session)

end StackTypes.Command
