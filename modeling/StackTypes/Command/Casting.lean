/-
The command that casts integers and variables to types, one argument for each type.
-/
import StackTypes.Command.Report
import StackTypes.Descriptor
import StackTypes.Expr.Printer

namespace StackTypes.Command

/-- The arguments collected so far, the latest first, and the composites registered. -/
structure CastArguments where
  exprs : List Expr := []
  interner : Interner
deriving Repr

namespace CastArguments

/-- An integer that fits 32 bits. -/
def readInt32 (s : Bytes) : Except ValueFault Int32 :=
  match Integer.readInt 10 s with
  | .error fault => .error (.notDecimal s fault)
  | .ok n => if n.toInt32.toInt64 = n then .ok n.toInt32 else .error .beyondInt32

/-- An integer as one more argument. -/
def addInt (s : Bytes) (args : CastArguments) : Except ValueFault Unit × CastArguments :=
  match readInt32 s with
  | .error fault => (.error fault, args)
  | .ok v => (.ok (), { args with exprs := .int v :: args.exprs })

/-- A variable of a type as one more argument, named for its place. -/
def addVariable (s : Bytes) (args : CastArguments) : Except ValueFault Unit × CastArguments :=
  match Descriptor.parse s args.interner with
  | (none, it) => (.error (.unknownType s), { args with interner := it })
  | (some t, it) =>
    let name := utf8 "v" ++ Numeral.ofNat args.exprs.length
    (.ok (), { exprs := .var name t :: args.exprs, interner := it })

end CastArguments

/-- The flags of the command. -/
def castFlags : List (Flag CastArguments) :=
  [{ name := utf8 "int", action := .value CastArguments.addInt },
    { name := utf8 "var", action := .value CastArguments.addVariable }]

/-- How the flags are used. -/
def castUsage : Bytes :=
  utf8 ("Usage of cast:\n" ++
    "  -int value\n    \tcast an integer literal (repeatable)\n" ++
    "  -var value\n    \tcast a variable of this type (repeatable)\n")

/-- The types of descriptors, or the first that is none. -/
def parseTypes : List Bytes → Interner → Except Bytes (List Ty) × Interner
  | [], it => (.ok [], it)
  | s :: rest, it =>
    match Descriptor.parse s it with
    | (none, it) => (.error s, it)
    | (some t, it) =>
      match parseTypes rest it with
      | (.error bad, it) => (.error bad, it)
      | (.ok ts, it) => (.ok (t :: ts), it)

/-- The lines of expressions, each with its type. -/
def castLines : List Expr → Interner → Bytes × Interner
  | [], it => ([], it)
  | e :: rest, it =>
    let (t, it) := e.type it
    let (lines, it) := castLines rest it
    (e.print ++ utf8 " : " ++ t.toText ++ [0x0A] ++ lines, it)

/-- Arguments cast to the types of descriptors; without arguments, a zero. -/
def castTargets (exprs : List Expr) (targets : List Bytes) (it : Interner) : Report × Interner :=
  match parseTypes targets it with
  | (.error bad, it) => (.ofError (.unknownType bad), it)
  | (.ok types, it) =>
    match castAll (if exprs.isEmpty then [.int 0] else exprs) types it with
    | (.error e, it) => (.ofError (.call e), it)
    | (.ok casts, it) =>
      let (lines, it) := castLines (casts.map fun (e, c) => c.apply e) it
      (.ofResults lines, it)

/-- Casts of integers and variables. -/
def castReport (args : List Bytes) (session : Session) : Report × Session :=
  match Flag.parse castFlags args { interner := session.interner } with
  | (.error e, collected) =>
    (.ofFlagError castUsage e, { session with interner := collected.interner })
  | (.ok targets, collected) =>
    if targets.isEmpty then (.ofUsage .noTarget, { session with interner := collected.interner })
    else
      let (report, it) := castTargets collected.exprs.reverse targets collected.interner
      (report, { session with interner := it })

end StackTypes.Command
