/-
The commands on types: the list of all atomic types, the type of a compact descriptor, and textual
descriptors.
-/
import StackTypes.Command.Report
import StackTypes.Descriptor
import StackTypes.Text.Columns

namespace StackTypes.Command

/-! ## The list of atomic types -/

/-- What stands for something that a type does not have. -/
def missing : Bytes := utf8 "-"

/-- The line of an atomic type: name, slots, descriptor and stored byte. -/
def catalogRow (a : Atomic) : List Bytes :=
  [a.name, a.footprint.toText,
    match a.descriptor? with
    | some c => Utf8.encode c.toNat
    | none => missing,
    match a.wireByte? with
    | some b => utf8 "0x" ++ Numeral.hex Numeral.upper 2 b.toNat
    | none => missing]

/-- All atomic types. -/
def catalogReport : Report :=
  .ofResults (Columns.layout
    (["NAME", "STACK", "DESC", "WIRE"].map utf8 :: Atomic.catalog.map catalogRow))

/-! ## Compact descriptors -/

/-- The flags of the command. -/
def compactFlags : List (Flag Int64) :=
  [.ofInt "byte" fun n _ => n]

/-- How the flags are used. -/
def compactUsage : Bytes :=
  utf8 ("Usage of compact:\n" ++
    "  -byte int\n    \tdecode a raw Windows-1252 metadata byte (default -1)\n")

/-- The type that a byte or a character stands for. -/
def compactType (byte : Int64) (args : List Bytes) : Except UsageFault Atomic :=
  if 0 ≤ byte then
    if 255 < byte then .error .byteRange else .ok (Atomic.ofWireByte byte.toNatClampNeg.toUInt8)
  else match args with
    | [] => .ok (Atomic.ofDescriptor 0)
    | [s] =>
      match Utf8.single? s with
      | some n => .ok (Atomic.ofDescriptor (Int32.ofNat n))
      | none => .error .notOneCharacter
    | _ => .error .notOneCharacter

/-- The type of a compact descriptor. -/
def compactReport (args : List Bytes) : Report :=
  match Flag.parse compactFlags args (-1) with
  | (.error e, _) => .ofFlagError compactUsage e
  | (.ok args, byte) =>
    match compactType byte args with
    | .error fault => .ofUsage fault
    | .ok a => .ofResults (a.name ++ [0x0A])

/-! ## Textual descriptors -/

/-- What is shown beside each type. -/
structure DescSettings where
  dump : Bool := false
  interned : Bool := false
deriving DecidableEq, Repr

/-- The flags of the command. -/
def descFlags : List (Flag DescSettings) :=
  [.ofSwitch "dump" fun b s => { s with dump := b },
    .ofSwitch "interned" fun b s => { s with interned := b }]

/-- How the flags are used. -/
def descUsage : Bytes :=
  utf8 ("Usage of desc:\n" ++
    "  -dump\n    \tdump the resolved type structure\n" ++
    "  -interned\n    \tlist the interned composites afterwards\n")

/-- The structure of a type, without its address. -/
def dumpText : Ty → Bytes
  | .atomic a => utf8 "(*typesystem.Atomic)(0xPTR)(" ++ a.name ++ utf8 ")\n"
  | .composite c =>
    utf8 "(*typesystem.Composite)(0xPTR)(" ++ (Ty.composite c).toText ++ utf8 ")\n"

/-- The lines of a type. -/
def descLines (dump : Bool) (t : Ty) : Bytes :=
  t.toText ++ utf8 " " ++ t.footprint.toText ++ [0x0A] ++ (if dump then dumpText t else [])

/-- The line of a registered composite. -/
def internedLine (c : Composite) : Bytes :=
  utf8 "#" ++ Numeral.ofNat c.index ++ utf8 " \x7b" ++ (Ty.composite c).toText ++ utf8 "\x7d "
    ++ (Ty.composite c).footprint.toText ++ [0x0A]

/-- The lines of types up to the first descriptor that is none, which is given, too. -/
def descAll (dump : Bool) : List Bytes → Interner → Bytes × Option Bytes × Interner
  | [], it => ([], none, it)
  | s :: rest, it =>
    match Descriptor.parse s it with
    | (none, it) => ([], some s, it)
    | (some t, it) =>
      let (lines, bad, it) := descAll dump rest it
      (descLines dump t ++ lines, bad, it)

/-- The types of textual descriptors. -/
def descReport (args : List Bytes) (session : Session) : Report × Session :=
  match Flag.parse descFlags args {} with
  | (.error e, _) => (.ofFlagError descUsage e, session)
  | (.ok args, settings) =>
    if args.isEmpty then (.ofUsage .noDescriptor, session)
    else
      let (lines, bad, it) := descAll settings.dump args session.interner
      let session := { session with interner := it }
      match bad with
      | some s => ({ results := lines, error := some (.unknownType s) }, session)
      | none =>
        let listed := if settings.interned then it.composites.flatMap internedLine else []
        (.ofResults (lines ++ listed), session)

end StackTypes.Command
