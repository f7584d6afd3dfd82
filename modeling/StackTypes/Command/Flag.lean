/-
Flags of a command: `-name`, `--name`, with a value after an equals sign or as the next argument. A
switch takes a value only after an equals sign. The flags end at the first argument that is none, at
a lone dash, which stays, and after a double dash, which goes. A flag acts on a state as soon as it
is read, so the flags before a bad one have had their effect.
-/
import StackTypes.Text.Integer
import StackTypes.Text.Quoted

namespace StackTypes

/-- Why the value of a flag is not taken. -/
inductive ValueFault where
  /-- No value of the kind that the flag wants. -/
  | notParsed
  /-- An integer beyond 64 bits. -/
  | tooLarge
  /-- No integer, given in decimal. -/
  | notDecimal (text : Bytes) (fault : Integer.Fault)
  /-- An integer beyond 32 bits. -/
  | beyondInt32
  /-- No type. -/
  | unknownType (descriptor : Bytes)
deriving DecidableEq, Repr

/-- The text of a value fault. -/
def ValueFault.message : ValueFault → Bytes
  | .notParsed => utf8 "parse error"
  | .tooLarge => utf8 "value out of range"
  | .notDecimal text fault =>
    utf8 "strconv.ParseInt: parsing " ++ Quoted.text text ++ utf8 ": " ++ fault.message
  | .beyondInt32 => utf8 "out of range"
  | .unknownType descriptor => utf8 "unknown type descriptor " ++ Quoted.text descriptor

/-- Why the flags of a command cannot be read. -/
inductive FlagError where
  | badForm (argument : Bytes)
  | undefined (name : Bytes)
  | noValue (name : Bytes)
  | badValue (value name : Bytes) (fault : ValueFault)
  | badSwitch (value name : Bytes)
  /-- The flags are asked for. -/
  | help
deriving DecidableEq, Repr

/-- The text of a flag error. -/
def FlagError.message : FlagError → Bytes
  | .badForm argument => utf8 "bad flag syntax: " ++ argument
  | .undefined name => utf8 "flag provided but not defined: -" ++ name
  | .noValue name => utf8 "flag needs an argument: -" ++ name
  | .badValue value name fault =>
    utf8 "invalid value " ++ Quoted.text value ++ utf8 " for flag -" ++ name ++ utf8 ": "
      ++ fault.message
  | .badSwitch value name =>
    utf8 "invalid boolean value " ++ Quoted.text value ++ utf8 " for -" ++ name ++ utf8 ": "
      ++ ValueFault.notParsed.message
  | .help => utf8 "flag: help requested"

/-- What a flag does to the state. -/
inductive FlagAction (σ : Type) where
  | switch (set : Bool → σ → σ)
  | value (set : Bytes → σ → Except ValueFault Unit × σ)

/-- A flag. -/
structure Flag (σ : Type) where
  name : Bytes
  action : FlagAction σ

namespace Flag

variable {σ : Type}

/-- A flag that keeps its value as it is. -/
def ofText (name : String) (set : Bytes → σ → σ) : Flag σ :=
  { name := utf8 name, action := .value fun v s => (.ok (), set v s) }

/-- A flag whose value is an integer, in the base that the value names. -/
def ofInt (name : String) (set : Int64 → σ → σ) : Flag σ :=
  { name := utf8 name
    action := .value fun v s =>
      match Integer.readPrefixedInt v with
      | .ok n => (.ok (), set n s)
      | .error .malformed => (.error .notParsed, s)
      | .error .outOfRange => (.error .tooLarge, s) }

/-- A flag that is on or off. -/
def ofSwitch (name : String) (set : Bool → σ → σ) : Flag σ :=
  { name := utf8 name, action := .switch set }

/-- The texts that switch on. -/
def onTexts : List Bytes := ["1", "t", "T", "true", "TRUE", "True"].map utf8

/-- The texts that switch off. -/
def offTexts : List Bytes := ["0", "f", "F", "false", "FALSE", "False"].map utf8

/-- The state of a switch that a text names. -/
def switchState? (s : Bytes) : Option Bool :=
  if onTexts.contains s then some true
  else if offTexts.contains s then some false
  else none

/-- What an argument is. -/
inductive Form where
  /-- No flag: the flags end before it. -/
  | plain
  /-- The mark that ends the flags. -/
  | mark
  /-- A flag with its name and perhaps its value. -/
  | flag (name : Bytes) (value : Option Bytes)
  /-- A flag without a proper name. -/
  | bad
deriving DecidableEq, Repr

/-- A name and what follows the first equals sign after its first character. -/
def splitValue : Bytes → Bytes × Option Bytes
  | [] => ([], none)
  | c :: s =>
    match s.dropWhile (· != 0x3D) with
    | [] => (c :: s, none)
    | _ :: value => (c :: s.takeWhile (· != 0x3D), some value)

/-- The flag with the given text after its dashes. -/
def Form.ofBody (body : Bytes) : Form :=
  match body with
  | [] => .bad
  | c :: _ =>
    if c = 0x2D ∨ c = 0x3D then .bad
    else
      let (name, value) := splitValue body
      .flag name value

/-- The form of an argument. -/
def Form.ofArgument : Bytes → Form
  | [0x2D, 0x2D] => .mark
  | 0x2D :: 0x2D :: body => Form.ofBody body
  | 0x2D :: c :: body => Form.ofBody (c :: body)
  | _ => .plain

/-- The names that ask for help unless a flag has them. -/
def helpNames : List Bytes := [utf8 "help", utf8 "h"]

/-- A flag with a value taken: the error if there is one, and the state. -/
def give (name value : Bytes) (set : Bytes → σ → Except ValueFault Unit × σ) (s : σ) :
    Option FlagError × σ :=
  match set value s with
  | (.ok (), s) => (none, s)
  | (.error fault, s) => (some (.badValue value name fault), s)

/-- A switch set: the error if there is one, and the state. -/
def toggle (name : Bytes) (value : Option Bytes) (set : Bool → σ → σ) (s : σ) :
    Option FlagError × σ :=
  match value with
  | none => (none, set true s)
  | some v =>
    match switchState? v with
    | some b => (none, set b s)
    | none => (some (.badSwitch v name), s)

/-- The flags at the start of the arguments: the arguments after them, or the first error, and the
state that the flags leave. -/
def parse (flags : List (Flag σ)) : List Bytes → σ → Except FlagError (List Bytes) × σ
  | [], s => (.ok [], s)
  | arg :: args, s =>
    match Form.ofArgument arg with
    | .plain => (.ok (arg :: args), s)
    | .mark => (.ok args, s)
    | .bad => (.error (.badForm arg), s)
    | .flag name value =>
      match flags.find? fun f => f.name == name with
      | none => (.error (if helpNames.contains name then .help else .undefined name), s)
      | some f =>
        match f.action, value, args with
        | .switch set, value, args =>
          match toggle name value set s with
          | (none, s) => parse flags args s
          | (some e, s) => (.error e, s)
        | .value set, some v, args =>
          match give name v set s with
          | (none, s) => parse flags args s
          | (some e, s) => (.error e, s)
        | .value _, none, [] => (.error (.noValue name), s)
        | .value set, none, v :: args =>
          match give name v set s with
          | (none, s) => parse flags args s
          | (some e, s) => (.error e, s)

end Flag

end StackTypes
