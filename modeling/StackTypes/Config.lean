/-
The configuration: where the parameters are, and whether diagnostics are coloured. What a document
says is filled up with the usual values and then checked, so a configuration that has been read
obeys the rules.
-/
import StackTypes.Param.Store

namespace StackTypes

/-- A configuration. -/
structure Config where
  /-- The kind of the parameter store. -/
  source : Bytes := []
  /-- Where the store is, as seen from the configuration file. -/
  path : Bytes := []
  /-- The table of a database. -/
  table : Bytes := []
  /-- When diagnostics are coloured. -/
  color : Bytes := []
deriving DecidableEq, Repr

/-- What is wrong with a configuration. -/
inductive ConfigFault where
  | unknownColor (color : Bytes)
  | noSource
  | unknownSource (source : Bytes)
  | noPath
  | tableWithoutDatabase
deriving DecidableEq, Repr

/-- Why there is no configuration. -/
inductive ConfigError where
  | file (path : Bytes) (e : FileError)
  | document (path : Bytes) (e : Yaml.Failure)
  | invalid (path : Bytes) (e : ConfigFault)
deriving DecidableEq, Repr

/-- The text of a fault. -/
def ConfigFault.message : ConfigFault → Bytes
  | .unknownColor color =>
    utf8 "color: unknown mode " ++ Quoted.text color ++ utf8 " (want auto, always or never)"
  | .noSource => utf8 "params.source is required"
  | .unknownSource source =>
    utf8 "params.source: unknown source " ++ Quoted.text source ++ utf8 " (want yaml or sqlite)"
  | .noPath => utf8 "params.path is required"
  | .tableWithoutDatabase => utf8 "params.table is only valid with source sqlite"

/-- The text of a configuration error. -/
def ConfigError.message : ConfigError → Bytes
  | .file path e => utf8 "reading config " ++ path ++ utf8 ": " ++ e.message
  | .document path e => utf8 "parsing config " ++ path ++ utf8 ": " ++ e.message
  | .invalid path e => path ++ utf8 ": " ++ e.message

namespace Config

/-- A YAML text as parameter store. -/
def yaml : Bytes := utf8 "yaml"

/-- A database as parameter store. -/
def sqlite : Bytes := utf8 "sqlite"

/-- Colour on a terminal only. -/
def auto : Bytes := utf8 "auto"

/-- Colour in any case. -/
def always : Bytes := utf8 "always"

/-- No colour. -/
def never : Bytes := utf8 "never"

/-- The configuration with what is left out filled in. -/
def withDefaults (c : Config) : Config :=
  { c with
    color := if c.color = [] then auto else c.color
    table := if c.source = sqlite ∧ c.table = [] then Param.standardTable else c.table }

/-- The first rule that a configuration breaks. -/
def fault? (c : Config) : Option ConfigFault :=
  if c.color ≠ auto ∧ c.color ≠ always ∧ c.color ≠ never then some (.unknownColor c.color)
  else if c.source = [] then some .noSource
  else if c.source ≠ yaml ∧ c.source ≠ sqlite then some (.unknownSource c.source)
  else if c.path = [] then some .noPath
  else if c.table ≠ [] ∧ c.source ≠ sqlite then some .tableWithoutDatabase
  else none

/-- The configuration that a document stands for, filled up and checked. -/
def complete (c : Config) : Except ConfigFault Config :=
  match c.withDefaults.fault? with
  | none => .ok c.withDefaults
  | some e => .error e

open Yaml (Reading)
open Yaml.Reading (RecordField)

/-- The fields that say where the parameters are. -/
def storeFields : List (RecordField Config) :=
  [.of "source" (Reading.scalar Reading.text) fun v c => { c with source := v },
    .of "path" (Reading.scalar Reading.text) fun v c => { c with path := v },
    .of "table" (Reading.scalar Reading.text) fun v c => { c with table := v }]

/-- The fields of a configuration. -/
def fields (fuel : Nat) : List (RecordField Config) :=
  [{ key := utf8 "params"
     read := fun n c => do
      let read ← Reading.record fuel (utf8 "config.ParamsConfig") storeFields c n
      pure (read.getD c) },
    .of "color" (Reading.scalar Reading.text) fun v c => { c with color := v }]

/-- What a YAML text says, neither filled up nor checked. -/
def ofYaml (s : Bytes) : Except Yaml.Failure Config :=
  Yaml.read (fun fuel => Reading.record fuel (utf8 "config.Config") (fields fuel)) {} s

/-- The configuration in a YAML text; the path only stands in errors. -/
def parse (content path : Bytes) : Except ConfigError Config :=
  match ofYaml content with
  | .error e => .error (.document path e)
  | .ok c => c.complete.mapError (.invalid path)

/-- The configuration with the path of its store as seen from the working directory. -/
def locate (configPath : Bytes) (c : Config) : Config :=
  if c.path = [] ∨ Path.isAbsolute c.path then c
  else { c with path := Path.join (Path.dir configPath) c.path }

/-- The configuration in a file. -/
def load (fs : FileSystem) (path : Bytes) : Except ConfigError Config :=
  match fs.read path with
  | .error e => .error (.file path e)
  | .ok content => (parse content path).map (locate path)

end Config

end StackTypes
