/-
Why a document that can be read does not fit the place it is meant for. All misfits of a document
are collected, each with the line where it shows.
-/
import StackTypes.Text.Numeral
import StackTypes.Text.Quoted
import StackTypes.Yaml.Malformed
import StackTypes.Yaml.Node

namespace StackTypes.Yaml

/-- A part of a document that does not fit. -/
inductive Misfit where
  /-- A value of another type than the one wanted. -/
  | type (line : Nat) (tag text wanted : Bytes)
  /-- Two keys of one mapping are the same. -/
  | repeatedKey (line : Nat) (key : Bytes) (firstLine : Nat)
  /-- Two keys of one mapping name the same field. -/
  | repeatedField (line : Nat) (field record : Bytes)
deriving DecidableEq, Repr

namespace Misfit

/-- A value as misfits show it after its tag: between backticks, a long one cut. Lists and mappings
show none. -/
def shown (tag text : Bytes) : Bytes :=
  if tag = Tag.seq ∨ tag = Tag.map then text
  else if 10 < text.length then utf8 " \x60" ++ text.take 7 ++ utf8 "...\x60"
  else utf8 " \x60" ++ text ++ utf8 "\x60"

/-- The text of a misfit. -/
def message : Misfit → Bytes
  | .type line tag text wanted =>
    utf8 "line " ++ Numeral.ofNat line ++ utf8 ": cannot unmarshal " ++ tag ++ shown tag text
      ++ utf8 " into " ++ wanted
  | .repeatedKey line key firstLine =>
    utf8 "line " ++ Numeral.ofNat line ++ utf8 ": mapping key " ++ Quoted.text key
      ++ utf8 " already defined at line " ++ Numeral.ofNat firstLine
  | .repeatedField line field record =>
    utf8 "line " ++ Numeral.ofNat line ++ utf8 ": field " ++ field
      ++ utf8 " already set in type " ++ record

end Misfit

/-- Why a text does not give a value. -/
inductive Failure where
  | malformed (cause : Malformed)
  | misfits (list : List Misfit)
deriving DecidableEq, Repr

/-- The text of a failure. -/
def Failure.message : Failure → Bytes
  | .malformed _ => utf8 "yaml: malformed document"
  | .misfits list =>
    utf8 "yaml: unmarshal errors:" ++ (list.map fun m => utf8 "\n  " ++ m.message).flatten

end StackTypes.Yaml
