/-
Documents as trees of nodes. An alias names the anchored node by its number, so a document may refer
to a node from inside it; whoever follows aliases has to watch for that. The aliases are numbered,
too, so that one can tell whether the same alias is met again.
-/
import StackTypes.Text.Bytes

namespace StackTypes.Yaml

/-- A node with its tag in short form and the line it starts in, counted from one. -/
inductive Node where
  | scalar (line : Nat) (tag text : Bytes)
  | sequence (line : Nat) (tag : Bytes) (items : List Node)
  | mapping (line : Nat) (tag : Bytes) (entries : List (Node × Node))
  | aliasOf (line : Nat) (name : Bytes) (anchor number : Nat)
deriving Repr

/-- A document: its root, and the anchored nodes by number. -/
structure Document where
  root : Node
  anchored : List (Nat × Node)
deriving Repr

namespace Tag

/-- Text. -/
def str : Bytes := utf8 "!!str"

/-- No value. -/
def null : Bytes := utf8 "!!null"

/-- A truth value. -/
def bool : Bytes := utf8 "!!bool"

/-- An integer. -/
def int : Bytes := utf8 "!!int"

/-- A floating-point number. -/
def float : Bytes := utf8 "!!float"

/-- A point in time. -/
def timestamp : Bytes := utf8 "!!timestamp"

/-- A list. -/
def seq : Bytes := utf8 "!!seq"

/-- A mapping. -/
def map : Bytes := utf8 "!!map"

/-- Bytes in base 64. -/
def binary : Bytes := utf8 "!!binary"

/-- The key of mappings to be merged. -/
def merge : Bytes := utf8 "!!merge"

/-- What the tags of the language itself start with in full. -/
def domain : Bytes := utf8 "tag:yaml.org,2002:"

/-- A tag in short form. -/
def shorten (tag : Bytes) : Bytes :=
  match Bytes.dropLead? domain tag with
  | some suffix => utf8 "!!" ++ suffix
  | none => tag

end Tag

namespace Node

/-- The line of a node. -/
def line : Node → Nat
  | .scalar line _ _ | .sequence line _ _ | .mapping line _ _ | .aliasOf line .. => line

/-- Is the node the key of mappings to be merged? -/
def isMerge : Node → Bool
  | .scalar _ tag text => text == utf8 "<<" && tag == Tag.merge
  | _ => false

/-- Do two keys count as the same, being of one kind and with one text? Lists and mappings have no
text. -/
def sameKey : Node → Node → Bool
  | .scalar _ _ s, .scalar _ _ t => s == t
  | .sequence .., .sequence .. => true
  | .mapping .., .mapping .. => true
  | .aliasOf _ a .., .aliasOf _ b .. => a == b
  | _, _ => false

/-- The tag of a node. -/
def tag : Node → Bytes
  | .scalar _ tag _ | .sequence _ tag _ | .mapping _ tag _ => tag
  | .aliasOf .. => []

/-- The text of a node: a scalar's own, the name of an alias. -/
def text : Node → Bytes
  | .scalar _ _ s => s
  | .aliasOf _ a .. => a
  | _ => []

mutual

/-- How many nodes a tree has. -/
def size : Node → Nat
  | .scalar .. | .aliasOf .. => 1
  | .sequence _ _ items => sizeAll items + 1
  | .mapping _ _ entries => sizeEntries entries + 1

/-- How many nodes a list of trees has. -/
def sizeAll : List Node → Nat
  | [] => 0
  | n :: ns => n.size + sizeAll ns

/-- How many nodes the entries of a mapping have. -/
def sizeEntries : List (Node × Node) → Nat
  | [] => 0
  | (k, v) :: es => k.size + v.size + sizeEntries es

end

end Node

end StackTypes.Yaml
