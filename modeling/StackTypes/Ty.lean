/-
Types of script values: an atomic type, or a composite of two or more that an interner has
registered. A composite knows the interner that holds it and its place there, so being the same
registered composite (`identical`) and having the same members (`sameMembers`) are two questions.
-/
import StackTypes.Atomic

namespace StackTypes

/-- The interner that everything shares, or one of the private ones. -/
inductive Home where
  | shared
  | own (n : Nat)
deriving DecidableEq, Repr

/-- A registered composite: the interner that holds it, its place there, and its members. -/
structure Composite where
  home : Home
  index : Nat
  members : List Atomic
deriving DecidableEq, Repr

/-- A type of script values. -/
inductive Ty where
  | atomic (a : Atomic)
  | composite (c : Composite)
deriving DecidableEq, Repr

/-- The names of the members with a comma and a blank between them. -/
def memberText (members : List Atomic) : Bytes :=
  Bytes.joinWith (utf8 ", ") (members.map Atomic.name)

namespace Ty

/-- The atomic members in stack order; an atomic type is its own member. -/
def flatten : Ty → List Atomic
  | .atomic a => [a]
  | .composite c => c.members

/-- Is it a composite? -/
def isComposite : Ty → Bool
  | .atomic _ => false
  | .composite _ => true

/-- The sum of the members' slots. -/
def footprint : Ty → Footprint
  | .atomic a => a.footprint
  | .composite c => Footprint.sum (c.members.map Atomic.footprint)

/-- A type as it is displayed. -/
def toText : Ty → Bytes
  | .atomic a => a.name
  | .composite c => memberText c.members

/-- Are both the same atomic type, or composites with the same members in the same order? -/
def sameMembers : Ty → Ty → Bool
  | .atomic a, .atomic b => a == b
  | .composite c, .composite d => c.members == d.members
  | _, _ => false

/-- Are both the same atomic type, or one and the same registered composite? -/
def identical : Ty → Ty → Bool
  | .atomic a, .atomic b => a == b
  | .composite c, .composite d => c.home == d.home && c.index == d.index
  | _, _ => false

/-- The atomic type whose values may be anything. -/
def isUnknown (t : Ty) : Bool :=
  t == .atomic .unknown

/-- Do both occupy the same slots? The unknown type goes with every type. -/
def compatible (t u : Ty) : Bool :=
  t.isUnknown || u.isUnknown || t.footprint == u.footprint

end Ty

end StackTypes
