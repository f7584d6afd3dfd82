/-
Script expressions and their types. The type of a tuple is the joint type of its elements, and
asking for it registers that type in the shared interner, after those of the tuples inside it.
-/
import StackTypes.Interner

namespace StackTypes

/-- An expression. -/
inductive Expr where
  /-- An integer constant. -/
  | int (v : Int32)
  /-- A 64-bit constant. -/
  | long (v : Int64)
  /-- A text constant. -/
  | string (s : Bytes)
  /-- A truth value. -/
  | boolean (b : Bool)
  /-- A character, as its code. -/
  | char (v : Int32)
  /-- A constant of a handle type, where -1 stands for no value. -/
  | nullable (v : Int32)
  /-- A variable with its static type. -/
  | var (name : Bytes) (type : Ty)
  /-- A stack slot whose value is not resolved yet. -/
  | placeholder (type : Ty)
  /-- A packed coordinate. -/
  | location (e : Expr)
  /-- A packed interface and component. -/
  | widget (e : Expr)
  /-- A colour. -/
  | color (e : Expr)
  /-- A value read as another type with the same slots. -/
  | cast (target : Ty) (e : Expr)
  /-- Several values at once. -/
  | tuple (es : List Expr)
deriving Repr

namespace Expr

/-- Is it the constant that stands for no value? -/
def isNull : Expr → Bool
  | .nullable v => v == -1
  | _ => false

mutual

/-- The type of an expression, and the shared interner afterwards. -/
def type : Expr → Interner → Ty × Interner
  | .int _, it | .nullable _, it => (.atomic .int, it)
  | .long _, it => (.atomic .long, it)
  | .string _, it => (.atomic .string, it)
  | .boolean _, it => (.atomic .boolean, it)
  | .char _, it => (.atomic .char, it)
  | .var _ t, it | .placeholder t, it | .cast t _, it => (t, it)
  | .location _, it => (.atomic .location, it)
  | .widget _, it => (.atomic .widget, it)
  | .color _, it => (.atomic .color, it)
  | .tuple es, it =>
    let (members, it) := memberTypes es it
    it.of members

/-- The members of the types of the expressions, one after the other, and the shared interner
afterwards. -/
def memberTypes : List Expr → Interner → List Atomic × Interner
  | [], it => ([], it)
  | e :: es, it =>
    let (t, it) := e.type it
    let (members, it) := memberTypes es it
    (t.flatten ++ members, it)

end

/-- The joint type of several values. -/
def jointType (es : List Expr) (it : Interner) : Ty × Interner :=
  let (members, it) := memberTypes es it
  it.of members

/-- The joint type of several values, registered in `own`; the values' own types go through the
shared interner. The interners are given and returned in that order. -/
def jointTypeIn (es : List Expr) (own shared : Interner) : Ty × Interner × Interner :=
  let (members, shared) := memberTypes es shared
  let (t, own) := own.of members
  (t, own, shared)

end Expr

end StackTypes
