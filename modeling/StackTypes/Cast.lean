/-
Casts: what has to be done to an expression so that it has a required type. The rules are tried in
order and the first that applies decides. A cast never evaluates anything: it keeps the expression,
wraps it, or writes an integer constant as a constant of the required type.
-/
import StackTypes.Expr

namespace StackTypes

/-- Why an expression cannot be cast. -/
inductive CastError where
  /-- An unresolved value has no type of its own to start from. -/
  | placeholder (required : Ty)
  /-- The slots differ and no rule applies. -/
  | incompatible (source required : Ty)
deriving DecidableEq, Repr

/-- The text of a cast error. -/
def CastError.message : CastError → Bytes
  | .placeholder required => utf8 "can't cast placeholder value to " ++ required.toText
  | .incompatible source required =>
    utf8 "incompatible cast " ++ source.toText ++ utf8 " to " ++ required.toText

/-- What a cast does to an expression. -/
inductive Coercion where
  /-- The expression stays as it is. -/
  | keep
  /-- Another expression takes its place. -/
  | build (e : Expr)
deriving Repr

/-- The expression after the coercion of `e`. -/
def Coercion.apply (e : Expr) : Coercion → Expr
  | .keep => e
  | .build r => r

/-- Does the coercion leave the expression alone? -/
def Coercion.isKeep : Coercion → Bool
  | .keep => true
  | .build _ => false

namespace Expr

/-- The low sixteen bits of a constant. -/
def codeUnit (v : Int32) : Int32 :=
  Int32.ofInt (v.toInt % 65536)

/-- An integer constant as a truth value, where -1 stands for no value. -/
def booleanOfInt (v : Int32) : Expr :=
  if v = -1 then .nullable (-1) else .boolean (v != 0)

/-- A colour made of an expression; a component pointer gives its operand. -/
def colorOf : Expr → Expr
  | .widget e => .color e
  | e => .color e

/-- The rules that write an integer constant as a constant of another type. -/
def coerceLiteral? : Expr → Ty → Option Expr
  | .int v, .atomic .boolean => some (booleanOfInt v)
  | .int v, .atomic .char => some (.char (codeUnit v))
  | .int v, required =>
    if required.footprint = Atomic.int.footprint then some (.nullable v) else none
  | _, _ => none

/-- Is it an unresolved value? -/
def isPlaceholder : Expr → Bool
  | .placeholder _ => true
  | _ => false

/-- What makes an expression of type `source` one of the required type. -/
def coerce (e : Expr) (source required : Ty) : Except CastError Coercion :=
  if source.sameMembers required then .ok .keep
  else if e.isPlaceholder then .error (.placeholder required)
  else if required.isUnknown then .ok .keep
  else if required = .atomic .location then .ok (.build (.location e))
  else if required = .atomic .widget then .ok (.build (.widget e))
  else if required = .atomic .color then .ok (.build e.colorOf)
  else if (source = .atomic .boolean ∨ source = .atomic .color) ∧ required = .atomic .int then
    .ok .keep
  else match e.coerceLiteral? required with
    | some r => .ok (.build r)
    | none =>
      if required.compatible source then .ok (.build (.cast required e))
      else .error (.incompatible source required)

/-- The cast of an expression to a required type, and the shared interner afterwards. -/
def castTo (e : Expr) (required : Ty) (it : Interner) : Except CastError Coercion × Interner :=
  let (source, it) := e.type it
  (e.coerce source required, it)

end Expr

/-- Why the arguments of a call cannot be cast. -/
inductive CallError where
  | arity (expected given : Nat)
  | argument (index : Nat) (cause : CastError)
deriving DecidableEq, Repr

/-- The text of a call error. -/
def CallError.message : CallError → Bytes
  | .arity expected given =>
    utf8 "expected " ++ Numeral.ofNat expected ++ utf8 " arguments, got " ++ Numeral.ofNat given
  | .argument index cause => utf8 "argument " ++ Numeral.ofNat index ++ utf8 ": " ++ cause.message

/-- The casts of the arguments from position `index` on, up to the first that fails. -/
def castFrom (index : Nat) :
    List (Expr × Ty) → Interner → Except CallError (List (Expr × Coercion)) × Interner
  | [], it => (.ok [], it)
  | (e, required) :: rest, it =>
    match e.castTo required it with
    | (.error cause, it) => (.error (.argument index cause), it)
    | (.ok c, it) =>
      match castFrom (index + 1) rest it with
      | (.error err, it) => (.error err, it)
      | (.ok cs, it) => (.ok ((e, c) :: cs), it)

/-- Every argument cast to the type at its position: all of them, or the first error. -/
def castAll (args : List Expr) (types : List Ty) (it : Interner) :
    Except CallError (List (Expr × Coercion)) × Interner :=
  if args.length ≠ types.length then (.error (.arity types.length args.length), it)
  else castFrom 0 (args.zip types) it

end StackTypes
