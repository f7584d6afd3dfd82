/-
Expressions as script text. A packed coordinate, component or colour that is a known constant is
written out in its parts: a coordinate has 14 bits for each axis below its level, a component 16 bits
below its interface, and a colour is six hexadecimal digits at least.
-/
import StackTypes.Expr
import StackTypes.Text.Quoted

namespace StackTypes.Expr

/-- The value of a constant that is not negative. -/
def packed? : Expr → Option Nat
  | .int v => if 0 ≤ v then some v.toInt.toNat else none
  | _ => none

/-- A name applied to arguments. -/
def call (name : Bytes) (args : List Bytes) : Bytes :=
  name ++ utf8 "(" ++ Bytes.joinWith (utf8 ", ") args ++ utf8 ")"

/-- How many coordinates there are on an axis: 14 bits. -/
def axisSize : Nat := 16384

/-- How many components there are in an interface: 16 bits. -/
def interfaceSize : Nat := 65536

/-- A packed coordinate in its parts. -/
def locationText (n : Nat) : Bytes :=
  call (utf8 "location")
    [Numeral.ofNat (n / (axisSize * axisSize)), Numeral.ofNat (n / axisSize % axisSize),
      Numeral.ofNat (n % axisSize)]

/-- A packed component in its parts. -/
def widgetText (n : Nat) : Bytes :=
  call (utf8 "widget") [Numeral.ofNat (n / interfaceSize), Numeral.ofNat (n % interfaceSize)]

/-- A colour in hexadecimal. -/
def colorText (n : Nat) : Bytes :=
  utf8 "0x" ++ Numeral.hex Numeral.upper 6 n

mutual

/-- The text of an expression. -/
def print : Expr → Bytes
  | .int v => Numeral.ofInt v.toInt
  | .long v => Numeral.ofInt v.toInt ++ utf8 "L"
  | .string s => Quoted.text s
  | .boolean b => if b then utf8 "true" else utf8 "false"
  | .char v => Quoted.codePoint v
  | .nullable v => if v = -1 then utf8 "null" else Numeral.ofInt v.toInt
  | .var name _ => name
  | .placeholder t => utf8 "<" ++ t.toText ++ utf8 "?>"
  | .location e =>
    match e.packed? with
    | some n => locationText n
    | none => call (utf8 "location") [e.print]
  | .widget e =>
    match e.packed? with
    | some n => widgetText n
    | none => call (utf8 "widget") [e.print]
  | .color e =>
    match e.packed? with
    | some n => colorText n
    | none => call (utf8 "color") [e.print]
  | .cast t e => utf8 "(" ++ t.toText ++ utf8 ") " ++ e.print
  | .tuple es => call [] (printAll es)

/-- The texts of several expressions. -/
def printAll : List Expr → List Bytes
  | [] => []
  | e :: es => e.print :: printAll es

end

end StackTypes.Expr
