/-
Which texts are points in time: a date `YYYY-M-D`, alone, with a time of day after a `T` and a zone,
or with a time of day after blanks and no zone. The day has to exist.
-/
import StackTypes.Text.Integer

namespace StackTypes.Yaml.Timestamp

/-- The value of a digit. -/
def digit (c : UInt8) : Nat :=
  c.toNat - 0x30

/-- A number of one or two digits at the start of a text, and the rest. -/
def short? : Bytes → Option (Nat × Bytes)
  | a :: b :: s =>
    if !Integer.isDecimal a then none
    else if Integer.isDecimal b then some (digit a * 10 + digit b, s)
    else some (digit a, b :: s)
  | [a] => if Integer.isDecimal a then some (digit a, []) else none
  | [] => none

/-- The rest of a text after the given byte. -/
def after? (c : UInt8) : Bytes → Option Bytes
  | b :: s => if b = c then some s else none
  | [] => none

/-- The days of a month. -/
def daysIn (year month : Nat) : Nat :=
  if month = 2 then
    if year % 4 = 0 ∧ (year % 100 ≠ 0 ∨ year % 400 = 0) then 29 else 28
  else if month = 4 ∨ month = 6 ∨ month = 9 ∨ month = 11 then 30
  else 31

/-- What follows a date that exists. -/
def date? : Bytes → Option Bytes
  | a :: b :: c :: d :: s => do
    if !([a, b, c, d].all Integer.isDecimal) then none
    let year := ((digit a * 10 + digit b) * 10 + digit c) * 10 + digit d
    let (month, s) ← short? (← after? 0x2D s)
    let (day, s) ← short? (← after? 0x2D s)
    if month < 1 ∨ 12 < month ∨ day < 1 ∨ daysIn year month < day then none
    some s
  | _ => none

/-- What follows a fraction of a second, if there is one. -/
def dropFraction (s : Bytes) : Bytes :=
  match s with
  | p :: d :: _ =>
    if (p = 0x2E ∨ p = 0x2C) ∧ Integer.isDecimal d then (s.drop 1).dropWhile Integer.isDecimal
    else s
  | _ => s

/-- What follows a time of day. -/
def clock? (s : Bytes) : Option Bytes := do
  let (hour, s) ← short? s
  let (minute, s) ← short? (← after? 0x3A s)
  let (second, s) ← short? (← after? 0x3A s)
  if 24 ≤ hour ∨ 60 ≤ minute ∨ 60 ≤ second then none
  some (dropFraction s)

/-- Is it a time zone: `Z`, or a sign with hours and minutes of two digits each? -/
def isZone : Bytes → Bool
  | [0x5A] => true
  | [sign, h₁, h₂, 0x3A, m₁, m₂] =>
    (sign == 0x2B || sign == 0x2D) && [h₁, h₂, m₁, m₂].all Integer.isDecimal
      && digit h₁ * 10 + digit h₂ ≤ 24 && digit m₁ * 10 + digit m₂ ≤ 60
  | _ => false

/-- Is the text a point in time? -/
def isTimestamp (s : Bytes) : Bool :=
  match date? s with
  | none => false
  | some [] => true
  | some (c :: s) =>
    if c = 0x54 ∨ c = 0x74 then (clock? s).any isZone
    else if c = 0x20 then clock? (s.dropWhile (· == 0x20)) == some []
    else false

end StackTypes.Yaml.Timestamp
