/-
What scalars mean. A plain scalar is nothing, a truth value, a number, a point in time or a text by
the way it is written; a tag asks for one meaning, and a scalar that does not have it is an error.
-/
import StackTypes.Number.Binary64
import StackTypes.Text.Base64
import StackTypes.Yaml.Malformed
import StackTypes.Yaml.Node
import StackTypes.Yaml.Timestamp

namespace StackTypes.Yaml

/-- The meaning of a scalar. -/
inductive Value where
  | null
  | bool (b : Bool)
  | int (n : Int)
  | float (x : Binary64)
  | timestamp
  | text (s : Bytes)
deriving Repr

/-- The words with a meaning of their own. -/
def words : List (Bytes × Bytes × Value) :=
  [(utf8 "true", Tag.bool, .bool true), (utf8 "True", Tag.bool, .bool true),
    (utf8 "TRUE", Tag.bool, .bool true), (utf8 "false", Tag.bool, .bool false),
    (utf8 "False", Tag.bool, .bool false), (utf8 "FALSE", Tag.bool, .bool false),
    ([], Tag.null, .null), (utf8 "~", Tag.null, .null), (utf8 "null", Tag.null, .null),
    (utf8 "Null", Tag.null, .null), (utf8 "NULL", Tag.null, .null),
    (utf8 ".nan", Tag.float, .float .nan), (utf8 ".NaN", Tag.float, .float .nan),
    (utf8 ".NAN", Tag.float, .float .nan),
    (utf8 ".inf", Tag.float, .float (.infinite false)),
    (utf8 ".Inf", Tag.float, .float (.infinite false)),
    (utf8 ".INF", Tag.float, .float (.infinite false)),
    (utf8 "+.inf", Tag.float, .float (.infinite false)),
    (utf8 "+.Inf", Tag.float, .float (.infinite false)),
    (utf8 "+.INF", Tag.float, .float (.infinite false)),
    (utf8 "-.inf", Tag.float, .float (.infinite true)),
    (utf8 "-.Inf", Tag.float, .float (.infinite true)),
    (utf8 "-.INF", Tag.float, .float (.infinite true))]

/-- The integer that follows a base mark, which may have a sign of its own. -/
def intAfter? (mark : String) (base : Nat) (s : Bytes) : Option Int :=
  match Bytes.dropLead? (utf8 mark) s with
  | some ds =>
    match Integer.readInt base ds with
    | .ok n => some n.toInt
    | .error _ => (Integer.readNat base ds).toOption.map fun n => (n : Int)
  | none =>
    match Bytes.dropLead? (utf8 "-" ++ utf8 mark) s with
    | some ds => (Integer.readInt base (utf8 "-" ++ ds)).toOption.map Int64.toInt
    | none => none

/-- The integer or floating-point number that a text without underscores writes. -/
def number? (s : Bytes) : Option (Bytes × Value) :=
  match Integer.readPrefixedInt s, Integer.readPrefixedNat s with
  | .ok n, _ => some (Tag.int, .int n.toInt)
  | .error _, .ok n => some (Tag.int, .int n)
  | .error _, .error _ =>
    match Binary64.ofText? s with
    | some x => some (Tag.float, .float x)
    | none =>
      ((intAfter? "0b" 2 s).orElse fun _ => intAfter? "0o" 8 s).map fun n => (Tag.int, .int n)

/-- The meaning of a plain scalar and its tag; points in time are looked for only if `timed`. -/
def plainValue (timed : Bool) (s : Bytes) : Bytes × Value :=
  match words.find? fun w => w.1 == s with
  | some (_, meaning) => meaning
  | none =>
    let asText := (Tag.str, .text s)
    match s with
    | [] => asText
    | c :: _ =>
      if c = 0x2E then
        let digits := s.filter (· != 0x5F)
        if s.contains 0x5F && !Integer.underscoresApart Integer.isDecimal false s then asText
        else match Binary64.ofText? digits with
          | some x => (Tag.float, .float x)
          | none => asText
      else if Integer.isDecimal c || c == 0x2B || c == 0x2D then
        if timed && Timestamp.isTimestamp s then (Tag.timestamp, .timestamp)
        else (number? (s.filter (· != 0x5F))).getD asText
      else asText

/-- Does the tag ask for a meaning that the way a scalar is written has to have? -/
def asksMeaning (tag : Bytes) : Bool :=
  [Tag.bool, Tag.int, Tag.float, Tag.null, Tag.timestamp].contains tag

/-- The meaning of a scalar with a tag. A tag that asks for no meaning makes it a text, and an
integer does for a floating-point number. -/
def scalarValue (tag s : Bytes) : Except Malformed Value :=
  if tag = Tag.binary then
    match Base64.decode? s with
    | some bs => .ok (.text bs)
    | none => .error .tag
  else if !asksMeaning tag then .ok (.text s)
  else
    let (natural, v) := plainValue (tag == Tag.timestamp) s
    if natural = tag then .ok v
    else match v with
      | .int n =>
        if tag = Tag.float ∧ (Int64.ofInt n).toInt = n then
          match Binary64.ofInt? n with
          | some x => .ok (.float x)
          | none => .error .tag
        else .error .tag
      | _ => .error .tag

end StackTypes.Yaml
