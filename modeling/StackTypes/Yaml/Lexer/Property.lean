/-
Anchors, aliases, tags and directives. Where a scan needs fuel, more than the characters of the text
are enough.
-/
import StackTypes.Yaml.Lexer.Scalar
import StackTypes.Yaml.Token

namespace StackTypes.Yaml

/-- A letter, digit, underscore or hyphen. -/
def isNameChar (c : Char) : Bool :=
  ('0' ≤ c && c ≤ '9') || ('A' ≤ c && c ≤ 'Z') || ('a' ≤ c && c ≤ 'z') || c == '_' || c == '-'

/-- A decimal digit. -/
def isDigit (c : Char) : Bool :=
  '0' ≤ c && c ≤ '9'

/-- The name of an anchor or alias whose mark is here, and the place after it. -/
def scanAnchor (c : Cursor) : Except Malformed (List Char × Cursor) :=
  let (name, c) := (c.skip 1).takeWhile isNameChar
  let ended := match c.peek with
    | none => true
    | some x => endsWord (some x) || "?:,]\x7d%@\x60".toList.contains x
  if name.isEmpty || !ended then .error .token else .ok (name, c)

/-! ## Tags -/

/-- A character of a tag. -/
def isTagChar (c : Char) : Bool :=
  isNameChar c || ";/?:@&=+$,.!~*\x27()[]%".toList.contains c

/-- The bytes given by two hexadecimal digits after a percent sign, as many as follow each other. -/
def scanPercents : Nat → Cursor → Except Malformed (List UInt8 × Cursor)
  | 0, c => .ok ([], c)
  | fuel + 1, c =>
    if c.peek ≠ some '%' then .ok ([], c)
    else match (c.peekAt 1).bind hexDigit?, (c.peekAt 2).bind hexDigit? with
      | some hi, some lo =>
        match scanPercents fuel (c.skip 3) with
        | .error e => .error e
        | .ok (bs, c) => .ok ((hi * 16 + lo).toUInt8 :: bs, c)
      | _, _ => .error .token

/-- The characters of UTF-8 bytes, if they are valid. -/
def decodePercents? (bs : List UInt8) : Option (List Char) :=
  (String.fromUTF8? (ByteArray.mk bs.toArray)).map String.toList

/-- The characters of a tag from here on, and the place after them. -/
def scanTagText : Nat → Cursor → Except Malformed (List Char × Cursor)
  | 0, c => .ok ([], c)
  | fuel + 1, c =>
    match c.peek with
    | none => .ok ([], c)
    | some x =>
      if !isTagChar x then .ok ([], c)
      else if x == '%' then
        match scanPercents fuel c with
        | .error e => .error e
        | .ok (bs, c) =>
          match decodePercents? bs with
          | none => .error .token
          | some cs =>
            match scanTagText fuel c with
            | .error e => .error e
            | .ok (more, c) => .ok (cs ++ more, c)
      else match scanTagText fuel (c.skip 1) with
        | .error e => .error e
        | .ok (more, c) => .ok (x :: more, c)

/-- A tag handle: an exclamation mark, name characters, and perhaps a second exclamation mark. -/
def scanHandle (c : Cursor) : List Char × Cursor :=
  let (name, c) := (c.skip 1).takeWhile isNameChar
  if c.peek = some '!' then ('!' :: name ++ ['!'], c.skip 1) else ('!' :: name, c)

/-- The handle and the suffix of a tag that is here, and the place after it. A tag without a handle
is taken as it is written. -/
def scanTag (fuel : Nat) (c : Cursor) : Except Malformed (List Char × List Char × Cursor) := do
  let (handle, suffix, c) ←
    if c.peekAt 1 = some '<' then do
      let c := c.skip 2
      let (text, c) ← scanTagText fuel c
      if text.isEmpty || c.peek ≠ some '>' then throw .token
      pure ([], text, c.skip 1)
    else do
      let (handle, c) := scanHandle c
      let (text, c) ← scanTagText fuel c
      if 1 < handle.length && handle.getLast? == some '!' then
        if text.isEmpty then throw .token
        pure (handle, text, c)
      else
        let suffix := handle.drop 1 ++ text
        if suffix.isEmpty then pure ([], ['!'], c) else pure (['!'], suffix, c)
  if !endsWord c.peek then throw .token
  pure (handle, suffix, c)

/-! ## Directives -/

/-- A version number of at most nine digits. -/
def scanVersionNumber (c : Cursor) : Except Malformed (Nat × Cursor) :=
  let (ds, c) := c.takeWhile isDigit
  if ds.isEmpty || 9 < ds.length then .error .token
  else .ok (ds.foldl (fun n d => n * 10 + (d.toNat - 48)) 0, c)

/-- The version that a directive asks for. -/
def scanVersion (c : Cursor) : Except Malformed (TokenKind × Cursor) := do
  let (major, c) ← scanVersionNumber (c.skipWhile isBlank)
  if c.peek ≠ some '.' then throw .token
  let (minor, c) ← scanVersionNumber (c.skip 1)
  pure (.version major minor, c)

/-- The tag handle that a directive declares, and what it stands for. -/
def scanTagHandle (fuel : Nat) (c : Cursor) : Except Malformed (TokenKind × Cursor) := do
  let c := c.skipWhile isBlank
  if c.peek ≠ some '!' then throw .token
  let (handle, c) := scanHandle c
  if handle ≠ ['!'] && handle.getLast? ≠ some '!' then throw .token
  if !c.peek.any isBlank then throw .token
  let c := c.skipWhile isBlank
  let (meaning, c) ← scanTagText fuel c
  if meaning.isEmpty || !endsWord c.peek then throw .token
  pure (.tagHandle handle meaning, c)

/-- The directive whose mark is here, and the place after its line. -/
def scanDirective (fuel : Nat) (c : Cursor) : Except Malformed (TokenKind × Cursor) := do
  let (name, c) := (c.skip 1).takeWhile isNameChar
  if name.isEmpty || !endsWord c.peek then throw .token
  let (kind, c) ←
    if name = "YAML".toList then scanVersion c
    else if name = "TAG".toList then scanTagHandle fuel c
    else throw .token
  let c := c.skipWhile isBlank
  let c := if c.peek = some '#' then c.skipToBreak else c
  if !endsLine c.peek then throw .token
  pure (kind, c.skipBreak)

end StackTypes.Yaml
