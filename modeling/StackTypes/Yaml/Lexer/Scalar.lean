/-
The text of scalars. Line breaks inside a plain or quoted scalar are folded: one break becomes a
blank, of several the first is dropped. In a literal block they are kept, in a folded block they are
folded between lines that do not start with a blank.
-/
import StackTypes.Yaml.Cursor
import StackTypes.Yaml.Malformed

namespace StackTypes.Yaml

/-- Blanks and line breaks that have been read and not yet been added to a scalar. -/
inductive Gap where
  | none
  /-- Blanks inside a line, the last one first. -/
  | blanks (cs : List Char)
  /-- Line breaks: the text of the first one, and of those after it. -/
  | breaks (first others : List Char)
deriving Repr

namespace Gap

/-- The text that a gap adds to a scalar. -/
def text : Gap → List Char
  | .none => []
  | .blanks cs => cs.reverse
  | .breaks first others =>
    if first.head? = some '\n' then if others.isEmpty then [' '] else others
    else first ++ others

/-- The gap after one more blank; blanks at the start of a line do not count. -/
def addBlank (c : Char) : Gap → Gap
  | .none => .blanks [c]
  | .blanks cs => .blanks (c :: cs)
  | .breaks first others => .breaks first others

/-- The gap after one more line break; blanks at the end of a line do not count. -/
def addBreak (t : List Char) : Gap → Gap
  | .breaks first others => .breaks first (others ++ t)
  | _ => .breaks t []

/-- Has a line ended? -/
def hasBreak : Gap → Bool
  | .breaks _ _ => true
  | _ => false

/-- Is there anything in it? -/
def isNone : Gap → Bool
  | .none => true
  | _ => false

end Gap

/-! ## Plain scalars -/

/-- Does a plain scalar end before the next character, whatever surrounds it? -/
def Cursor.endsPlain (c : Cursor) (inFlow : Bool) : Bool :=
  match c.peek with
  | none => true
  | some x =>
    (x == ':' && endsWord (c.peekAt 1))
      || (inFlow && (x == ',' || x == '[' || x == ']' || x == '\x7b' || x == '\x7d'
        || (x == '?' && (endsLine (c.peekAt 1) || c.peekAt 1 == some ' '))))

/-- A plain scalar as far as it has been read. -/
structure Plain where
  /-- The text so far, the last character first. -/
  text : List Char := []
  gap : Gap := .none
  cursor : Cursor
  /-- The line in which the text so far ends. -/
  lastLine : Nat

/-- The rest of a plain scalar whose lines are indented by `indent` at least. -/
def Plain.scan (inFlow : Bool) (indent : Int) : Nat → Plain → Except Malformed Plain
  | 0, p => .ok p
  | fuel + 1, p =>
    match p.cursor.peek with
    | none => .ok p
    | some x =>
      if isBlank x then
        if p.gap.hasBreak && p.cursor.column < indent && x == '\t' then .error .token
        else Plain.scan inFlow indent fuel
          { p with gap := p.gap.addBlank x, cursor := p.cursor.skip 1 }
      else if isBreak x then
        Plain.scan inFlow indent fuel
          { p with gap := p.gap.addBreak p.cursor.breakText, cursor := p.cursor.skipBreak }
      else if !p.gap.isNone && !inFlow && p.cursor.column < indent then .ok p
      else if p.cursor.atDocumentMarker || (!p.gap.isNone && x == '#')
          || p.cursor.endsPlain inFlow then .ok p
      else
        Plain.scan inFlow indent fuel
          { text := x :: (p.gap.text.reverse ++ p.text), gap := .none, cursor := p.cursor.skip 1,
            lastLine := p.cursor.line }

/-! ## Quoted scalars -/

/-- The value of a hexadecimal digit. -/
def hexDigit? (c : Char) : Option Nat :=
  if '0' ≤ c && c ≤ '9' then some (c.toNat - 48)
  else if 'a' ≤ c && c ≤ 'f' then some (c.toNat - 87)
  else if 'A' ≤ c && c ≤ 'F' then some (c.toNat - 55)
  else none

/-- The number written by hexadecimal digits. -/
def hexNumber? (cs : List Char) : Option Nat :=
  cs.foldl (fun acc c => acc.bind fun n => (hexDigit? c).map fun d => n * 16 + d) (some 0)

/-- What stands after a backslash: a character by its letter, or by so many hexadecimal digits. -/
inductive Escape where
  | char (c : Char)
  | digits (n : Nat)

/-- The meaning of the character after a backslash. -/
def Escape.of? : Char → Option Escape
  | '0' => some (.char '\x00')
  | 'a' => some (.char '\x07')
  | 'b' => some (.char '\x08')
  | 't' | '\t' => some (.char '\t')
  | 'n' => some (.char '\n')
  | 'v' => some (.char '\x0b')
  | 'f' => some (.char '\x0c')
  | 'r' => some (.char '\r')
  | 'e' => some (.char '\x1b')
  | ' ' => some (.char ' ')
  | '\x22' => some (.char '\x22')
  | '\x27' => some (.char '\x27')
  | '\\' => some (.char '\\')
  | 'N' => some (.char '\u0085')
  | '_' => some (.char '\u00a0')
  | 'L' => some (.char '\u2028')
  | 'P' => some (.char '\u2029')
  | 'x' => some (.digits 2)
  | 'u' => some (.digits 4)
  | 'U' => some (.digits 8)
  | _ => none

/-- The character of an escape sequence that starts at the backslash, and the place after it. -/
def Cursor.escape (c : Cursor) : Except Malformed (Char × Cursor) :=
  match (c.peekAt 1).bind Escape.of? with
  | none => .error .token
  | some (.char x) => .ok (x, c.skip 2)
  | some (.digits n) =>
    let ds := (c.rest.drop 2).take n
    match hexNumber? ds with
    | none => .error .token
    | some v =>
      if ds.length < n || (0xD800 ≤ v && v ≤ 0xDFFF) || 0x10FFFF < v then .error .token
      else .ok (Char.ofNat v, c.skip (2 + n))

/-- The text of a quoted scalar up to its closing quote, and the place after that. The text so far
is given with its last character first. -/
def scanQuoted (quote : Char) :
    Nat → List Char → Gap → Cursor → Except Malformed (List Char × Cursor)
  | 0, _, _, _ => .error .token
  | fuel + 1, text, gap, c =>
    match c.peek with
    | none => .error .token
    | some x =>
      if isBlank x then scanQuoted quote fuel text (gap.addBlank x) (c.skip 1)
      else if isBreak x then scanQuoted quote fuel text (gap.addBreak c.breakText) c.skipBreak
      else if c.atDocumentMarker then .error .token
      else
        let text := gap.text.reverse ++ text
        if x == quote then
          if quote == '\x27' && c.peekAt 1 == some '\x27' then
            scanQuoted quote fuel ('\x27' :: text) .none (c.skip 2)
          else .ok (text.reverse, c.skip 1)
        else if quote == '\x22' && x == '\\' then
          if (c.peekAt 1).any isBreak then
            scanQuoted quote fuel text (.breaks [] []) (c.skip 1).skipBreak
          else match c.escape with
            | .error e => .error e
            | .ok (y, c) => scanQuoted quote fuel (y :: text) .none c
        else scanQuoted quote fuel (x :: text) .none (c.skip 1)

/-! ## Block scalars -/

/-- What happens to the line breaks at the end of a block scalar. -/
inductive Chomping where
  | strip
  | clip
  | keep
deriving DecidableEq

/-- The chomping that a character asks for. -/
def Chomping.of? : Option Char → Option Chomping
  | some '+' => some .keep
  | some '-' => some .strip
  | _ => none

/-- A digit as an indentation. -/
def indentDigit? : Option Char → Option Nat
  | some c => if '0' ≤ c && c ≤ '9' then some (c.toNat - 48) else none
  | none => none

/-- The chomping and the indentation, zero if it is not given, that follow the mark of a block
scalar in either order, and the place after them. -/
def Cursor.blockHeader (c : Cursor) : Chomping × Option Nat × Cursor :=
  match Chomping.of? c.peek with
  | some chomping =>
    let c := c.skip 1
    match indentDigit? c.peek with
    | some n => (chomping, some n, c.skip 1)
    | none => (chomping, none, c)
  | none =>
    match indentDigit? c.peek with
    | none => (.clip, none, c)
    | some n =>
      let c := c.skip 1
      match Chomping.of? c.peek with
      | some chomping => (chomping, some n, c.skip 1)
      | none => (.clip, some n, c)

/-- Indentation and empty lines: the line breaks read, the place after them, and the widest
indentation met. An `indent` of zero is still to be found out. -/
def scanBlockBreaks (indent : Nat) :
    Nat → (widest : Nat) → (breaks : List Char) → Cursor →
      Except Malformed (List Char × Cursor × Nat)
  | 0, widest, breaks, c => .ok (breaks, c, widest)
  | fuel + 1, widest, breaks, c =>
    let spaces := (c.rest.takeWhile (· == ' ')).length
    let c := c.skip (if indent = 0 then spaces else min spaces (indent - c.column))
    let widest := max widest c.column
    match c.peek with
    | none => .ok (breaks, c, widest)
    | some x =>
      if x == '\t' && (indent == 0 || c.column < indent) then .error .token
      else if isBreak x then scanBlockBreaks indent fuel widest (breaks ++ c.breakText) c.skipBreak
      else .ok (breaks, c, widest)

/-- The lines of a block scalar: their text, the break that ended the last line and the breaks of
the empty lines after it, and the place after them. Before them stand the break `lead` and the breaks
`trail`, and `afterBlank` says whether the line before started with a blank. -/
def scanBlockLines (literal : Bool) (indent : Nat) : Nat → (lead trail : List Char) →
    (afterBlank : Bool) → Cursor → Except Malformed (List Char × List Char × List Char × Cursor)
  | 0, lead, trail, _, c => .ok ([], lead, trail, c)
  | fuel + 1, lead, trail, afterBlank, c =>
    if c.column ≠ indent || c.rest.isEmpty then .ok ([], lead, trail, c)
    else
      let blank := c.peek.any isBlank
      let joint :=
        if !literal && !afterBlank && !blank && lead.head? == some '\n' then
          if trail.isEmpty then [' '] else []
        else lead
      let (run, c) := c.takeWhile fun x => !isBreak x
      let lead := c.breakText
      let c := c.skipBreak
      match scanBlockBreaks indent fuel 0 [] c with
      | .error e => .error e
      | .ok (after, c, _) =>
        match scanBlockLines literal indent fuel lead after blank c with
        | .error e => .error e
        | .ok (more, lead, after, c) => .ok (joint ++ trail ++ run ++ more, lead, after, c)

/-- The text of a block scalar that starts at its mark inside a block indented by `outer`, and the
place after it. -/
def scanBlock (literal : Bool) (outer : Int) (fuel : Nat) (c : Cursor) :
    Except Malformed (List Char × Cursor) := do
  let (chomping, given, c) := (c.skip 1).blockHeader
  if given = some 0 then throw .token
  let c := c.skipWhile isBlank
  let c := if c.peek = some '#' then c.skipToBreak else c
  if !endsLine c.peek then throw .token
  let c := c.skipBreak
  let indent := match given with
    | some n => if 0 ≤ outer then outer.toNat + n else n
    | none => 0
  let (trail, c, widest) ← scanBlockBreaks indent fuel 0 [] c
  let indent := if indent = 0 then max (max widest (outer + 1).toNat) 1 else indent
  let (text, lead, trail, c) ← scanBlockLines literal indent fuel [] trail false c
  match chomping with
  | .strip => pure (text, c)
  | .clip => pure (text ++ lead, c)
  | .keep => pure (text ++ lead ++ trail, c)

end StackTypes.Yaml
