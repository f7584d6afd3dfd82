/-
A place in a YAML text: the characters that follow, and where the place is.
-/

namespace StackTypes.Yaml

/-- The rest of a text, and how many characters, lines and columns go before it. -/
structure Cursor where
  rest : List Char
  index : Nat := 0
  line : Nat := 0
  column : Nat := 0
deriving Repr

/-- A blank inside a line. -/
def isBlank (c : Char) : Bool :=
  c == ' ' || c == '\t'

/-- A line break. -/
def isBreak (c : Char) : Bool :=
  c == '\n' || c == '\r' || c == '\u0085' || c == '\u2028' || c == '\u2029'

/-- Is it a blank, a line break or the end of the text? -/
def endsWord : Option Char → Bool
  | none => true
  | some c => isBlank c || isBreak c

/-- Is it a line break or the end of the text? -/
def endsLine : Option Char → Bool
  | none => true
  | some c => isBreak c

namespace Cursor

/-- The next character. -/
def peek (c : Cursor) : Option Char :=
  c.rest.head?

/-- The character `n` places on. -/
def peekAt (c : Cursor) (n : Nat) : Option Char :=
  c.rest[n]?

/-- The place after the next `n` characters, which hold no line break. -/
def skip (c : Cursor) (n : Nat) : Cursor :=
  let taken := (c.rest.take n).length
  { c with rest := c.rest.drop n, index := c.index + taken, column := c.column + taken }

/-- The place after a line break; a carriage return and a line feed are one. -/
def skipBreak (c : Cursor) : Cursor :=
  match c.rest with
  | '\r' :: '\n' :: rest => { rest := rest, index := c.index + 2, line := c.line + 1, column := 0 }
  | _ :: rest => { rest := rest, index := c.index + 1, line := c.line + 1, column := 0 }
  | [] => c

/-- The text that a line break adds to a scalar: a line feed, or one of the two Unicode
separators as it is. -/
def breakText (c : Cursor) : List Char :=
  match c.rest with
  | '\u2028' :: _ => ['\u2028']
  | '\u2029' :: _ => ['\u2029']
  | _ :: _ => ['\n']
  | [] => []

/-- The characters up to the first that fails `p`, and the place after them. They hold no line
break. -/
def takeWhile (c : Cursor) (p : Char → Bool) : List Char × Cursor :=
  let run := c.rest.takeWhile p
  (run, c.skip run.length)

/-- The place after the characters up to the first that fails `p`. -/
def skipWhile (c : Cursor) (p : Char → Bool) : Cursor :=
  (c.takeWhile p).2

/-- The place at the end of the line. -/
def skipToBreak (c : Cursor) : Cursor :=
  c.skipWhile fun x => !isBreak x

/-- Does a line start here with the mark repeated three times and nothing else after it? -/
def atMarker (c : Cursor) (m : Char) : Bool :=
  c.column == 0 && c.rest.take 3 == [m, m, m] && endsWord (c.peekAt 3)

/-- Does a document start or end here? -/
def atDocumentMarker (c : Cursor) : Bool :=
  c.atMarker '-' || c.atMarker '.'

end Cursor

end StackTypes.Yaml
