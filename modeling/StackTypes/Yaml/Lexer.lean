/-
The lexer: tokens in order, made as they are asked for. Indentation turns into block start and block
end tokens, and a key that is only recognised by the colon after it gets its key token put in front
of it then; so a token that may still turn out to be a key is not handed out before that is settled.
Two tokens beyond the one asked for are always made as well.
-/
import StackTypes.Yaml.Lexer.Property
import StackTypes.Yaml.Source

namespace StackTypes.Yaml

/-- A token that may turn out to be a key. -/
structure KeyCandidate where
  /-- Nothing else can stand here. -/
  required : Bool
  /-- The number of the token, counted from the start of the text. -/
  number : Nat
  index : Nat
  line : Nat
  column : Nat
deriving Repr

/-- The state of the lexer. -/
structure Lexer where
  cursor : Cursor
  /-- Unusable bytes follow the text. -/
  cut : Bool
  /-- More than the characters of the text: enough steps for every scan. -/
  bound : Nat
  /-- May a key start here? -/
  keyAllowed : Bool := true
  /-- The indentation of the innermost block, and of those around it. -/
  indent : Int := -1
  outer : List Int := []
  /-- The candidates inside the brackets that are open, and the one outside of them. -/
  inner : List (Option KeyCandidate) := []
  candidate : Option KeyCandidate := none
  /-- Tokens made and not yet taken. -/
  queue : List Token
  /-- How many tokens have been taken. -/
  taken : Nat := 0

namespace Lexer

/-- The lexer before a text. -/
def start (s : Source) : Lexer :=
  { cursor := { rest := s.chars }, cut := s.cut, bound := s.chars.length + 8
    queue := [⟨.streamStart, 0⟩] }

/-- Are brackets open? -/
def inFlow (l : Lexer) : Bool :=
  !l.inner.isEmpty

/-- One more token at the end. -/
def push (l : Lexer) (kind : TokenKind) (line : Nat) : Lexer :=
  { l with queue := l.queue ++ [⟨kind, line⟩] }

/-- A token put in front of the one with the given number. -/
def insertAt (l : Lexer) (number : Nat) (kind : TokenKind) (line : Nat) : Lexer :=
  let place := number - l.taken
  { l with queue := l.queue.take place ++ ⟨kind, line⟩ :: l.queue.drop place }

/-! ## Key candidates -/

/-- The candidate of the innermost brackets. -/
def innermost (l : Lexer) : Option KeyCandidate :=
  match l.inner with
  | k :: _ => k
  | [] => l.candidate

/-- The candidate of the innermost brackets replaced. -/
def setInnermost (l : Lexer) (k : Option KeyCandidate) : Lexer :=
  match l.inner with
  | _ :: ks => { l with inner := k :: ks }
  | [] => { l with candidate := k }

/-- The candidate given up; one that is required cannot be. -/
def dropCandidate (l : Lexer) : Except Malformed Lexer :=
  match l.innermost with
  | none => .ok l
  | some k => if k.required then .error .token else .ok (l.setInnermost none)

/-- The token to come noted as a candidate, if a key may start here. -/
def noteCandidate (l : Lexer) : Except Malformed Lexer :=
  if !l.keyAllowed then .ok l
  else do
    let required := !l.inFlow && l.indent == l.cursor.column
    let k : KeyCandidate :=
      { required := required, number := l.taken + l.queue.length, index := l.cursor.index,
        line := l.cursor.line, column := l.cursor.column }
    let l ← l.dropCandidate
    pure (l.setInnermost (some k))

/-- Can the candidate still be a key? A key is one line and at most 1024 characters long. -/
def isFresh (l : Lexer) (k : KeyCandidate) : Bool :=
  l.cursor.line ≤ k.line && l.cursor.index ≤ k.index + 1024

/-- The most blocks and brackets inside each other. -/
def maxDepth : Nat := 10000

/-! ## Indentation -/

/-- A block opened at a column, if it is further in than the block around it. The token that opens
it goes in front of the token with the given number, or to the end. -/
def openBlock (l : Lexer) (column : Nat) (number : Option Nat) (kind : TokenKind) (line : Nat) :
    Except Malformed Lexer :=
  if l.inFlow || (column : Int) ≤ l.indent then .ok l
  else if maxDepth ≤ l.outer.length then .error .token
  else
    let l := { l with indent := column, outer := l.indent :: l.outer }
    match number with
    | some n => .ok (l.insertAt n kind line)
    | none => .ok (l.push kind line)

/-- The indentations left, and how many blocks have been closed, once all blocks further in than
`column` are closed. -/
def closedBlocks (column : Int) : Int → List Int → Int × List Int × Nat
  | indent, [] => (indent, [], 0)
  | indent, o :: os =>
    if column < indent then
      let (i, rest, n) := closedBlocks column o os
      (i, rest, n + 1)
    else (indent, o :: os, 0)

/-- All blocks closed that are further in than `column`. -/
def closeBlocks (l : Lexer) (column : Int) : Lexer :=
  if l.inFlow then l
  else
    let (indent, outer, n) := closedBlocks column l.indent l.outer
    { l with indent := indent, outer := outer,
             queue := l.queue ++ List.replicate n ⟨.blockEnd, l.cursor.line⟩ }

/-! ## Blanks and comments -/

/-- The longest stretch of blanks that is searched for a comment. -/
def commentReach : Nat := 512

/-- The place `n` characters on, line breaks among them. -/
def skipAcross : Nat → Cursor → Cursor
  | 0, c => c
  | n + 1, c =>
    match c.rest with
    | '\r' :: '\n' :: _ => skipAcross n { c with rest := c.rest.drop 1, index := c.index + 1 }
    | x :: _ => skipAcross n (if isBreak x then c.skipBreak else c.skip 1)
    | [] => c

/-- The place after a comment, and after the comments that follow it with nothing but blanks and
line breaks between. -/
def skipComments : Nat → Cursor → Cursor
  | 0, c => c
  | fuel + 1, c =>
    let c := c.skipToBreak
    let gap := (c.rest.takeWhile fun x => x == ' ' || x == '\t' || x == '\n' || x == '\r').length
    if gap < commentReach && c.peekAt gap == some '#' then skipComments fuel (skipAcross gap c)
    else c

/-- The place of the next token, and whether a key may start there. A tab may stand where no key
can start, a byte order mark at the start of a line. -/
def skipToToken (inFlow : Bool) : Nat → Bool → Cursor → Bool × Cursor
  | 0, allowed, c => (allowed, c)
  | fuel + 1, allowed, c =>
    let c := if c.column = 0 && c.peek = some '\ufeff' then c.skip 1 else c
    let c := c.skipWhile fun x => x == ' ' || ((inFlow || !allowed) && x == '\t')
    let c := if c.peek = some '#' then skipComments fuel c else c
    if c.peek.any isBreak then skipToToken inFlow fuel (allowed || !inFlow) c.skipBreak
    else (allowed, c)

/-- The place after a comment in the rest of the line, if there is one. -/
def skipLineComment (c : Cursor) : Cursor :=
  let blanks := (c.rest.takeWhile isBlank).length
  if blanks < commentReach && c.peekAt blanks == some '#' then c.skipToBreak else c

/-! ## Tokens -/

/-- A mark of `width` characters as a token. -/
def mark (l : Lexer) (kind : TokenKind) (width : Nat) : Lexer :=
  { l.push kind l.cursor.line with cursor := l.cursor.skip width }

/-- The end of the text. -/
def fetchEnd (l : Lexer) : Except Malformed Lexer := do
  let c := l.cursor
  let c := if c.column = 0 then c else { c with column := 0, line := c.line + 1 }
  let l := { l with cursor := c }.closeBlocks (-1)
  let l ← l.dropCandidate
  pure ({ l with keyAllowed := false }.push .streamEnd c.line)

/-- A directive. -/
def fetchDirective (l : Lexer) : Except Malformed Lexer := do
  let l := l.closeBlocks (-1)
  let l ← l.dropCandidate
  let (kind, c) ← scanDirective l.bound l.cursor
  pure ({ l with keyAllowed := false, cursor := c }.push kind l.cursor.line)

/-- The start or end of a document. -/
def fetchDocument (l : Lexer) (kind : TokenKind) : Except Malformed Lexer := do
  let l := l.closeBlocks (-1)
  let l ← l.dropCandidate
  pure ({ l with keyAllowed := false }.mark kind 3)

/-- An opening bracket. -/
def fetchOpen (l : Lexer) (kind : TokenKind) : Except Malformed Lexer := do
  let l ← l.noteCandidate
  if maxDepth ≤ l.inner.length then throw .token
  pure ({ l with inner := none :: l.inner, keyAllowed := true }.mark kind 1)

/-- A closing bracket. -/
def fetchClose (l : Lexer) (kind : TokenKind) : Except Malformed Lexer := do
  let l ← l.dropCandidate
  pure ({ l with inner := l.inner.drop 1, keyAllowed := false }.mark kind 1)

/-- A comma between brackets. -/
def fetchFlowEntry (l : Lexer) : Except Malformed Lexer := do
  let l ← l.dropCandidate
  pure ({ l with keyAllowed := true }.mark .flowEntry 1)

/-- The hyphen of a list entry. -/
def fetchBlockEntry (l : Lexer) : Except Malformed Lexer := do
  if !l.inFlow && !l.keyAllowed then throw .token
  let l ← l.openBlock l.cursor.column none .blockSequenceStart l.cursor.line
  let l ← l.dropCandidate
  pure ({ l with keyAllowed := true }.mark .blockEntry 1)

/-- The question mark of a key. -/
def fetchKey (l : Lexer) : Except Malformed Lexer := do
  if !l.inFlow && !l.keyAllowed then throw .token
  let l ← l.openBlock l.cursor.column none .blockMappingStart l.cursor.line
  let l ← l.dropCandidate
  pure ({ l with keyAllowed := !l.inFlow }.mark .key 1)

/-- The colon of a value whose key is not a candidate. -/
def fetchBareValue (l : Lexer) : Except Malformed Lexer := do
  if !l.inFlow && !l.keyAllowed then throw .token
  let l ← l.openBlock l.cursor.column none .blockMappingStart l.cursor.line
  pure ({ l with keyAllowed := !l.inFlow }.mark .value 1)

/-- The colon of a value. A candidate that is still fresh is its key, and the key token goes in
front of it. -/
def fetchValue (l : Lexer) : Except Malformed Lexer := do
  match l.innermost with
  | none => l.fetchBareValue
  | some k =>
    if l.isFresh k then
      let l := l.insertAt k.number .key k.line
      let l ← l.openBlock k.column (some k.number) .blockMappingStart k.line
      pure (({ l with keyAllowed := false }.setInnermost none).mark .value 1)
    else if k.required then throw .token
    else (l.setInnermost none).fetchBareValue

/-- An anchor or alias. -/
def fetchAnchor (l : Lexer) (kind : List Char → TokenKind) : Except Malformed Lexer := do
  let l ← l.noteCandidate
  let (name, c) ← scanAnchor l.cursor
  pure ({ l with keyAllowed := false, cursor := c }.push (kind name) l.cursor.line)

/-- A tag. -/
def fetchTag (l : Lexer) : Except Malformed Lexer := do
  let l ← l.noteCandidate
  let (handle, suffix, c) ← scanTag l.bound l.cursor
  pure ({ l with keyAllowed := false, cursor := c }.push (.tag handle suffix) l.cursor.line)

/-- A block scalar. -/
def fetchBlockScalar (l : Lexer) (literal : Bool) : Except Malformed Lexer := do
  let l ← l.dropCandidate
  let (text, c) ← scanBlock literal l.indent l.bound l.cursor
  pure ({ l with keyAllowed := true, cursor := c }.push (.scalar text false) l.cursor.line)

/-- A quoted scalar. -/
def fetchQuoted (l : Lexer) (quote : Char) : Except Malformed Lexer := do
  let l ← l.noteCandidate
  let c := l.cursor.skip 1
  let (text, c) ← scanQuoted quote l.bound [] .none c
  pure ({ l with keyAllowed := false, cursor := c }.push (.scalar text false) l.cursor.line)

/-- A plain scalar, and whether it ends in the line it was read to. -/
def fetchPlain (l : Lexer) : Except Malformed (Lexer × Bool) := do
  let l ← l.noteCandidate
  let c := l.cursor
  let p ← Plain.scan l.inFlow (l.indent + 1) l.bound { cursor := c, lastLine := c.line }
  let l := { l with keyAllowed := p.gap.hasBreak, cursor := p.cursor }
  pure (l.push (.scalar p.text.reverse true) c.line, !p.gap.hasBreak)

/-- Can a plain scalar start here? -/
def startsPlain (l : Lexer) : Bool :=
  match l.cursor.peek with
  | none => false
  | some x =>
    if x == '-' then !(l.cursor.peekAt 1).any isBlank
    else if x == '?' || x == ':' then !l.inFlow && !endsWord (l.cursor.peekAt 1)
    else !(isBlank x || isBreak x || ",[]\x7b\x7d#&*!|>\x27\x22%@\x60".toList.contains x)

/-- The place after a comment in the rest of the line, except behind a hyphen. -/
def withLineComment (l : Lexer) : Lexer :=
  { l with cursor := skipLineComment l.cursor }

/-- The token that starts here. -/
def fetchHere (l : Lexer) : Except Malformed Lexer := do
  let next := l.cursor.peekAt 1
  match l.cursor.peek with
  | none => l.fetchEnd
  | some x =>
    if x == '%' && l.cursor.column == 0 then l.fetchDirective
    else if l.cursor.atMarker '-' then l.fetchDocument .documentStart
    else if l.cursor.atMarker '.' then l.fetchDocument .documentEnd
    else if x == '[' then withLineComment <$> l.fetchOpen .flowSequenceStart
    else if x == '\x7b' then withLineComment <$> l.fetchOpen .flowMappingStart
    else if x == ']' then withLineComment <$> l.fetchClose .flowSequenceEnd
    else if x == '\x7d' then withLineComment <$> l.fetchClose .flowMappingEnd
    else if x == ',' then withLineComment <$> l.fetchFlowEntry
    else if x == '-' && endsWord next then l.fetchBlockEntry
    else if x == '?' && (l.inFlow || endsWord next) then withLineComment <$> l.fetchKey
    else if x == ':' && (l.inFlow || endsWord next) then withLineComment <$> l.fetchValue
    else if x == '*' then withLineComment <$> l.fetchAnchor .aliasOf
    else if x == '&' then withLineComment <$> l.fetchAnchor .anchor
    else if x == '!' then withLineComment <$> l.fetchTag
    else if x == '|' && !l.inFlow then l.fetchBlockScalar true
    else if x == '>' && !l.inFlow then l.fetchBlockScalar false
    else if x == '\x27' || x == '\x22' then withLineComment <$> l.fetchQuoted x
    else if l.startsPlain then do
      let (l, sameLine) ← l.fetchPlain
      pure (if sameLine then l.withLineComment else l)
    else throw .token

/-- One more token, with the block tokens that go with it. -/
def fetch (l : Lexer) : Except Malformed Lexer := do
  let (allowed, c) := skipToToken l.inFlow l.bound l.keyAllowed l.cursor
  let l := { l with keyAllowed := allowed, cursor := c }
  if l.cut && (c.rest.take 4).length < 4 then throw .characters
  let l ← (l.closeBlocks c.column).fetchHere
  if l.cut && l.cursor.rest.isEmpty then throw .characters
  pure l

/-- The candidate for the token that is next to be taken. -/
def headCandidate (l : Lexer) : Option KeyCandidate :=
  (l.candidate :: l.inner).findSome? fun k => k.filter fun k => k.number == l.taken

/-- The candidate for the token that is next to be taken given up. -/
def dropHeadCandidate (l : Lexer) : Lexer :=
  let clear (k : Option KeyCandidate) := k.filter fun k => k.number != l.taken
  { l with candidate := clear l.candidate, inner := l.inner.map clear }

/-- The lexer with the next token ready to be taken. -/
def ready : Nat → Lexer → Except Malformed Lexer
  | 0, _ => .error .token
  | fuel + 1, l => do
    if l.queue.length ≤ 2 then ready fuel (← l.fetch)
    else match l.headCandidate with
      | none => pure l
      | some k =>
        if l.isFresh k then ready fuel (← l.fetch)
        else if k.required then throw .token
        else pure l.dropHeadCandidate

/-- The next token, which stays the next one. -/
def peek (l : Lexer) : Except Malformed (Token × Lexer) := do
  let l ← ready l.bound l
  match l.queue with
  | t :: _ => pure (t, l)
  | [] => throw .token

/-- The lexer after the next token. -/
def take (l : Lexer) : Lexer :=
  { l with queue := l.queue.drop 1, taken := l.taken + 1 }

end Lexer

end StackTypes.Yaml
