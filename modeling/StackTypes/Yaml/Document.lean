/-
From tokens to the first document of a text. What is left out in the text (the value of a key, the
item after a dash) is an empty scalar. Nothing after the end of the first document is looked at.
-/
import StackTypes.Text.Utf8
import StackTypes.Yaml.Lexer
import StackTypes.Yaml.Value

namespace StackTypes.Yaml

/-- A document being built. -/
structure Builder where
  lexer : Lexer
  /-- The tag handles and what they stand for. -/
  handles : List (List Char × List Char) := []
  /-- The anchors seen so far, the latest first, and the numbers of their nodes. -/
  names : List (List Char × Nat) := []
  /-- The anchored nodes that are complete. -/
  anchored : List (Nat × Node) := []
  /-- How many aliases have been met. -/
  aliases : Nat := 0

/-- A step that builds a part of a document. -/
abbrev Build := StateT Builder (Except Malformed)

namespace Build

/-- The next token. -/
def peek : Build Token := do
  let b ← get
  let (t, lexer) ← b.lexer.peek
  set { b with lexer := lexer }
  pure t

/-- The next token taken away. -/
def take : Build Unit :=
  modify fun b => { b with lexer := b.lexer.take }

/-- The next token taken away, if it is of the given kind. -/
def takeIf (kind : TokenKind) : Build Bool := do
  if (← peek).kind = kind then
    take
    pure true
  else pure false

/-! ## Anchors and tags -/

/-- The anchor and the tag in front of a node, and the line of the first of them. -/
structure Properties where
  anchor : Option (List Char) := none
  tag : Option (List Char × List Char) := none
  line : Option Nat := none

/-- The anchor and the tag in front of a node, in either order. -/
def properties : Build Properties := do
  let t ← peek
  match t.kind with
  | .anchor name =>
    take
    match (← peek).kind with
    | .tag handle suffix =>
      take
      pure { anchor := some name, tag := some (handle, suffix), line := some t.line }
    | _ => pure { anchor := some name, line := some t.line }
  | .tag handle suffix =>
    take
    match (← peek).kind with
    | .anchor name =>
      take
      pure { anchor := some name, tag := some (handle, suffix), line := some t.line }
    | _ => pure { tag := some (handle, suffix), line := some t.line }
  | _ => pure {}

/-- A tag with its handle replaced by what it stands for, in short form. A tag that says nothing
counts as none. -/
def fullTag? : Option (List Char × List Char) → Build (Option Bytes)
  | none => pure none
  | some (handle, suffix) => do
    let tag ←
      if handle.isEmpty then pure suffix
      else match (← get).handles.lookup handle with
        | some meaning => pure (meaning ++ suffix)
        | none => throw .tag
    if tag = [] ∨ tag = ['!'] then pure none else pure (some (Tag.shorten (Utf8.ofChars tag)))

/-- A number for the anchor, known from here on. -/
def declareAnchor : Option (List Char) → Build (Option Nat)
  | none => pure none
  | some name => do
    let b ← get
    let number := b.names.length
    set { b with names := (name, number) :: b.names }
    pure (some number)

/-- The node kept under the number of its anchor. -/
def keepAnchored (number : Option Nat) (node : Node) : Build Unit :=
  match number with
  | none => pure ()
  | some n => modify fun b => { b with anchored := (n, node) :: b.anchored }

/-! ## Nodes -/

/-- A scalar: a tag given, or the one that the way it is written gives it. -/
def scalar (line : Nat) (tag : Option Bytes) (text : List Char) (plain : Bool) : Node :=
  let s := Utf8.ofChars text
  let natural :=
    if !plain then Tag.str
    else if s = utf8 "<<" then Tag.merge
    else (plainValue true s).1
  .scalar (line + 1) (tag.getD natural) s

/-- The scalar that stands for what is left out. -/
def absent (line : Nat) : Node :=
  scalar line none [] true

mutual

/-- A node. In a block, `block` allows block lists and mappings, and `indentless` a list whose
dashes are no further in than the key before them. -/
def node (fuel : Nat) (block indentless : Bool) : Build Node :=
  match fuel with
  | 0 => throw .order
  | fuel + 1 => do
    let first ← peek
    match first.kind with
    | .aliasOf name =>
      take
      let b ← get
      set { b with aliases := b.aliases + 1 }
      match b.names.lookup name with
      | some anchor => pure (.aliasOf (first.line + 1) (Utf8.ofChars name) anchor b.aliases)
      | none => throw .anchor
    | _ =>
      let props ← properties
      let tag ← fullTag? props.tag
      let t ← peek
      let line := props.line.getD t.line
      let number ← declareAnchor props.anchor
      let marked := props.anchor.isSome || props.tag.isSome
      let n ← content fuel block indentless marked t.kind line tag
      keepAnchored number n
      pure n

/-- What follows the anchor and the tag of a node. -/
def content (fuel : Nat) (block indentless marked : Bool) (kind : TokenKind) (line : Nat)
    (tag : Option Bytes) : Build Node := do
  let list := fun items => Node.sequence (line + 1) (tag.getD Tag.seq) items
  let mapping := fun entries => Node.mapping (line + 1) (tag.getD Tag.map) entries
  match fuel with
  | 0 => throw .order
  | fuel + 1 =>
    match kind, block, indentless with
    | .blockEntry, _, true => list <$> indentlessItems fuel
    | .scalar text plain, _, _ =>
      take
      pure (scalar line tag text plain)
    | .flowSequenceStart, _, _ =>
      take
      list <$> flowItems fuel true
    | .flowMappingStart, _, _ =>
      take
      mapping <$> flowEntries fuel true
    | .blockSequenceStart, true, _ =>
      take
      list <$> blockItems fuel
    | .blockMappingStart, true, _ =>
      take
      mapping <$> blockEntries fuel
    | _, _, _ => if marked then pure (scalar line tag [] true) else throw .order

/-- The items of a block list. -/
def blockItems (fuel : Nat) : Build (List Node) :=
  match fuel with
  | 0 => throw .order
  | fuel + 1 => do
    let t ← peek
    match t.kind with
    | .blockEnd =>
      take
      pure []
    | .blockEntry =>
      take
      let item ← match (← peek).kind with
        | .blockEntry | .blockEnd => pure (absent t.line)
        | _ => node fuel true false
      let items ← blockItems fuel
      pure (item :: items)
    | _ => throw .order

/-- The items of a list whose dashes are no further in than the key before them. -/
def indentlessItems (fuel : Nat) : Build (List Node) :=
  match fuel with
  | 0 => throw .order
  | fuel + 1 => do
    let t ← peek
    match t.kind with
    | .blockEntry =>
      take
      let item ← match (← peek).kind with
        | .blockEntry | .key | .value | .blockEnd => pure (absent t.line)
        | _ => node fuel true false
      let items ← indentlessItems fuel
      pure (item :: items)
    | _ => pure []

/-- A key or a value of a block mapping. -/
def blockPart (fuel : Nat) (line : Nat) : Build Node :=
  match fuel with
  | 0 => throw .order
  | fuel + 1 => do
    match (← peek).kind with
    | .key | .value | .blockEnd => pure (absent line)
    | _ => node fuel true true

/-- The entries of a block mapping. -/
def blockEntries (fuel : Nat) : Build (List (Node × Node)) :=
  match fuel with
  | 0 => throw .order
  | fuel + 1 => do
    let t ← peek
    match t.kind with
    | .blockEnd =>
      take
      pure []
    | .key =>
      take
      let k ← blockPart fuel t.line
      let v ← blockValue fuel
      let entries ← blockEntries fuel
      pure ((k, v) :: entries)
    | _ => throw .order

/-- The value of an entry of a block mapping. -/
def blockValue (fuel : Nat) : Build Node :=
  match fuel with
  | 0 => throw .order
  | fuel + 1 => do
    let t ← peek
    if t.kind = .value then
      take
      blockPart fuel t.line
    else pure (absent t.line)

/-- The items of a list in brackets; all but the first have a comma in front, and a comma may stand
after the last. -/
def flowItems (fuel : Nat) (first : Bool) : Build (List Node) :=
  match fuel with
  | 0 => throw .order
  | fuel + 1 => do
    if ← takeIf .flowSequenceEnd then pure []
    else
      if !first then
        if !(← takeIf .flowEntry) then throw .order
      let t ← peek
      match t.kind with
      | .flowSequenceEnd =>
        take
        pure []
      | .key =>
        take
        let entry ← flowPair fuel
        let items ← flowItems fuel false
        pure (.mapping (t.line + 1) Tag.map [entry] :: items)
      | _ =>
        let item ← node fuel false false
        let items ← flowItems fuel false
        pure (item :: items)

/-- The entry of a mapping that stands without braces in a list in brackets. -/
def flowPair (fuel : Nat) : Build (Node × Node) :=
  match fuel with
  | 0 => throw .order
  | fuel + 1 => do
    let t ← peek
    let k ← match t.kind with
      | .value | .flowEntry | .flowSequenceEnd =>
        take
        pure (absent t.line)
      | _ => node fuel false false
    let v ← flowValue fuel .flowSequenceEnd
    pure (k, v)

/-- The value of an entry inside brackets or braces, which end with the given kind of token. -/
def flowValue (fuel : Nat) (closing : TokenKind) : Build Node :=
  match fuel with
  | 0 => throw .order
  | fuel + 1 => do
    if ← takeIf .value then
      let t ← peek
      if t.kind = .flowEntry ∨ t.kind = closing then pure (absent t.line)
      else node fuel false false
    else pure (absent (← peek).line)

/-- The entries of a mapping in braces. -/
def flowEntries (fuel : Nat) (first : Bool) : Build (List (Node × Node)) :=
  match fuel with
  | 0 => throw .order
  | fuel + 1 => do
    if ← takeIf .flowMappingEnd then pure []
    else
      if !first then
        if !(← takeIf .flowEntry) then throw .order
      let t ← peek
      match t.kind with
      | .flowMappingEnd =>
        take
        pure []
      | .key =>
        take
        let u ← peek
        let k ← match u.kind with
          | .value | .flowEntry | .flowMappingEnd => pure (absent u.line)
          | _ => node fuel false false
        let v ← flowValue fuel .flowMappingEnd
        let entries ← flowEntries fuel false
        pure ((k, v) :: entries)
      | _ =>
        let k ← node fuel false false
        let v := absent (← peek).line
        let entries ← flowEntries fuel false
        pure ((k, v) :: entries)

end

/-! ## Documents -/

/-- The tag handles that every document has. -/
def standardHandles : List (List Char × List Char) :=
  [("!".toList, "!".toList), ("!!".toList, "tag:yaml.org,2002:".toList)]

/-- The directives in front of a document. There is at most one version, which has to be 1.1, and
each tag handle is declared at most once. -/
def directives (fuel : Nat) (versioned : Bool) (handles : List (List Char × List Char)) :
    Build (List (List Char × List Char)) :=
  match fuel with
  | 0 => throw .order
  | fuel + 1 => do
    match (← peek).kind with
    | .version major minor =>
      if versioned ∨ major ≠ 1 ∨ minor ≠ 1 then throw .order
      take
      directives fuel true handles
    | .tagHandle handle meaning =>
      if (handles.lookup handle).isSome then throw .order
      take
      directives fuel versioned (handles ++ [(handle, meaning)])
    | _ => pure (handles ++ standardHandles)

/-- Does a token of this kind open a document that says where it starts? -/
def opensDocument : TokenKind → Bool
  | .version .. | .tagHandle .. | .documentStart => true
  | _ => false

/-- Does a token of this kind end an empty document? -/
def endsEmpty (kind : TokenKind) : Bool :=
  opensDocument kind || kind == .documentEnd || kind == .streamEnd

/-- The first document, if there is one. -/
def document (fuel : Nat) : Build (Option Document) := do
  if (← peek).kind = .streamStart then take
  let t ← peek
  if t.kind = .streamEnd then pure none
  else
    let handles ← if opensDocument t.kind then directives fuel false [] else pure standardHandles
    modify fun b => { b with handles := handles }
    if opensDocument t.kind then
      if !(← takeIf .documentStart) then throw .order
    let u ← peek
    let root ←
      if opensDocument t.kind && endsEmpty u.kind then pure (absent u.line)
      else node fuel true false
    let _ ← takeIf .documentEnd
    pure (some { root := root, anchored := (← get).anchored })

end Build

/-- The first document of a text, if it has one. -/
def Document.first? (s : Bytes) : Except Malformed (Option Document) :=
  let source := Source.ofBytes (if s.isEmpty then utf8 "\n" else s)
  ((Build.document (16 * source.chars.length + 64)).run { lexer := Lexer.start source }).map (·.1)

end StackTypes.Yaml
