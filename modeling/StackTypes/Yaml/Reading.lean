/-
Reading values out of documents. A reader is given a node and the value so far, and answers with the
value read or with nothing if the node says nothing or does not fit; misfits are collected and the
reading goes on, while a malformed document ends it. Aliases are followed, but not into themselves,
and not if most of a large document comes from them.
-/
import StackTypes.Yaml.Document
import StackTypes.Yaml.Misfit

namespace StackTypes.Yaml

/-- What is kept while a document is read. -/
structure Progress where
  /-- The anchored nodes of the document. -/
  anchored : List (Nat × Node)
  /-- The misfits so far, the latest first. -/
  misfits : List Misfit := []
  /-- How many nodes have been read, and how many of them by following aliases. -/
  visited : Nat := 0
  aliased : Nat := 0
  /-- The numbers of the aliases that are being followed. -/
  following : List Nat := []

/-- Do too many of the nodes come from aliases? Up to 400,000 nodes 99 in 100 may, from 4,000,000
nodes on 10 in 100, and in between the part falls evenly. -/
def Progress.isExcessive (p : Progress) : Bool :=
  let allowed : Nat :=
    if p.visited ≤ 400000 then 99 * 3600000
    else if 4000000 ≤ p.visited then 10 * 3600000
    else 99 * 3600000 - 89 * (p.visited - 400000)
  100 < p.aliased && 1000 < p.visited && p.visited * allowed < p.aliased * 360000000

/-- A step that reads a part of a document. -/
abbrev Reading := StateT Progress (Except Malformed)

namespace Reading

/-- One more node counted. -/
def count : Reading Unit := do
  let p ← get
  let p := { p with
    visited := p.visited + 1
    aliased := if p.following.isEmpty then p.aliased else p.aliased + 1 }
  if p.isExcessive then throw .aliasing
  set p

/-- A misfit noted. -/
def note (m : Misfit) : Reading Unit :=
  modify fun p => { p with misfits := m :: p.misfits }

/-- A node read by `read`, an alias followed first. -/
def visit {α : Type} (n : Node) (read : Node → Reading α) : Reading α := do
  count
  match n with
  | .aliasOf _ _ anchor number =>
    let p ← get
    if p.following.contains number then throw .anchor
    match p.anchored.lookup anchor with
    | none => throw .anchor
    | some target =>
      set { p with following := number :: p.following }
      count
      let a ← read target
      modify fun q => { q with following := p.following }
      pure a
  | _ => read n

/-- The misfit of a node that should have been something of the type called `wanted`. -/
def misfit (n : Node) (wanted : Bytes) : Misfit :=
  .type n.line n.tag n.text wanted

/-- The misfits of keys that a mapping has twice. -/
def repeatedKeys : List Node → List Misfit
  | [] => []
  | k :: ks =>
    ((ks.filter k.sameKey).map fun k' => .repeatedKey k'.line k'.text k.line) ++ repeatedKeys ks

/-- Does a mapping have no key twice? If it has, that is noted. -/
def hasDistinctKeys (entries : List (Node × Node)) : Reading Bool := do
  let ms := repeatedKeys (entries.map (·.1))
  ms.forM note
  pure ms.isEmpty

/-! ## Scalars -/

/-- What a scalar is read as: the name of the type, and which meanings fit it. The text is given as
it stands in the document, too. -/
structure Scalar (α : Type) where
  name : Bytes
  fit? : Value → (text : Bytes) → Option α

/-- A scalar read; nothing if it is null. -/
def scalar {α : Type} (kind : Scalar α) (n : Node) : Reading (Option α) :=
  visit n fun n => do
    match n with
    | .scalar _ tag text =>
      match ← scalarValue tag text with
      | .null => pure none
      | v =>
        match kind.fit? v text with
        | some a => pure (some a)
        | none =>
          note (misfit n kind.name)
          pure none
    | .mapping _ _ entries =>
      if ← hasDistinctKeys entries then note (misfit n kind.name)
      pure none
    | _ =>
      note (misfit n kind.name)
      pure none

/-- Texts: every scalar is one. -/
def text : Scalar Bytes :=
  { name := utf8 "string"
    fit? := fun v s => match v with
      | .text t => some t
      | _ => some s }

/-- The integer of 64 bits that a floating-point number is cut to: one beyond the range gives the
least. Infinity and what is above the range do not count. -/
def cut? (x : Binary64) : Option Int :=
  match x with
  | .nan => none
  | .infinite negative => if negative then some Int64.minValue.toInt else none
  | .finite .. =>
    match x.truncate? with
    | none => none
    | some n =>
      if (Integer.signedLimit : Int) < n then none
      else if (Int64.ofInt n).toInt = n then some n
      else some Int64.minValue.toInt

/-- The integer that a meaning stands for. -/
def integer? : Value → Option Int
  | .int n => some n
  | .float x => cut? x
  | _ => none

/-- Integers of 64 bits. -/
def int64 : Scalar Int64 :=
  { name := utf8 "int"
    fit? := fun v _ => do
      let n ← integer? v
      if (Int64.ofInt n).toInt = n then some (Int64.ofInt n) else none }

/-- Integers of 32 bits. -/
def int32 : Scalar Int32 :=
  { name := utf8 "int32"
    fit? := fun v _ => do
      let n ← integer? v
      if (Int32.ofInt n).toInt = n then some (Int32.ofInt n) else none }

/-- The texts that count as yes. -/
def yes : List Bytes := ["y", "Y", "yes", "Yes", "YES", "on", "On", "ON"].map utf8

/-- The texts that count as no. -/
def no : List Bytes := ["n", "N", "no", "No", "NO", "off", "Off", "OFF"].map utf8

/-- Truth values. -/
def bool : Scalar Bool :=
  { name := utf8 "bool"
    fit? := fun v _ => match v with
      | .bool b => some b
      | .text s => if yes.contains s then some true else if no.contains s then some false else none
      | _ => none }

/-! ## Lists -/

/-- Is the node a scalar that means nothing? -/
def isNull (n : Node) : Reading Bool :=
  match n with
  | .scalar _ tag text => do
    match ← scalarValue tag text with
    | .null => pure true
    | _ => pure false
  | _ => pure false

/-- The items read, those that give nothing left out. -/
def items {α : Type} (read : Node → Reading (Option α)) : List Node → Reading (List α)
  | [] => pure []
  | n :: ns => do
    let a ← read n
    let rest ← items read ns
    pure (a.toList ++ rest)

/-- A list read; null is the empty list. -/
def list {α : Type} (name : Bytes) (item : Node → Reading (Option α)) (n : Node) :
    Reading (Option (List α)) :=
  visit n fun n => do
    match n with
    | .sequence _ _ ns => some <$> items item ns
    | .mapping _ _ entries =>
      if ← hasDistinctKeys entries then note (misfit n name)
      pure none
    | _ =>
      if ← isNull n then pure (some [])
      else
        note (misfit n name)
        pure none

/-! ## Records -/

/-- A field of a record: its key, and how its value changes the record. -/
structure RecordField (α : Type) where
  key : Bytes
  read : Node → α → Reading α

/-- A field that a reader gives; nothing read leaves the record as it is. -/
def RecordField.of {α β : Type} (key : String) (read : Node → Reading (Option β))
    (put : β → α → α) : RecordField α :=
  { key := utf8 key
    read := fun n a => do
      match ← read n with
      | some b => pure (put b a)
      | none => pure a }

/-- A record being read. -/
structure Partial (α : Type) where
  value : α
  /-- While mappings are merged: the keys that are settled. -/
  settled : Option (List Bytes)
  /-- The fields set so far by this mapping. -/
  done : List Bytes := []
  /-- What is to be merged. -/
  merge : Option Node := none

/-- The entries of a mapping read into a record; keys that are no fields are passed over. -/
def entries {α : Type} (name : Bytes) (fields : List (RecordField α)) :
    List (Node × Node) → Partial α → Reading (Partial α)
  | [], r => pure r
  | (k, v) :: rest, r => do
    if k.isMerge then entries name fields rest { r with merge := some v }
    else
      match ← scalar text k with
      | none => entries name fields rest r
      | some key =>
        if (r.settled.getD []).contains key then entries name fields rest r
        else
          let r := { r with settled := r.settled.map (key :: ·) }
          match fields.find? fun f => f.key == key with
          | none => entries name fields rest r
          | some f =>
            if r.done.contains key then
              note (.repeatedField k.line key name)
              entries name fields rest r
            else
              let value ← f.read v r.value
              entries name fields rest { r with value := value, done := key :: r.done }

/-- The texts of the keys of a mapping. -/
def keyTexts : List (Node × Node) → Reading (List Bytes)
  | [] => pure []
  | (k, _) :: rest => do
    count
    let more ← keyTexts rest
    match k with
    | .scalar _ _ s => pure (s :: more)
    | .aliasOf _ _ anchor _ =>
      match (← get).anchored.lookup anchor with
      | some (.scalar _ _ s) => pure (s :: more)
      | _ => pure more
    | _ => pure more

/-- Is the node a mapping, or an alias of one? -/
def isMapping (n : Node) : Reading Bool := do
  match n with
  | .mapping .. => pure true
  | .aliasOf _ _ anchor _ =>
    match (← get).anchored.lookup anchor with
    | some (.mapping ..) => pure true
    | _ => pure false
  | _ => pure false

/-- The mappings that a merge value stands for. -/
def mergeSources (n : Node) : Reading (List Node) := do
  match n with
  | .sequence _ _ ns =>
    if !(← ns.allM isMapping) then throw .merge
    pure ns
  | _ =>
    if !(← isMapping n) then throw .merge
    pure [n]

mutual

/-- A record read from a node; answers the record and the keys settled. -/
def recordFrom {α : Type} (fuel : Nat) (name : Bytes) (fields : List (RecordField α))
    (settled : Option (List Bytes)) (start : α) (n : Node) :
    Reading (Option α × Option (List Bytes)) :=
  match fuel with
  | 0 => throw .aliasing
  | fuel + 1 =>
    visit n fun n => do
      match n with
      | .mapping _ _ es =>
        if ← hasDistinctKeys es then
          let r ← entries name fields es { value := start, settled := settled }
          match r.merge with
          | none => pure (some r.value, r.settled)
          | some m =>
            let own ← match r.settled with
              | some keys => pure keys
              | none => keyTexts es
            let sources ← mergeSources m
            let (value, keys) ← mergeAll fuel name fields own r.value sources
            pure (some value, r.settled.map fun _ => keys)
        else pure (none, settled)
      | _ =>
        if !(← isNull n) then note (misfit n name)
        pure (none, settled)

/-- Mappings merged into a record, the first first; settled keys stay as they are. -/
def mergeAll {α : Type} (fuel : Nat) (name : Bytes) (fields : List (RecordField α))
    (settled : List Bytes) (value : α) (sources : List Node) : Reading (α × List Bytes) :=
  match fuel, sources with
  | _, [] => pure (value, settled)
  | 0, _ :: _ => throw .aliasing
  | fuel + 1, n :: ns => do
    let (merged, keys) ← recordFrom fuel name fields (some settled) value n
    mergeAll fuel name fields (keys.getD settled) (merged.getD value) ns

end

/-- A record read from a node. -/
def record {α : Type} (fuel : Nat) (name : Bytes) (fields : List (RecordField α)) (start : α)
    (n : Node) : Reading (Option α) := do
  pure (← recordFrom fuel name fields none start n).1

end Reading

/-- The value that a reader reads from the first document of a text; no document leaves `start`. The
reader is given a bound for the depth of mappings merged into each other. -/
def read {α : Type} (reader : Nat → α → Node → Reading (Option α)) (start : α) (s : Bytes) :
    Except Failure α :=
  match Document.first? s with
  | .error e => .error (.malformed e)
  | .ok none => .ok start
  | .ok (some d) =>
    let step := do
      Reading.count
      reader (2 * (d.root.size + 1) * (d.root.size + 1)) start d.root
    match step.run { anchored := d.anchored } with
    | .error e => .error (.malformed e)
    | .ok (value, p) =>
      if p.misfits.isEmpty then .ok (value.getD start) else .error (.misfits p.misfits.reverse)

end StackTypes.Yaml
