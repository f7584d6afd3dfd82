/-
The warm-up: stages that load a configuration, open the store it names and fill an attribute table.
A stage that fails adds an error, and a context with errors runs no further stages. What has been
opened is registered with the context and released when the context is closed, the latest first.
-/
import StackTypes.Attribute
import StackTypes.Config
import StackTypes.Param.Store

namespace StackTypes.Warmup

/-- Why a stage failed. -/
inductive StageError where
  | config (e : ConfigError)
  | noConfig
  | unknownSource (source : Bytes)
  | store (e : Param.StoreError)
  | noStore
  | attributes (e : Param.StoreError)
  | other (text : Bytes)
deriving DecidableEq, Repr

/-- The text of a stage error. -/
def StageError.message : StageError → Bytes
  | .config e => e.message
  | .noConfig => utf8 "no configuration loaded"
  | .unknownSource source => utf8 "unknown params source " ++ Quoted.text source
  | .store e => e.message
  | .noStore => utf8 "no parameter store opened"
  | .attributes e => utf8 "loading attributes: " ++ e.message
  | .other text => text

/-- Something to release when a context is closed. -/
inductive Closer where
  /-- The store of the context, which may fail to close with a text. -/
  | store (failure : Option Bytes)
  /-- Something else by its name, which may fail to close with a text. -/
  | named (name : Bytes) (failure : Option Bytes)
deriving DecidableEq, Repr

/-- What the stages hand on to each other. -/
structure Context where
  configPath : Bytes
  config : Option Config := none
  store : Option Param.Store := none
  /-- The size of the attribute table once it has been filled. -/
  attributeCount : Nat := 0
  errors : List StageError := []
  /-- What is to be released, in the order of registration. -/
  closers : List Closer := []
deriving DecidableEq, Repr

namespace Context

/-- Has a stage failed? -/
def failed (c : Context) : Bool :=
  !c.errors.isEmpty

/-- The context with one more error. -/
def fail (c : Context) (e : StageError) : Context :=
  { c with errors := c.errors ++ [e] }

/-- The context with its errors forgotten, so that stages run again. -/
def clearErrors (c : Context) : Context :=
  { c with errors := [] }

/-- The context with one more thing to release. -/
def addCloser (c : Context) (closer : Closer) : Context :=
  { c with closers := c.closers ++ [closer] }

/-- The context once its store is closed, if that is something to be closed. -/
def closeStore (c : Context) : Context :=
  match c.store with
  | some (.dump d) => { c with store := some (.dump { d with isOpen := false }) }
  | _ => c

/-- The context after one thing is released. -/
def release (c : Context) : Closer → Context
  | .store _ => c.closeStore
  | .named .. => c

end Context

/-- Why something could not be released. -/
def Closer.failure? : Closer → Option Bytes
  | .store failure | .named _ failure => failure

/-- What happened when a context was closed: what was released in order, and the first failure. -/
structure Closing where
  released : List Closer
  failure : Option Bytes
deriving DecidableEq, Repr

/-- Everything released, the latest registered first. Failures stop nothing. -/
def Context.close (c : Context) : Closing × Context :=
  let order := c.closers.reverse
  (⟨order, order.findSome? Closer.failure?⟩, { order.foldl Context.release c with closers := [] })

/-! ## Stages -/

/-- Which attribute table is filled. -/
inductive TableChoice where
  | own
  | shared
deriving DecidableEq, Repr

/-- A stage. -/
inductive Stage where
  | config
  | store
  | attributes (table : TableChoice)
  /-- A stage that fails with a text. -/
  | fail (text : Bytes)
deriving DecidableEq, Repr

/-- All that stages work on: the context, a table of its own and the shared one, and the log. -/
structure State where
  context : Context
  own : AttributeTable := .empty
  shared : AttributeTable := .empty
  log : List Bytes := []
deriving DecidableEq, Repr

namespace State

/-- The state with the context changed. -/
def withContext (s : State) (c : Context) : State :=
  { s with context := c }

/-- The state with one more error. -/
def fail (s : State) (e : StageError) : State :=
  s.withContext (s.context.fail e)

/-- The state with one more line in the log. -/
def note (s : State) (line : Bytes) : State :=
  { s with log := s.log ++ [line] }

/-- One of the tables. -/
def table (s : State) : TableChoice → AttributeTable
  | .own => s.own
  | .shared => s.shared

/-- The state with one of the tables replaced. -/
def setTable (s : State) (choice : TableChoice) (t : AttributeTable) : State :=
  match choice with
  | .own => { s with own := t }
  | .shared => { s with shared := t }

end State

/-- The configuration loaded, unless there is one. -/
def loadConfig (fs : FileSystem) (s : State) : State :=
  if s.context.config.isSome then s
  else match Config.load fs s.context.configPath with
    | .error e => s.fail (.config e)
    | .ok c => s.withContext { s.context with config := some c }

/-- The store that a configuration names, and what it takes to close it. -/
def openStore (fs : FileSystem) (c : Config) : Except StageError (Param.Store × List Closer) :=
  if c.source = Config.yaml then
    match Param.Store.openYaml fs c.path with
    | .ok store => .ok (store, [])
    | .error e => .error (.store e)
  else if c.source = Config.sqlite then
    match Param.Dump.openTable fs c.path c.table with
    | .ok d => .ok (.dump d, [.store (fs.driver.closingFault d.path)])
    | .error e => .error (.store e)
  else .error (.unknownSource c.source)

/-- The store opened, unless there is one. -/
def loadStore (fs : FileSystem) (s : State) : State :=
  if s.context.store.isSome then s
  else match s.context.config with
    | none => s.fail .noConfig
    | some c =>
      let s := s.note (utf8 "Opening " ++ c.source ++ utf8 " params from " ++ c.path)
      match openStore fs c with
      | .error e => s.fail e
      | .ok (store, closers) =>
        s.withContext { s.context with
          store := some store
          closers := s.context.closers ++ closers }

/-- A table filled from the store. -/
def fillTable (fs : FileSystem) (choice : TableChoice) (s : State) : State :=
  match s.context.store with
  | none => s.fail .noStore
  | some store =>
    let s := s.note (utf8 "Populating params...")
    match (s.table choice).populate (store.records fs) with
    | (⟨_, some e⟩, _) => s.fail (.attributes e)
    | (⟨n, none⟩, t) =>
      let s := (s.setTable choice t).note (utf8 "Populated " ++ Numeral.ofNat n ++ utf8 " params")
      s.withContext { s.context with attributeCount := n }

/-- The state after a stage. -/
def Stage.run (fs : FileSystem) (s : State) : Stage → State
  | .config => loadConfig fs s
  | .store => loadStore fs s
  | .attributes choice => fillTable fs choice s
  | .fail text => s.fail (.other text)

/-- The state after a stage, which is passed over if a stage before it failed. -/
def step (fs : FileSystem) (s : State) (stage : Stage) : State :=
  if s.context.failed then s else stage.run fs s

/-- The state after stages. -/
def run (fs : FileSystem) (stages : List Stage) (s : State) : State :=
  stages.foldl (step fs) s

/-- The lines of a log, each ended by a line feed unless it has one at its end already. -/
def logText (lines : List Bytes) : Bytes :=
  lines.flatMap fun line => if line.getLast? = some 0x0A then line else line ++ [0x0A]

/-- The context closed; a failure is noted in the log. -/
def closeNoted (s : State) : Closing × State :=
  let (closing, context) := s.context.close
  let s := s.withContext context
  match closing.failure with
  | none => (closing, s)
  | some e => (closing, s.note (utf8 "Error closing params store: " ++ e))

end StackTypes.Warmup
