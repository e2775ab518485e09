import SqlTemplate.Settings.Basic
import SqlTemplate.Statement
import SqlTemplate.Text.Split

/-!
A session: an open connection of a driver. Statements are prepared in it and transactions run in it,
and every error of the driver's class leaves it as one of this library's.
-/
namespace SqlTemplate

/-- What a driver's module tells about the driver. -/
structure DriverModule where
  name : String
  paramstyle : Option String
  errorClass : Option ErrorClass
  deriving Repr

/-- The name of the driver module that is always there. -/
def DriverModule.builtInName : String := "sqlite3"

/-- The driver module that is always there. The driver at work need not be its own. -/
def DriverModule.builtIn (f : Features) : DriverModule where
  name := builtInName
  paramstyle := some "qmark"
  errorClass := some (if f.moduleName = builtInName then .driver else .foreign)

/-- The name of the outermost module that a connection belongs to. -/
def Features.moduleRoot (f : Features) : String :=
  String.ofList ((f.moduleName ++ f.submodule).toList.takeWhile (· != '.'))

/-- The module that a connection belongs to, if it can be found. -/
def Features.module? (f : Features) : Option DriverModule :=
  if f.moduleRoot = DriverModule.builtInName then some (.builtIn f)
  else if f.importable && f.moduleRoot == f.moduleName then
    some ⟨f.moduleName, f.paramstyle, f.moduleError⟩
  else none

/-- The class of the driver's errors: as the connection exposes it, or else the module. -/
def Features.errorClass (f : Features) : ErrorClass :=
  (f.connectionError.or (f.module?.bind (·.errorClass))).getD .any

structure Session where
  engine : Value
  paramstyle : Value
  errorClass : ErrorClass
  closed : Bool := false
  inTransaction : Bool := false
  lastInsertId : Value := .null
  deriving Repr

namespace Session

/-- Engines whose cursors cannot be moved. -/
def sequentialEngines : List String := ["mysql", "sqlite"]

/-- The engine that a module's name stands for. -/
def moduleEngine (m : Option DriverModule) : String :=
  match m with
  | none => "generic"
  | some m => if m.name = DriverModule.builtInName then "sqlite" else m.name

/-- The style of markers that a module tells, or else question marks. -/
def moduleStyle (m : Option DriverModule) : String :=
  (m.bind (·.paramstyle)).getD "qmark"

/-- A session on a driver's connection. What is null is learnt from the driver. -/
def ofDriver (f : Features) (engine : Value := .null) (paramstyle : Value := .null) :
    Except OperandError Session := do
  if f.moduleRoot.isEmpty then throw .emptyModuleName
  let given := if engine.isNull then .text (moduleEngine f.module?) else engine
  return {
    engine := ← given.lowered
    paramstyle := if paramstyle.isNull then .text (moduleStyle f.module?) else paramstyle
    errorClass := f.errorClass }

def signature : Signature where
  callee := "Session.__init__"
  given := ["self", "connection"]
  free := ["engine", "paramstyle"]

/-- A session on a driver's connection with named arguments. -/
def ofArguments (f : Features) (arguments : Arguments) : Except OperandError Session :=
  match signature.refusal? arguments with
  | some e => .error e
  | none => ofDriver f (arguments.valueOf "engine") (arguments.valueOf "paramstyle")

/-- The styles of markers whose marker is the one that format strings have. -/
def formatStyles : List String := ["format", "pyformat"]

/-- The bind marker that the driver understands. -/
def marker (s : Session) : String :=
  if formatStyles.any fun style => s.paramstyle.equals (.text style) then Template.formatMarker
  else "?"

def isSequential (s : Session) : Bool :=
  sequentialEngines.any fun name => s.engine.equals (.text name)

abbrev SessionAction := Action Failure (Live Session)

/-- Runs driver calls; errors of the session's class become this library's. -/
def guarded {α : Type} (m : Action Fault (Live Session) α) : SessionAction α := fun s =>
  m.mapFailure (Driver.handle [s.it.errorClass]) s

def checkOpen : SessionAction Unit := do
  if (← get).it.closed then throw (.driver ⟨.connectionClosed, none⟩)

/-- A new statement on a new cursor. -/
def prepare (sql : String) : SessionAction Statement := do
  checkOpen
  let cursor ← guarded (Live.onDriver Driver.newCursor)
  return { cursor, sql, errorClass := (← get).it.errorClass }

/-- Notes the insert id that an executed statement produced, if it did. -/
def noteInsertId (id : Value) : SessionAction Unit :=
  modify fun s => if id.truthy then { s with it.lastInsertId := id } else s

/-- The driver calls that start a transaction where the driver has no call for it. -/
def beginByStatement : Action Fault (Live Session) Unit := do
  let cursor ← Live.onDriver Driver.newCursor
  Live.onNew cursor ((Cursor.execute "BEGIN" none).ensuring Cursor.close)

def begin : SessionAction Unit := do
  checkOpen
  if (← get).it.inTransaction then throw (.driver ⟨.transactionActive, none⟩)
  guarded do
    if (← get).driver.features.hasBegin then Live.onDriver (Driver.call .begin)
    else beginByStatement
  modify fun s => { s with it.inTransaction := true }

/-- A call that ends the transaction; whether it succeeds or not, the session takes it as ended. -/
def settle (c : Call) : SessionAction Unit := do
  checkOpen
  (guarded (Live.onDriver (Driver.call c))).ensuring
    (modify fun s => { s with it.inTransaction := false })

def commit : SessionAction Unit :=
  settle .commit

def rollback : SessionAction Unit :=
  settle .rollback

/-- Closes the driver's connection. Only the first call does anything. -/
def close : SessionAction Unit := do
  let s ← get
  if s.it.closed then return
  set { s with it.closed := true }
  guarded (Live.onDriver (Driver.call .close))

end Session

end SqlTemplate
