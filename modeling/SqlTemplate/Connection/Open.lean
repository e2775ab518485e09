import SqlTemplate.Connection.Basic

/-!
Opening connections: with the driver that the settings name, or around a connection that is open.
-/
namespace SqlTemplate

/-- What a new connection is built on. -/
inductive Origin
  /-- The driver of the engine in the settings. -/
  | engine
  /-- An open connection of a driver. -/
  | open
  | session (s : Session)
  deriving Repr

namespace Connection

open Surroundings (SurroundingsAction)

/-- Connects through the driver; only errors of the classes its module exposes are handled. -/
def connectDriver (positional : List Value) (keywords : List (String × Value))
    (caught : Except Failure (List ErrorClass)) : SurroundingsAction Unit := fun s =>
  match Driver.call (.connect positional keywords) s.driver with
  | .ok _ d => .ok () { s with driver := d }
  | .error f d =>
    let failure := match caught with
      | .ok classes => Driver.handle classes f
      | .error e => e
    .error failure { s with driver := d }

/-- Opens a database file, or one in memory. -/
def openSqlite (settings : Settings) : SurroundingsAction Session := do
  let f := (← get).driver.features
  connectDriver [settings.databaseName] [("isolation_level", .null)]
    (.ok (DriverModule.builtIn f).errorClass.toList)
  Action.ofExcept
    ((Session.ofDriver f (.text "sqlite") (.text "qmark")).mapError .operand)

/-- Opens a database on a server, if there is a driver for it. -/
def openMysql (settings : Settings) : SurroundingsAction Session := do
  let f := (← get).driver.features
  if f.moduleName ≠ "pymysql" ∨ !f.importable then throw (.misuse .noEngineDriver)
  connectDriver []
    [("host", settings.hostname), ("user", settings.username), ("password", settings.password),
      ("database", settings.database), ("autocommit", .bool true)]
    (match f.moduleError with
    | some c => .ok [c]
    | none => .error (.operand (.noModuleMember f.moduleName "Error")))
  Action.ofExcept
    ((Session.ofDriver f (.text "mysql") (.text "format")).mapError .operand)

/-- Opens a session with the driver of the engine in the settings. -/
def openSession (settings : Settings) : SurroundingsAction Session := do
  let engine ← Action.ofExcept (settings.engineName.mapError .operand)
  match engine.unhashable? with
  | some typeName => throw (.operand (.unhashable typeName))
  | none => pure ()
  let opener ←
    if engine.equals (.text "sqlite") then pure openSqlite
    else if engine.equals (.text "mysql") then pure openMysql
    else throw settings.unsupported
  let target ← Action.ofExcept settings.connectionString
  Surroundings.notify (.connecting target)
  opener settings

/-- A connection through the driver. If it cannot connect, that is reported, and the connection has
no session. -/
def connect (c : Connection) : SurroundingsAction Connection := do
  let start := (← get).driver.clock
  let opened ← Action.recover (Except.ok <$> openSession c.settings) fun e =>
    match e with
    | .driver e => pure (.error e)
    | e => throw e
  match opened with
  | .error e =>
    Surroundings.notify (.connectionFailed e)
    Surroundings.report c.settings e
    return c
  | .ok session =>
    let elapsed := (← get).driver.clock - start
    Surroundings.notify (.connected elapsed)
    return { c with session := some session }.addToLog ⟨some "Connection Created", elapsed, none⟩

/-- Where the whole of the settings could stand among the named arguments. -/
def wholeSettings : String := "configuration"

/-- The settings that the named arguments of a new connection give. What it is built on is given
before them, and no value is the whole of the settings. -/
def settingsOf (arguments : Arguments) : Except Failure Settings :=
  let whole := arguments.valueOf wholeSettings
  if (arguments.lookup "connection").isSome then
    .error (.operand (.repeatedKeyword "typedquery.connection.connect" "connection"))
  else if !whole.isNull then .error (.operand (.noMember whole.typeName "validate"))
  else Settings.ofArguments (arguments.filter (·.1 ≠ wholeSettings))

/-- A new connection with the given settings, once they are found valid. -/
def new (settings : Settings) (origin : Origin) : SurroundingsAction Connection := do
  let settings ← Action.ofExcept settings.validated
  let c : Connection := { settings }
  match origin with
  | .engine => c.connect
  | .session s => return { c with session := some s }
  | .open =>
    let f := (← get).driver.features
    let s ← Action.ofExcept ((Session.ofDriver f settings.engine).mapError .operand)
    return { c with session := some s }

end Connection

end SqlTemplate
