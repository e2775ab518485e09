import SqlTemplate.Connection.Basic
import SqlTemplate.Connection.RowCount

/-!
Running queries: a template is parsed, bound and executed, and the outcome is recorded in its result
and in the log.
-/
namespace SqlTemplate

/-- A query under way. -/
structure QueryRun where
  client : Client
  result : QueryResult
  /-- The statement, from when it is prepared until it belongs to the result. -/
  statement : Option Statement := none

namespace QueryRun

abbrev RunAction := Action Failure QueryRun

def onClient {α : Type} (m : Action Failure Client α) : RunAction α :=
  m.within (·.client) (fun c r => { r with client := c })

def notify (n : Notice) : RunAction Unit :=
  onClient (Client.onOutside (Surroundings.notify n))

def clock (r : QueryRun) : Ticks :=
  r.client.outside.driver.clock

/-- Shows the result to a hook. -/
def callHook (time : HookTime) (hook : Option Hook) : RunAction Unit := do
  match hook with
  | none => return ()
  | some h =>
    modify fun r =>
      { r with
        client.outside.driver := r.client.outside.driver.advance h.ticks
        client.outside.sightings := r.client.outside.sightings ++ [(time, r.result)] }
    match h.action with
    | .observe => return ()
    | .fail f => throw (.ofFault f)
    | .substitute sql => modify fun r => { r with result.sql := sql }

/-- Runs an action of the statement that was prepared. -/
def onStatement {α : Type} (s : Statement) (m : Action Failure (Live Statement) α) : RunAction α :=
  m.within (fun r => ⟨s, r.client.outside.driver⟩) (fun t r =>
    { r with statement := some t.it, client.outside.driver := t.driver })

/-- Runs an action of the statement, if one is prepared. -/
def withStatement (m : Action Failure (Live Statement) Unit) : RunAction Unit := do
  match (← get).statement with
  | none => return ()
  | some s => onStatement s m

/-- Gives the executed statement to the result. -/
def attach (sequential : Bool) : RunAction Unit :=
  modify fun r =>
    match r.statement with
    | none => r
    | some s =>
      { r with
        result := r.result.attach ⟨s, r.client.outside.driver⟩ sequential
        statement := none }

/-- The rows of the statement just executed: as the driver says, or else as a second statement
counts them, or else unknown. -/
def countRows (reported : Int) : RunAction Int := do
  let r := (← get).result
  if 0 ≤ reported ∨ !RowCount.selects r.sql then return reported
  let row ← Action.recover
    (onClient (Client.onSession (RowCount.countingRow r.sql r.parameters))) fun e =>
      match e with
      | .driver e => do
        notify (.countFailed r.sql e)
        return none
      | e => throw e
  Action.ofExcept ((RowCount.ofRow row).mapError .conversion)

/-- Prepares the statement of a result, binds its parameters and executes it. -/
def send (r : QueryResult) : RunAction Unit := do
  notify (.executing r.sql r.parameters.length)
  let statement ← onClient (Client.onSession (Session.prepare r.sql))
  onStatement statement (Statement.bindAll r.parameters)
  withStatement Statement.execute

/-- Gives the executed statement to the result, with what it brought back. -/
def receive (sequential : Bool) : RunAction Unit := do
  let some statement := (← get).statement | return ()
  let live : Live Statement := ⟨statement, (← get).client.outside.driver⟩
  onClient (Client.onSession (Session.noteInsertId (Statement.lastRowId live)))
  attach sequential
  let count ← countRows (Statement.rowCount live)
  modify fun r =>
    { r with
      result.numberOfRows := some count
      result.insertId := (r.client.connection.session.map (·.lastInsertId)).getD .null
      client.connection.queryCount := r.client.connection.queryCount + 1 }

/-- Executes the statement of the result. -/
def execute : RunAction Unit := do
  let some session := (← get).client.connection.session | throw (.driver ⟨.notOpen, none⟩)
  send (← get).result
  receive session.isSequential

/-- Records that the query failed, and gives the statement back. -/
def recordFailure (start : Ticks) (e : DriverError) : RunAction Unit := do
  let elapsed := (← get).clock - start
  notify (.queryFailed e)
  modify fun r =>
    { r with
      client.connection := r.client.connection.addToLog
        ⟨some e.message, elapsed, some r.result.template⟩ false
      result.exception := some e
      result.success := false }
  withStatement Statement.close

/-- Executes the statement of the result; an error of this library is recorded in the result. -/
def attempt (start : Ticks) : RunAction Unit :=
  execute.recover fun e =>
    match e with
    | .driver e => recordFailure start e
    | e => throw e

/-- Logs that the query is over, and reports the error that it failed with, if it did. -/
def finish (start : Ticks) : RunAction Unit := do
  let elapsed := (← get).clock - start
  modify fun r =>
    { r with
      result.success := r.result.exception.isNone
      client.connection := r.client.connection.addToLog ⟨none, elapsed, some r.result.template⟩ }
  match (← get).result.exception with
  | some e => onClient (Client.report e)
  | none => return ()

/-- Runs a parsed query with its hooks. -/
def run : RunAction Unit := do
  let start := (← get).clock
  callHook .before (← get).client.connection.beforeHook
  (attempt start).ensuring (do callHook .after (← get).client.connection.afterHook)
  finish start

end QueryRun

namespace Client

/-- The template and the arguments of a call: one after the other, or together in one sequence. -/
def templateOf (arguments : List Value) : Except Failure (Value × List Value) :=
  let split : List Value → Except Failure (Value × List Value)
    | [] => .error (.argument .noQuery)
    | template :: rest => .ok (template, rest)
  let together (vs rest : List Value) : Except Failure (Value × List Value) :=
    if rest.isEmpty then split vs else .error (.argument .sequenceAndArguments)
  match arguments with
  | .list vs :: rest => together vs rest
  | .tuple vs :: rest => together vs rest
  | _ => split arguments

/-- The bind marker of the session's driver. -/
def marker (c : Connection) : String :=
  c.session.elim "?" Session.marker

/-- Parses a template with its arguments as the connection's settings say. -/
def parse (c : Connection) (arguments : List Value) : Except Failure ParsedQuery := do
  let (template, rest) ← templateOf arguments
  let dialect ← Dialect.ofMode c.settings.queryMode
  Template.parse dialect (marker c) template rest

/-- Parses, binds and executes a template. -/
def query (arguments : List Value) : ClientAction QueryResult := do
  let q ← Action.ofExcept (parse (← get).connection arguments)
  fun c =>
    match QueryRun.run { client := c, result := .ofParsed q } with
    | .ok _ r => .ok r.result r.client
    | .error e r => .error e r.client

end Client

end SqlTemplate
