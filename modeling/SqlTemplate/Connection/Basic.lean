import SqlTemplate.Connection.Files
import SqlTemplate.Connection.Log
import SqlTemplate.QueryResult
import SqlTemplate.Session

/-!
A connection: a session with settings, a log and hooks, and the surroundings it works in.
-/
namespace SqlTemplate

/-- What a hook does with the result it is shown. -/
inductive HookAction
  | observe
  | fail (fault : Fault)
  /-- Puts another statement in place of the one to be run. -/
  | substitute (sql : String)
  deriving Repr

structure Hook where
  action : HookAction := .observe
  /-- How long the hook takes. -/
  ticks : Ticks := 0
  deriving Repr

/-- When a hook is called. -/
inductive HookTime
  | before
  | after
  deriving DecidableEq, Repr

structure Connection where
  settings : Settings
  /-- Absent if the driver could not connect. -/
  session : Option Session := none
  log : List LogRecord := []
  /-- The milliseconds spent on connecting and on queries, summed up one by one. -/
  totalTime : Number.Binary64 := ⟨0⟩
  /-- The number of queries that succeeded. -/
  queryCount : Nat := 0
  beforeHook : Option Hook := none
  afterHook : Option Hook := none
  deriving Repr

/-- A place in the caller's code. -/
structure CallSite where
  file : String
  line : Nat
  deriving DecidableEq, Repr

/-- What a connection finds and leaves outside itself. -/
structure Surroundings where
  driver : Driver
  /-- The caller of the operation under way. -/
  caller : CallSite
  printed : String := ""
  files : Files := []
  notices : List Notice := []
  /-- The results that hooks were shown, as they found them. -/
  sightings : List (HookTime × QueryResult) := []

namespace Surroundings

abbrev SurroundingsAction := Action Failure Surroundings

def notify (n : Notice) : SurroundingsAction Unit :=
  modify fun s => { s with notices := s.notices ++ [n] }

/-- Runs an action of something that works on the driver, and gives back its new state. -/
def onDriver {σ α : Type} (it : σ) (m : Action Failure (Live σ) α) :
    Action Failure Surroundings α :=
  m.within (fun s => ⟨it, s.driver⟩) (fun t s => { s with driver := t.driver })

/-- The text of an error report: the error and the place it is reported to. -/
def reportText (s : Surroundings) (e : DriverError) : String :=
  e.message ++ "\nFile: " ++ s.caller.file ++ "\nLine Number: " ++ toString s.caller.line

def print (line : String) : SurroundingsAction Unit :=
  modify fun s => { s with printed := s.printed ++ line ++ "\n" }

/-- Appends a line to the file that a value names. -/
def appendLine (path : Value) (line : String) : SurroundingsAction Unit := do
  let place ← Action.ofExcept ((← get).files.locate path)
  modify fun s => { s with files := s.files.append place (line ++ "\n") }

def flagSet (settings : Settings) (flag : Int) : SurroundingsAction Bool :=
  Action.ofExcept ((settings.reports (.int flag)).mapError .operand)

/-- Reports an error as the settings ask for: on the output, in a file, and by failing with it. -/
def report (settings : Settings) (e : DriverError) : SurroundingsAction Unit := do
  if settings.errorReporting.equals (.int Settings.ignoreErrors) then return
  let text := (← get).reportText e
  if ← flagSet settings Settings.echoErrors then print text
  if ← flagSet settings Settings.fileErrors then appendLine settings.errorLog text
  if ← flagSet settings Settings.raiseErrors then throw (.driver e)

end Surroundings

/-- A connection in its surroundings. -/
structure Client where
  connection : Connection
  outside : Surroundings

namespace Client

abbrev ClientAction := Action Failure Client

def onOutside {α : Type} (m : Action Failure Surroundings α) : ClientAction α :=
  m.within (·.outside) (fun s c => { c with outside := s })

/-- Reports an error as the connection's settings ask for. -/
def report (e : DriverError) : ClientAction Unit := do
  onOutside (Surroundings.report (← get).connection.settings e)

/-- Runs an action of the session, if there is one. -/
def onSession {α : Type} (m : Action Failure (Live Session) α) : ClientAction α := do
  match (← get).connection.session with
  | none => throw (.driver ⟨.notOpen, none⟩)
  | some session =>
    m.within (fun c => ⟨session, c.outside.driver⟩) (fun s c =>
      { c with connection.session := some s.it, outside.driver := s.driver })

end Client

/-- Adds a step to the log, if one is kept. A step that is part of a later one does not count. -/
def Connection.addToLog (c : Connection) (r : LogRecord) (counts : Bool := true) : Connection :=
  { c with
    totalTime := if counts then c.totalTime.add r.duration else c.totalTime
    log := if c.settings.logQueries.truthy then c.log ++ [r] else c.log }

end SqlTemplate
