import SqlTemplate.Driver.Basic
import SqlTemplate.Error.Failure
import SqlTemplate.Number.Decimal

/-!
The log of what a connection did, and the notices it gives while it works.
-/
namespace SqlTemplate

/-- A tick is the 1024th part of a second. -/
def Ticks.milliseconds (t : Ticks) : Number.Binary64 :=
  let negative := decide (t < 0)
  (Number.Binary64.ofRatio? negative (t.natAbs * 1000) 1024).getD (.infinity negative)

/-- A number with three decimal places. -/
def Value.threePlaces (v : Value) : Except OperandError String :=
  match v with
  | .float x => .ok (x.fixedText 3)
  | _ =>
    match v.integer? with
    | none => .error (.notReal v.typeName)
    | some n =>
      match Number.Binary64.ofInt? n with
      | some x => .ok (x.fixedText 3)
      | none => .error .intTooLarge

/-- One step of a connection, with its duration in milliseconds. -/
structure LogEntry where
  /-- The error text, if the step failed. -/
  message : Option String := none
  duration : Value := .float ⟨0⟩
  /-- The query as the caller gave it. -/
  query : Option String := none
  deriving Repr

namespace LogEntry

def shown (s : Option String) : String :=
  s.getD "None"

/-- The entry on lines of its own. -/
def text (e : LogEntry) : Except OperandError String := do
  let duration ← e.duration.threePlaces
  return "Query: " ++ shown e.query ++ "\nDuration: " ++ duration ++ " ms\n" ++
    e.message.elim "" ("Message: " ++ ·)

/-- The entry as messages show it, with the time at which it was made. -/
def quote (e : LogEntry) (timestamp : String) : Except OperandError String := do
  let duration ← e.duration.threePlaces
  return "<LogEntry " ++ timestamp ++ " " ++ shown (e.message.map Text.quoted) ++ " " ++
    duration ++ " ms>"

end LogEntry

/-- An entry of a connection's own log: its duration is a span of the driver's clock. -/
structure LogRecord where
  message : Option String
  elapsed : Ticks
  query : Option String
  deriving DecidableEq, Repr

namespace LogRecord

/-- The duration in milliseconds. -/
def duration (r : LogRecord) : Number.Binary64 :=
  Ticks.milliseconds r.elapsed

def entry (r : LogRecord) : LogEntry where
  message := r.message
  duration := .float r.duration
  query := r.query

end LogRecord

/-- What a connection gives notice of. -/
inductive Notice
  | connecting (target : String)
  | connected (elapsed : Ticks)
  | connectionFailed (error : DriverError)
  | executing (sql : String) (parameters : Nat)
  | queryFailed (error : DriverError)
  | countFailed (sql : String) (error : DriverError)
  deriving Repr

namespace Notice

def level : Notice → String
  | connectionFailed _ => "WARNING"
  | queryFailed _ => "WARNING"
  | _ => "DEBUG"

/-- The name of the log that a notice goes to. -/
def source : Notice → String
  | connecting _ => "typedquery.session"
  | _ => "typedquery.connection"

def message : Notice → String
  | connecting target => "Connecting to " ++ target
  | connected elapsed =>
    "Connection created in " ++ (Ticks.milliseconds elapsed).fixedText 3 ++ " ms"
  | connectionFailed error => "Connection failed: " ++ error.message
  | executing sql parameters =>
    "Executing " ++ sql ++ " with " ++ toString parameters ++ " parameter(s)"
  | queryFailed error => "Query failed: " ++ error.message
  | countFailed sql error => "Cannot count rows of " ++ sql ++ ": " ++ error.message

end Notice

end SqlTemplate
