import SqlTemplate.Connection.Basic

/-!
Transactions and the end of a connection. What fails is reported as the settings ask for.
-/
namespace SqlTemplate

namespace Client

/-- Runs an action, and reports it if it fails on the driver. -/
def reporting (m : ClientAction Unit) : ClientAction Unit :=
  m.recover fun e =>
    match e with
    | .driver e => report e
    | e => throw e

def startTransaction : ClientAction Unit :=
  reporting (onSession Session.begin)

def commit : ClientAction Unit :=
  reporting (onSession Session.commit)

def rollback : ClientAction Unit :=
  reporting (onSession Session.rollback)

def close : ClientAction Unit := do
  if (← get).connection.session.isSome then reporting (onSession Session.close)

/-- Ends a transaction that is open: it is kept unless the work in it failed. -/
def settle (failed : Bool) : ClientAction Unit := do
  match (← get).connection.session with
  | some s => if !s.closed && s.inTransaction then if failed then rollback else commit
  | none => return ()

/-- Leaves a block of work: ends its transaction and closes the connection. -/
def leave (failed : Bool) : ClientAction Unit :=
  (settle failed).ensuring close

end Client

end SqlTemplate
