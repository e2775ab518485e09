import SqlTemplate.RowCursor

/-!
The result of a query: what was asked, what was run and what came back. Its rows are read until it
is closed, forward, by iterating or by index.
-/
namespace SqlTemplate

/-- Where the rows of a result come from. -/
inductive RowSource
  /-- No statement brought rows back. -/
  | absent
  | attached (rows : RowCursor)
  /-- The result was closed; only iterations that had begun still know the rows. -/
  | released (rows : RowCursor)
  deriving Repr

def RowSource.rows? : RowSource → Option RowCursor
  | absent => none
  | attached rows => some rows
  | released rows => some rows

/-- Puts another state of the same rows in place. -/
def RowSource.withRows (s : RowSource) (rows : RowCursor) : RowSource :=
  match s with
  | absent => absent
  | attached _ => attached rows
  | released _ => released rows

structure QueryResult extends ParsedQuery where
  success : Bool := false
  /-- How many rows there are or were changed, -1 if that is not known. -/
  numberOfRows : Option Int := none
  insertId : Value := .null
  /-- The error that the query failed with. -/
  exception : Option DriverError := none
  source : RowSource := .absent
  /-- How many rows are fetched at a time unless a number is given. -/
  arraySize : Value := .int 1
  deriving Repr

namespace QueryResult

abbrev ResultAction := Action Failure (Live QueryResult)

/-- A result of which nothing was run yet. -/
def ofParsed (q : ParsedQuery) : QueryResult :=
  { q with }

/-- A result of a query that was never parsed. -/
def ofTemplate (template : String) (arguments : List Value) : QueryResult :=
  { template, arguments, sql := template, parameters := [] }

def isAttached (r : QueryResult) : Bool :=
  match r.source with
  | .attached _ => true
  | _ => false

/-- Attaches the executed statement that rows are read from. -/
def attach (r : QueryResult) (s : Live Statement) (sequential : Bool) : QueryResult :=
  { r with source := .attached (RowCursor.ofStatement s sequential) }

/-- The failure of reading rows that are not there. -/
def noRows (r : QueryResult) : Failure :=
  match r.exception with
  | some e => .misuse (.queryFailed e)
  | none => .misuse .noRows

/-- Runs an action on given rows of the result. -/
def onCursor {α : Type} (rows : RowCursor) (m : Action Failure (Live RowCursor) α) :
    ResultAction α :=
  Live.onPart (fun _ => rows) (fun c r => { r with source := r.source.withRows c }) m

/-- Runs an action on the rows, if they can be read. -/
def onRows {α : Type} (m : Action Failure (Live RowCursor) α) : ResultAction α := do
  let r := (← get).it
  match r.source with
  | .attached rows => onCursor rows m
  | _ => throw r.noRows

def fetchOne : ResultAction (Option Row) :=
  onRows RowCursor.fetchOne

def fetchMany (size : Value := .null) : ResultAction (List Row) := do
  let r := (← get).it
  onRows (RowCursor.fetchMany (if size.isNull then r.arraySize else size))

def fetchAll : ResultAction (List Row) :=
  onRows RowCursor.fetchAll

/-- A walk over the rows from the next one on. -/
inductive Iteration
  | fresh
  | running
  | ended
  deriving DecidableEq, Repr

/-- The next row of a walk. One that has begun goes on with the rows it began with. -/
def next (i : Iteration) : ResultAction (Option Row × Iteration) := do
  let r := (← get).it
  match i, r.source with
  | .ended, _ => return (none, .ended)
  | .fresh, .attached rows => step rows
  | .fresh, _ => throw r.noRows
  | .running, source =>
    match source.rows? with
    | some rows => step rows
    | none => return (none, .ended)
where
  step (rows : RowCursor) : ResultAction (Option Row × Iteration) := do
    match ← (onCursor rows RowCursor.fetchOne).mapFailure Failure.leaveWalk with
    | none => return (none, .ended)
    | some row => return (some row, .running)

/-- Up to `n` rows of a walk. -/
def take (i : Iteration) : Nat → ResultAction (List Row)
  | 0 => return []
  | n + 1 => do
    match ← next i with
    | (none, _) => return []
    | (some row, i) => return row :: (← take i n)

/-- The rows of a new walk, all of them or up to a limit. -/
def iterate (limit : Option Nat) : ResultAction (List Row) := do
  let all := ((← get).it.source.rows?.map RowCursor.bound).getD 1
  take .fresh (limit.getD all)

/-- The value of a key in a row. -/
def cell (row : Row) (key : Value) : Except Failure Value :=
  match key.unhashable? with
  | some typeName => .error (.operand (.unhashable typeName))
  | none =>
    match Value.find? key row with
    | some v => .ok v
    | none => .error (.noKey key)

/-- A row by its index, or a column of the first row by its name. -/
def item (key : Value) : ResultAction Value := do
  match key with
  | .int index =>
    match ← onRows (RowCursor.get? index) with
    | some row => return .dict row
    | none => throw (.showing key (.noRow index))
  | _ =>
    match ← onRows (RowCursor.get? 0) with
    | some row => Action.ofExcept (cell row key)
    | none => throw (.noKey key)

/-- Whether there is a row of an index, or a column of a name. -/
def has (key : Value) : ResultAction Bool :=
  Action.recover (do let _ ← item key; return true) fun e =>
    if e.errorClass.isA .index || e.errorClass.isA .key then return false else throw e

/-- Gives the statement back; rows can no longer be read. -/
def close : ResultAction Unit := do
  match (← get).it.source with
  | .attached rows =>
    modify fun s => { s with it.source := .released rows }
    onCursor rows RowCursor.close
  | _ => return ()

/-- The result as messages show it. -/
def quote (r : QueryResult) : String :=
  "<QueryResult " ++ Text.quoted r.sql ++ " success=" ++ (Value.bool r.success).quote ++
    " rows=" ++ (r.numberOfRows.elim Value.null .int).quote ++ ">"

end QueryResult

end SqlTemplate
