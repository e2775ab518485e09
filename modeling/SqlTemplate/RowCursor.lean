import SqlTemplate.Statement

/-!
Reading the rows of an executed statement forward and by index. Every row that was read is kept by
its index; a sequential cursor reaches a later row by reading on, any other by moving the driver's
cursor.
-/
namespace SqlTemplate

structure RowCursor where
  statement : Statement
  sequential : Bool
  /-- The index of the row that is read next. -/
  position : Nat := 0
  /-- The rows read so far, by index. -/
  rows : List (Nat × Row) := []
  /-- Whether the end was met since the last move. -/
  complete : Bool := false
  deriving Repr

namespace RowCursor

abbrev RowAction := Action Failure (Live RowCursor)

/-- A cursor on an executed statement; it is sequential if the driver's cursor cannot be moved. -/
def ofStatement (s : Live Statement) (sequential : Bool := true) : RowCursor where
  statement := s.it
  sequential := sequential || !Statement.canScroll s

def onStatement {α : Type} (m : Action Failure (Live Statement) α) : RowAction α :=
  Live.onPart (·.statement) (fun s c => { c with statement := s }) m

/-- The next row, or nothing at the end. After the end the driver is not asked again. -/
def fetchOne : RowAction (Option Row) := do
  if (← get).it.complete then return none
  match ← onStatement Statement.fetchOne with
  | none =>
    modify fun s => { s with it.complete := true }
    return none
  | some row =>
    modify fun s =>
      { s with
        it.rows := Statement.store s.it.position row s.it.rows
        it.position := s.it.position + 1 }
    return some row

/-- Up to `n` rows. -/
def fetchUpTo : Nat → RowAction (List Row)
  | 0 => return []
  | n + 1 => do
    match ← fetchOne with
    | none => return []
    | some row => return row :: (← fetchUpTo n)

/-- How many rows the driver can still hand out, and one more. -/
def bound (c : RowCursor) : Nat :=
  (c.statement.cursor.rows.length - c.statement.cursor.position).toNat + 1

/-- All rows that are left. -/
def fetchAll : RowAction (List Row) := do
  fetchUpTo (← get).it.bound

/-- Rows as long as there are fewer of them than a number says. -/
def fetchMany (size : Value) : RowAction (List Row) := do
  match size.naturalsBelow with
  | .ok (some n) => fetchUpTo n
  | .ok none => fetchAll
  | .error typeName => throw (.operand (.noOrder typeName))

/-- Reads forward, at most `n` rows; tells whether there were that many. -/
def readForward : Nat → RowAction Bool
  | 0 => return true
  | n + 1 => do
    match ← fetchOne with
    | none => return false
    | some _ => readForward n

/-- The row of an index, or nothing if there is no such row. -/
def get? (index : Int) : RowAction (Option Row) := do
  if index < 0 then return none
  let i := index.toNat
  let c := (← get).it
  match c.rows.lookup i with
  | some row => return some row
  | none =>
    if c.sequential then
      if ← readForward (i + 1 - c.position) then return (← get).it.rows.lookup i
      else return none
    else
      onStatement (Statement.scroll index)
      modify fun s => { s with it.position := i, it.complete := false }
      fetchOne

/-- Forgets the rows and closes the statement. -/
def close : RowAction Unit := do
  modify fun s => { s with it.rows := [] }
  onStatement Statement.close

end RowCursor

end SqlTemplate
