import SqlTemplate.Driver.Live

/-!
A driver's cursor: it runs one statement at a time and hands out the rows of the last one.
-/
namespace SqlTemplate

structure Cursor where
  /-- The place in which the driver handed the cursor out. -/
  number : Nat := 0
  rowCount : Option Int := some (-1)
  lastRowId : Value := .null
  /-- The names of the columns, once a statement has brought some back. -/
  columns : Option (List String) := none
  rows : List Value := []
  /-- The row that is handed out next; a negative one counts from the end. -/
  position : Int := 0
  strict : Bool := false
  deriving Repr

namespace Cursor

/-- A row by its index, counted from the end if it is negative. -/
def rowAt? (c : Cursor) (index : Int) : Option Value :=
  if 0 ≤ index then c.rows[index.toNat]?
  else if -index ≤ c.rows.length then c.rows[(c.rows.length + index).toNat]? else none

/-- The state after a statement that succeeded. -/
def withReply (c : Cursor) (r : Reply) : Cursor where
  number := c.number
  rowCount := r.rowCount
  lastRowId := r.lastRowId
  columns := r.columns
  rows := r.rows
  strict := r.strict

abbrev CursorAction := Action Fault (Live Cursor)

/-- Runs a statement. Its reply is used up even if the call fails. -/
def execute (sql : String) (values : Option (List Value)) : CursorAction Unit := do
  let c := (← get).it
  let call := Call.execute c.number sql values
  let reply ← Live.onDriver (modifyGet (·.takeReply))
  match ← Live.onDriver (modifyGet (·.meet .execute)) with
  | some f => Live.onDriver (Driver.finish call (some f))
  | none =>
    Live.onDriver do
      modify (·.advance reply.ticks)
      Driver.finish call reply.error
    modify fun s => { s with it := c.withReply reply }

def setInputSizes (sizes : List Value) : CursorAction Unit := do
  Live.onDriver (Driver.call (.setInputSizes (← get).it.number sizes))

/-- Hands out the next row, and nothing at the end. -/
def fetchOne : CursorAction Value := do
  Live.onDriver (Driver.call (.fetchOne (← get).it.number))
  modifyGet fun s =>
    match s.it.rowAt? s.it.position with
    | some row => (row, { s with it.position := s.it.position + 1 })
    | none => (.null, s)

/-- What a strict cursor fails with. -/
def outOfRange : Fault := ⟨.index, some "scroll position out of range"⟩

/-- Makes the row of an index the next. A strict cursor fails beyond its last row. -/
def scroll (index : Int) : CursorAction Unit := do
  let c := (← get).it
  let met ← Live.onDriver (modifyGet (·.meet .scroll))
  let beyond := if c.strict ∧ (c.rows.length : Int) ≤ index then some outOfRange else none
  Live.onDriver (Driver.finish (.scroll c.number index) (met.or beyond))
  modify fun s => { s with it.position := index }

def close : CursorAction Unit := do
  Live.onDriver (Driver.call (.closeCursor (← get).it.number))

end Cursor

/-- Hands out a new cursor. -/
def Driver.newCursor : Action Fault Driver Cursor := do
  let number := (← get).cursors
  Driver.call (.cursor number)
  modify fun d => { d with cursors := number + 1 }
  return { number }

end SqlTemplate
