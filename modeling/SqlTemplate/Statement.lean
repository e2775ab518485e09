import SqlTemplate.Driver.Cursor
import SqlTemplate.Template.Binding
import SqlTemplate.Text.Entity

/-!
A statement on a driver's cursor. Values are bound by position, counted from one, and sent when the
statement is executed; the rows it brings back are read as mappings from column names.
-/
namespace SqlTemplate

/-- A row: column names with their values. -/
abbrev Row := List (Value × Value)

structure Statement where
  cursor : Cursor
  sql : String
  /-- The class of the driver's errors. -/
  errorClass : ErrorClass := .any
  closed : Bool := false
  /-- The values bound so far, by position. -/
  values : List (Nat × Value) := []
  /-- The length hints given so far, by position. -/
  sizes : List (Nat × Value) := []
  deriving Repr

namespace Statement

/-- Stores under a position, in place of what was there. -/
def store {α : Type} (position : Nat) (x : α) : List (Nat × α) → List (Nat × α)
  | [] => [(position, x)]
  | (p, y) :: rest => if p = position then (p, x) :: rest else (p, y) :: store position x rest

abbrev StatementAction := Action Failure (Live Statement)

/-- Runs an action of the cursor; errors of the given classes become this library's. -/
def onCursor {α : Type} (caught : List ErrorClass) (m : Action Fault (Live Cursor) α) :
    StatementAction α :=
  (Live.onPart (·.cursor) (fun c s => { s with cursor := c }) m).mapFailure (Driver.handle caught)

def checkOpen : StatementAction Unit := do
  if (← get).it.closed then throw (.driver ⟨.statementClosed, none⟩)

/-- What is sent for a value of a kind: numbers, plain bytes or text. An absent value stays. -/
def convert (kind : BindKind) (v : Value) : Except ConversionError Value :=
  if v.isNull then .ok v
  else
    match kind with
    | .number => v.toInteger.map .int
    | .binary => v.toBytes.map (.bytes .plain)
    | .text => v.toText.map .text

/-- The failure of a bind for some trouble with it, which its message tells by the position. -/
def troubleAt (position : Int) (trouble : DriverTrouble) : Failure :=
  .showing (.int position) (.driver ⟨trouble, none⟩)

/-- What a failed conversion leads to; an infinite number is not a matter of its form. -/
def conversionFailure (position : Int) (e : ConversionError) : Failure :=
  if e.errorClass.isA .type || e.errorClass.isA .value then
    troubleAt position (.unbindable position e)
  else .conversion e

/-- Binds a value to the marker at a position. -/
def bind (position : Int) (v : Value) (kind : BindKind := .text) (size : Value := .null) :
    StatementAction Unit := do
  checkOpen
  if position < 1 then throw (troubleAt position (.invalidPosition position))
  let sent ← Action.ofExcept ((convert kind v).mapError (conversionFailure position))
  modify fun s =>
    { s with
      it.values := store position.toNat sent s.it.values
      it.sizes := store position.toNat size s.it.sizes }

/-- What is bound for a parameter, and the length of its text, null for all else. A value that is
given as text must have one. -/
def parameterValue (p : BoundParameter) : Except ConversionError (Value × Value) :=
  match p.type.kind with
  | .text =>
    if p.value.isNull then .ok (p.value, .null)
    else p.value.toText.map fun s =>
      if p.type.escapes then
        (.text (Text.escapeMarkup s), .int (Text.escapeMarkup s).length)
      else (p.value, .int s.length)
  | _ => .ok (p.value, .null)

def bindParameter (position : Nat) (p : BoundParameter) : StatementAction Unit := do
  let (v, size) ← Action.ofExcept ((parameterValue p).mapError .conversion)
  bind position v p.type.kind size

/-- Binds parameters at the positions from `position` on. -/
def bindFrom (position : Nat) : List BoundParameter → StatementAction Unit
  | [] => pure ()
  | p :: ps => do
    bindParameter position p
    bindFrom (position + 1) ps

def bindAll (ps : List BoundParameter) : StatementAction Unit :=
  bindFrom 1 ps

/-- The number of values an execution sends: the greatest position bound. -/
def count (s : Statement) : Nat :=
  s.values.foldl (fun n p => max n p.1) 0

/-- What is stored at the positions from `position` on, `n` of them, or the first that is free. -/
def collect {α : Type} (bound : List (Nat × α)) (position : Nat) : Nat → Except Nat (List α)
  | 0 => .ok []
  | n + 1 =>
    match bound.lookup position with
    | none => .error position
    | some x => (collect bound (position + 1) n).map (x :: ·)

/-- The errors that an execution handles besides those of the driver's class: drivers fail with
these on values that they cannot convert. -/
def executionErrors : List ErrorClass := [.overflow, .type, .value]

/-- Sends the statement and its values. -/
def execute : StatementAction Unit := do
  checkOpen
  let s ← get
  match collect s.it.values 1 s.it.count, collect s.it.sizes 1 s.it.count with
  | .ok values, .ok sizes =>
    onCursor (s.it.errorClass :: executionErrors) do
      if s.driver.features.hasSetInputSizes && !values.isEmpty then Cursor.setInputSizes sizes
      Cursor.execute s.it.sql (some values)
  | .error missing, _ => throw (.driver ⟨.unbound missing, none⟩)
  | _, .error missing => throw (.driver ⟨.unbound missing, none⟩)

/-- The number of rows that the driver reports, or -1. -/
def rowCount (s : Live Statement) : Int :=
  if s.driver.features.hasRowCount then
    match s.it.cursor.rowCount with
    | some n => if n < 0 then -1 else n
    | none => -1
  else -1

def lastRowId (s : Live Statement) : Value :=
  if s.driver.features.hasLastRowId then s.it.cursor.lastRowId else .null

/-- The names of the columns, if the statement brought rows back. -/
def columns (s : Live Statement) : Option (List String) :=
  if s.driver.features.hasDescription then s.it.cursor.columns else none

def canScroll (s : Live Statement) : Bool :=
  s.driver.features.hasScroll

/-- What a row is made of when its columns are read one after the other. -/
def cells : Value → Except OperandError (List Value)
  | .list vs => .ok vs
  | .tuple vs => .ok vs
  | .text s => .ok (s.toList.map fun c => .text c.toString)
  | .bytes _ data => .ok (data.map fun b => .int b.toNat)
  | .dict es => .ok (es.map (·.1))
  | v => .error (.notIterable v.typeName)

/-- A row as a mapping: a dictionary is one, and cells take the names of their columns. -/
def rowMapping (columns : Option (List String)) (row : Value) : Except Failure Row :=
  match row with
  | .dict es => .ok es
  | _ =>
    match columns with
    | none => .error (.driver ⟨.noDescription, none⟩)
    | some [] => .error (.driver ⟨.noDescription, none⟩)
    | some names =>
      match cells row with
      | .ok vs => .ok ((names.zip vs).foldl (fun es p => Value.insert (.text p.1) p.2 es) [])
      | .error e => .error (.operand e)

/-- The next row, or nothing at the end. -/
def fetchOne : StatementAction (Option Row) := do
  checkOpen
  let s ← get
  match columns s with
  | none => pure none
  | some names =>
    let row ← onCursor [s.it.errorClass] Cursor.fetchOne
    if row.isNull then pure none
    else some <$> Action.ofExcept (rowMapping (some names) row)

/-- Moves the cursor, so that the row of this index is the next. -/
def scroll (index : Int) : StatementAction Unit := do
  checkOpen
  let s ← get
  if !canScroll s then throw (.driver ⟨.noScroll, none⟩)
  onCursor [s.it.errorClass, .index] (Cursor.scroll index)

/-- Gives the cursor back. Only the first call does anything. -/
def close : StatementAction Unit := do
  let s ← get
  if s.it.closed then return
  set { s with it.closed := true }
  onCursor [s.it.errorClass] Cursor.close

end Statement

end SqlTemplate
