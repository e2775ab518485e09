import SqlTemplate.Error.Fault

/-!
A database driver, as its callers see it: it records each call, takes time for it, and answers or
fails as its script says.
-/
namespace SqlTemplate

/-- A time span in clock ticks. The clock may be set back. -/
abbrev Ticks := Int

/-- The calls that a driver takes, by name. -/
inductive Operation
  | connect
  | cursor
  | begin
  | commit
  | rollback
  | close
  | execute
  | setInputSizes
  | fetchOne
  | scroll
  | closeCursor
  deriving DecidableEq, Repr

/-- A call with its arguments. Calls of a cursor carry its number. -/
inductive Call
  | connect (positional : List Value) (keywords : List (String × Value))
  /-- Asks for a cursor, which is to have this number. -/
  | cursor (number : Nat)
  | begin
  | commit
  | rollback
  | close
  /-- Absent values were not passed at all. -/
  | execute (cursor : Nat) (sql : String) (values : Option (List Value))
  | setInputSizes (cursor : Nat) (sizes : List Value)
  | fetchOne (cursor : Nat)
  | scroll (cursor : Nat) (index : Int)
  | closeCursor (cursor : Nat)
  deriving Repr

def Call.operation : Call → Operation
  | connect .. => .connect
  | cursor _ => .cursor
  | begin => .begin
  | commit => .commit
  | rollback => .rollback
  | close => .close
  | execute .. => .execute
  | setInputSizes .. => .setInputSizes
  | fetchOne _ => .fetchOne
  | scroll .. => .scroll
  | closeCursor _ => .closeCursor

/-- A call and how it ended. -/
structure Exchange where
  call : Call
  /-- What the call failed with, if it did. -/
  failure : Option Fault
  deriving Repr

/-- What a driver offers, and how it presents itself. -/
structure Features where
  moduleName : String
  /-- What follows the module's name in the name of the connection's own module. -/
  submodule : String := ""
  importable : Bool := true
  paramstyle : Option String := none
  /-- The error class that the module exposes. -/
  moduleError : Option ErrorClass := some .driver
  /-- The error class that a connection exposes. -/
  connectionError : Option ErrorClass := none
  hasBegin : Bool := false
  hasSetInputSizes : Bool := false
  hasScroll : Bool := false
  hasRowCount : Bool := true
  hasLastRowId : Bool := true
  hasDescription : Bool := true
  deriving Repr

/-- What an executed statement brings back. -/
structure Reply where
  rowCount : Option Int := some (-1)
  lastRowId : Value := .null
  columns : Option (List String) := none
  rows : List Value := []
  error : Option Fault := none
  ticks : Ticks := 0
  /-- Whether moving beyond the last row fails. -/
  strict : Bool := false
  deriving Repr

structure Driver where
  features : Features
  /-- The time, in ticks. -/
  clock : Ticks := 0
  /-- The calls made so far. -/
  history : List Exchange := []
  /-- The number of cursors handed out so far. -/
  cursors : Nat := 0
  /-- How long each call takes. -/
  ticks : Operation → Ticks := fun _ => 0
  /-- For each call the failures still to come; `none` lets one call pass. -/
  faults : Operation → List (Option Fault) := fun _ => []
  /-- The replies still to come. -/
  replies : List Reply := []

namespace Driver

def advance (d : Driver) (ticks : Ticks) : Driver :=
  { d with clock := d.clock + ticks }

/-- Uses up the failure that a call meets, if any. -/
def takeFault (d : Driver) (o : Operation) : Option Fault × Driver :=
  ((d.faults o).head?.join,
    { d with faults := fun p => if p = o then (d.faults p).drop 1 else d.faults p })

/-- Lets the time of a call pass; then it may meet a failure. -/
def meet (d : Driver) (o : Operation) : Option Fault × Driver :=
  (d.advance (d.ticks o)).takeFault o

def takeReply (d : Driver) : Reply × Driver :=
  (d.replies.head?.getD {}, { d with replies := d.replies.drop 1 })

def note (d : Driver) (e : Exchange) : Driver :=
  { d with history := d.history ++ [e] }

/-- Makes later calls of an operation fail. -/
def addFaults (d : Driver) (o : Operation) (fs : List (Option Fault)) : Driver :=
  { d with faults := fun p => if p = o then d.faults p ++ fs else d.faults p }

end Driver

end SqlTemplate
