import SqlTemplate.Error.Class
import SqlTemplate.Text.Quoted
import SqlTemplate.Value.Conversion

/-!
Errors that come from a driver, and what this library makes of them.
-/
namespace SqlTemplate

/-- An error as a driver or a hook raises it. -/
structure Fault where
  errorClass : ErrorClass
  /-- Absent if the error carries no text. -/
  text : Option String
  deriving DecidableEq, Repr

/-- What an error says that carries no text: nothing, or that there is none. -/
def ErrorClass.silence (c : ErrorClass) : String :=
  if c = .driverFailure || c.isA .grammar then Value.null.quote else ""

/-- What an error says; a missing key is quoted. -/
def Fault.message (f : Fault) : String :=
  match f.text with
  | none => f.errorClass.silence
  | some s => if f.errorClass = .key then Text.quoted s else s

/-- Why the library gives up on a driver. -/
inductive DriverTrouble
  | statementClosed
  | invalidPosition (position : Int)
  | unbindable (position : Int) (error : ConversionError)
  | unbound (position : Nat)
  | noDescription
  | noScroll
  | connectionClosed
  | transactionActive
  | notOpen
  /-- The driver failed with an error of its own. -/
  | reported (fault : Fault)
  /-- The driver or a hook raised an error of this very class. -/
  | announced (text : String)
  deriving Repr

structure DriverError where
  trouble : DriverTrouble
  /-- The error in whose handling this one was raised. -/
  raisedFrom : Option Fault := none
  deriving Repr

namespace DriverError

def message (e : DriverError) : String :=
  match e.trouble with
  | .statementClosed => "statement is closed"
  | .invalidPosition position => "invalid parameter position " ++ toString position
  | .unbindable position error =>
    "cannot bind parameter " ++ toString position ++ ": " ++ error.message
  | .unbound position => "parameter " ++ toString position ++ " is not bound"
  | .noDescription => "statement has no description; cannot map rows"
  | .noScroll => "cursor does not support absolute positioning"
  | .connectionClosed => "connection is closed"
  | .transactionActive => "a transaction is already active"
  | .notOpen => "connection is not open"
  | .reported fault =>
    if fault.message = "" then fault.errorClass.name
    else fault.errorClass.name ++ ": " ++ fault.message
  | .announced text => text

/-- What a driver's error becomes: one of this class stays as it is. -/
def ofFault (f : Fault) : DriverError :=
  if f.errorClass = .driverFailure then ⟨.announced f.message, none⟩ else ⟨.reported f, none⟩

/-- What a driver's error becomes when it is caught and raised again. -/
def wrap (f : Fault) : DriverError :=
  { ofFault f with raisedFrom := some f }

end DriverError

namespace ConversionError

def errorClass : ConversionError → ErrorClass
  | notNumber _ => .type
  | notNumeral _ => .value
  | tooManyDigits _ => .value
  | unwritten => .value
  | nan => .value
  | infinite => .overflow
  | notBinary _ => .type
  | notLatin1 .. => .encoding

end ConversionError

/-- The class of the driver's error, or of the failed conversion, that an error carries. -/
def DriverError.driverError? (e : DriverError) : Option ErrorClass :=
  match e.trouble with
  | .unbindable _ error => some error.errorClass
  | .reported fault => some fault.errorClass
  | _ => none

end SqlTemplate
