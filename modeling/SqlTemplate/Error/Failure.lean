import SqlTemplate.Error.Fault
import SqlTemplate.Ini.Document

/-!
Everything that can go wrong, as causes, and the wording of each cause.
-/
namespace SqlTemplate

/-- A malformed template, type code, value or setting. -/
inductive ArgumentError
  | unknownType (code : String)
  | noValues (description : String)
  | invalidData (description : String) (inList : Bool) (value : Value)
  /-- A value has no text that could be looked at. -/
  | noText (error : ConversionError)
  | noQuery
  | mixedBinding
  | invalidLocation (text : String)
  | invalidMode (mode : Value)
  | sequenceAndArguments
  | invalidSetting (name : String)
  | noErrorFile
  | unreadableSettings (error : Ini.Error)
  | noSection (name : String)
  deriving Repr

namespace ArgumentError

def errorClass : ArgumentError → ErrorClass
  | noText error => error.errorClass
  | _ => .invalidArgument

def message : ArgumentError → String
  | unknownType code => "The data type \"" ++ code ++ "\" is invalid."
  | noValues description => "No values provided for a \"" ++ description ++ "\" parameter."
  | invalidData description inList value =>
    "Invalid data for a \"" ++ description ++ (if inList then " list value" else "") ++
      "\" parameter (" ++ value.quote ++ ")."
  | noText error => error.message
  | noQuery => "No query provided."
  | mixedBinding => "You cannot have both inferred, and location binding in the same query."
  | invalidLocation text => "Invalid parameter number value (" ++ text ++ ")."
  | invalidMode mode => "Invalid query mode (" ++ mode.quote ++ ")."
  | sequenceAndArguments =>
    "Pass the query and its values either as one sequence or as separate arguments, not both."
  | invalidSetting name => "Invalid value provided for configuration value \"" ++ name ++ "\"."
  | noErrorFile => "Invalid Configuration.  Error file logging, but no error file provided."
  | unreadableSettings error => "Invalid INI string provided: " ++ error.message
  | noSection name => "Section \"" ++ name ++ "\" not found."

end ArgumentError

/-- The library was used in a way it does not allow. -/
inductive Misuse
  | queryFailed (error : DriverError)
  | noRows
  | unsupportedEngine (engine : Value)
  | noEngineDriver
  | noSettingsText
  | noSettingsFile (path : String)
  deriving Repr

def Misuse.message : Misuse → String
  | queryFailed error => "query failed: " ++ error.message
  | noRows => "query has no result rows"
  | unsupportedEngine engine => "Unsupported database engine \"" ++ engine.plain ++ "\""
  | noEngineDriver => "The mysql engine requires PyMySQL: pip install 'typedquery[mysql]'"
  | noSettingsText => "Configuration string not available"
  | noSettingsFile path => "Configuration file not available: " ++ path

/-- An operation met a value that it is not defined on. -/
inductive OperandError
  | unhashable (typeName : String)
  | noMember (typeName member : String)
  | noModuleMember (moduleName member : String)
  | noBitwiseAnd (left right : String)
  | notIterable (typeName : String)
  | notReal (typeName : String)
  | notPath (typeName : String)
  | noOrder (typeName : String)
  | emptyModuleName
  | intTooLarge
  | unexpectedArgument (callee name : String)
  | repeatedArgument (callee name : String)
  | repeatedKeyword (callee name : String)
  | tooFewForFormat
  | tooManyForFormat
  deriving DecidableEq, Repr

namespace OperandError

def errorClass : OperandError → ErrorClass
  | noMember .. => .member
  | noModuleMember .. => .member
  | emptyModuleName => .value
  | intTooLarge => .overflow
  | _ => .type

def message : OperandError → String
  | unhashable typeName => "unhashable type: '" ++ typeName ++ "'"
  | noMember typeName member => "'" ++ typeName ++ "' object has no attribute '" ++ member ++ "'"
  | noModuleMember moduleName member =>
    "module '" ++ moduleName ++ "' has no attribute '" ++ member ++ "'"
  | noBitwiseAnd left right =>
    "unsupported operand type(s) for &: '" ++ left ++ "' and '" ++ right ++ "'"
  | notIterable typeName => "'" ++ typeName ++ "' object is not iterable"
  | notReal typeName => "must be real number, not " ++ typeName
  | notPath typeName => "expected str, bytes or os.PathLike object, not " ++ typeName
  | noOrder typeName => "'<' not supported between instances of 'int' and '" ++ typeName ++ "'"
  | emptyModuleName => "Empty module name"
  | intTooLarge => "int too large to convert to float"
  | unexpectedArgument callee name =>
    callee ++ "() got an unexpected keyword argument '" ++ name ++ "'"
  | repeatedArgument callee name =>
    callee ++ "() got multiple values for argument '" ++ name ++ "'"
  | repeatedKeyword callee name =>
    callee ++ "() got multiple values for keyword argument '" ++ name ++ "'"
  | tooFewForFormat => "not enough arguments for format string"
  | tooManyForFormat => "not all arguments converted during string formatting"

end OperandError

/-- Why a path leads to no file. -/
inductive PathError
  | missing
  | notDirectory
  | isDirectory
  | nameTooLong
  | nulInName
  deriving DecidableEq, Repr

/-- A file that cannot be opened. -/
inductive FileError
  /-- The path is shown as messages show it. -/
  | path (error : PathError) (shown : String)
  | negativeDescriptor
  | badDescriptor
  deriving DecidableEq, Repr

namespace FileError

def errorClass : FileError → ErrorClass
  | path .missing _ => .missingFile
  | path .notDirectory _ => .notDirectory
  | path .isDirectory _ => .isDirectory
  | path .nameTooLong _ => .system
  | path .nulInName _ => .value
  | negativeDescriptor => .value
  | badDescriptor => .system

def message : FileError → String
  | path .missing shown => "[Errno 2] No such file or directory: " ++ shown
  | path .notDirectory shown => "[Errno 20] Not a directory: " ++ shown
  | path .isDirectory shown => "[Errno 21] Is a directory: " ++ shown
  | path .nameTooLong shown => "[Errno 36] File name too long: " ++ shown
  | path .nulInName _ => "embedded null byte"
  | negativeDescriptor => "negative file descriptor"
  | badDescriptor => "[Errno 9] Bad file descriptor"

end FileError

/-- How an operation fails. -/
inductive Failure
  | argument (error : ArgumentError)
  | outOfBounds (index : Nat)
  | misuse (error : Misuse)
  | driver (error : DriverError)
  /-- An error of a driver or a hook that no handler took. -/
  | fault (fault : Fault)
  | conversion (error : ConversionError)
  | operand (error : OperandError)
  | noKey (key : Value)
  | noRow (index : Int)
  /-- What ends a walk over rows came up within one. -/
  | brokenWalk
  | file (error : FileError)
  deriving Repr

namespace Failure

def errorClass : Failure → ErrorClass
  | argument e => e.errorClass
  | outOfBounds _ => .outOfBounds
  | misuse _ => .misuse
  | driver _ => .driverFailure
  | fault f => f.errorClass
  | conversion e => e.errorClass
  | operand e => e.errorClass
  | noKey _ => .key
  | noRow _ => .index
  | brokenWalk => .runtime
  | file e => e.errorClass

def message : Failure → String
  | argument e => e.message
  | outOfBounds index =>
    "The specified parameter location is invalid (" ++ toString index ++ ")."
  | misuse e => e.message
  | driver e => e.message
  | fault f => f.message
  | conversion e => e.message
  | operand e => e.message
  | noKey key => key.quote
  | noRow index => "row " ++ toString index ++ " is out of range"
  | brokenWalk => "generator raised StopIteration"
  | file e => e.message

/-- A failure whose message shows a value. An integer with too many digits cannot be shown. -/
def showing (v : Value) (e : Failure) : Failure :=
  if v.overlong then .conversion .unwritten else e

theorem showing_short {v : Value} (short : v.overlong = false) (e : Failure) :
    showing v e = e := by
  rw [showing, short]
  rfl

theorem showing_overlong {v : Value} (long : v.overlong = true) (e : Failure) :
    showing v e = .conversion .unwritten := by
  rw [showing, long]
  rfl

/-- An error as it leaves a driver or a hook; one of the driver-failure class is this library's. -/
def ofFault (f : Fault) : Failure :=
  if f.errorClass = .driverFailure then .driver (.ofFault f) else .fault f

/-- A failure as it leaves a walk over rows. -/
def leaveWalk (e : Failure) : Failure :=
  if e.errorClass = .endOfWalk then .brokenWalk else e

end Failure

namespace Value

/-- The value that a message's one place shows: a tuple gives its elements to the places. -/
def formatArgument : Value → Except OperandError Value
  | tuple [v] => .ok v
  | tuple [] => .error .tooFewForFormat
  | tuple _ => .error .tooManyForFormat
  | v => .ok v

end Value

end SqlTemplate
