/-!
Classes of errors. A handler names a class and takes every error of that class or of one below it.
-/
namespace SqlTemplate

inductive ErrorClass
  /-- Every error, and every request to stop. -/
  | base
  /-- Every error. -/
  | any
  -- The classes that the driver at work has.
  | driver
  | database
  | operational
  | integrity
  | programming
  /-- The general class of a driver that is not at work. -/
  | foreign
  -- The classes of this library.
  | own
  | misuse
  | invalidArgument
  | outOfBounds
  | driverFailure
  -- The general classes.
  | interrupt
  | exit
  | abandonedWalk
  | arithmetic
  | floatingPoint
  | overflow
  | zeroDivision
  | assertion
  | member
  | buffer
  | endOfInput
  | module
  | missingModule
  | lookup
  | index
  | key
  | memory
  | unknownName
  | unboundName
  | system
  | blocking
  | childProcess
  | connection
  | brokenPipe
  | connectionAborted
  | connectionRefused
  | connectionReset
  | existingFile
  | missingFile
  | interruptedCall
  | isDirectory
  | notDirectory
  | permission
  | missingProcess
  | timeout
  | reference
  | runtime
  | notImplemented
  | recursion
  | endOfWalk
  | endOfAsyncWalk
  | grammar
  | indentation
  | tab
  | internal
  | type
  | value
  | unicode
  | encoding
  | warning
  | bytesWarning
  | deprecation
  | encodingWarning
  | futureWarning
  | importWarning
  | pendingDeprecation
  | resourceWarning
  | runtimeWarning
  | grammarWarning
  | unicodeWarning
  | userWarning
  deriving DecidableEq, Repr

namespace ErrorClass

def name : ErrorClass → String
  | base => "BaseException"
  | any => "Exception"
  | driver => "Error"
  | database => "DatabaseError"
  | operational => "OperationalError"
  | integrity => "IntegrityError"
  | programming => "ProgrammingError"
  | foreign => "Error"
  | own => "Error"
  | misuse => "InterfaceError"
  | invalidArgument => "InvalidArgumentError"
  | outOfBounds => "OutOfBoundsError"
  | driverFailure => "DriverError"
  | interrupt => "KeyboardInterrupt"
  | exit => "SystemExit"
  | abandonedWalk => "GeneratorExit"
  | arithmetic => "ArithmeticError"
  | floatingPoint => "FloatingPointError"
  | overflow => "OverflowError"
  | zeroDivision => "ZeroDivisionError"
  | assertion => "AssertionError"
  | member => "AttributeError"
  | buffer => "BufferError"
  | endOfInput => "EOFError"
  | module => "ImportError"
  | missingModule => "ModuleNotFoundError"
  | lookup => "LookupError"
  | index => "IndexError"
  | key => "KeyError"
  | memory => "MemoryError"
  | unknownName => "NameError"
  | unboundName => "UnboundLocalError"
  | system => "OSError"
  | blocking => "BlockingIOError"
  | childProcess => "ChildProcessError"
  | connection => "ConnectionError"
  | brokenPipe => "BrokenPipeError"
  | connectionAborted => "ConnectionAbortedError"
  | connectionRefused => "ConnectionRefusedError"
  | connectionReset => "ConnectionResetError"
  | existingFile => "FileExistsError"
  | missingFile => "FileNotFoundError"
  | interruptedCall => "InterruptedError"
  | isDirectory => "IsADirectoryError"
  | notDirectory => "NotADirectoryError"
  | permission => "PermissionError"
  | missingProcess => "ProcessLookupError"
  | timeout => "TimeoutError"
  | reference => "ReferenceError"
  | runtime => "RuntimeError"
  | notImplemented => "NotImplementedError"
  | recursion => "RecursionError"
  | endOfWalk => "StopIteration"
  | endOfAsyncWalk => "StopAsyncIteration"
  | grammar => "SyntaxError"
  | indentation => "IndentationError"
  | tab => "TabError"
  | internal => "SystemError"
  | type => "TypeError"
  | value => "ValueError"
  | unicode => "UnicodeError"
  | encoding => "UnicodeEncodeError"
  | warning => "Warning"
  | bytesWarning => "BytesWarning"
  | deprecation => "DeprecationWarning"
  | encodingWarning => "EncodingWarning"
  | futureWarning => "FutureWarning"
  | importWarning => "ImportWarning"
  | pendingDeprecation => "PendingDeprecationWarning"
  | resourceWarning => "ResourceWarning"
  | runtimeWarning => "RuntimeWarning"
  | grammarWarning => "SyntaxWarning"
  | unicodeWarning => "UnicodeWarning"
  | userWarning => "UserWarning"

/-- The class right above. -/
def parent? : ErrorClass → Option ErrorClass
  | base => none
  | any => some base
  | database => some driver
  | operational => some database
  | integrity => some database
  | programming => some database
  | misuse => some own
  | invalidArgument => some own
  | outOfBounds => some own
  | driverFailure => some own
  | interrupt => some base
  | exit => some base
  | abandonedWalk => some base
  | floatingPoint => some arithmetic
  | overflow => some arithmetic
  | zeroDivision => some arithmetic
  | missingModule => some module
  | index => some lookup
  | key => some lookup
  | unboundName => some unknownName
  | blocking => some system
  | childProcess => some system
  | connection => some system
  | brokenPipe => some connection
  | connectionAborted => some connection
  | connectionRefused => some connection
  | connectionReset => some connection
  | existingFile => some system
  | missingFile => some system
  | interruptedCall => some system
  | isDirectory => some system
  | notDirectory => some system
  | permission => some system
  | missingProcess => some system
  | timeout => some system
  | notImplemented => some runtime
  | recursion => some runtime
  | indentation => some grammar
  | tab => some indentation
  | unicode => some value
  | encoding => some unicode
  | bytesWarning => some warning
  | deprecation => some warning
  | encodingWarning => some warning
  | futureWarning => some warning
  | importWarning => some warning
  | pendingDeprecation => some warning
  | resourceWarning => some warning
  | runtimeWarning => some warning
  | grammarWarning => some warning
  | unicodeWarning => some warning
  | userWarning => some warning
  | _ => some any

/-- The class itself and up to `n` classes above it. -/
def climb : Nat → ErrorClass → List ErrorClass
  | 0, c => [c]
  | n + 1, c =>
    match c.parent? with
    | none => [c]
    | some p => c :: climb n p

/-- The class itself and all classes above it, of which there are at most four. -/
def lineage (c : ErrorClass) : List ErrorClass :=
  climb 4 c

/-- Four steps reach the top from everywhere. -/
theorem lineage_of_parent {c p : ErrorClass} (h : c.parent? = some p) :
    c.lineage = c :: p.lineage := by
  cases c <;> cases h <;> rfl

/-- Whether an error of class `c` is also one of class `d`. -/
def isA (c d : ErrorClass) : Bool :=
  c.lineage.contains d

/-- The classes of this library, the general one first. -/
def ownClasses : List ErrorClass :=
  [own, misuse, invalidArgument, outOfBounds, driverFailure]

/-- The classes that the driver at work has, the general one first. -/
def driverClasses : List ErrorClass :=
  [driver, database, operational, integrity, programming]

/-- The classes of every program. -/
def generalClasses : List ErrorClass :=
  [any, base, interrupt, exit, abandonedWalk, arithmetic, floatingPoint, overflow, zeroDivision,
    assertion, member, buffer, endOfInput, module, missingModule, lookup, index, key, memory,
    unknownName, unboundName, system, blocking, childProcess, connection, brokenPipe,
    connectionAborted, connectionRefused, connectionReset, existingFile, missingFile,
    interruptedCall, isDirectory, notDirectory, permission, missingProcess, timeout, reference,
    runtime, notImplemented, recursion, endOfWalk, endOfAsyncWalk, grammar, indentation, tab,
    internal, type, value, unicode, encoding, warning, bytesWarning, deprecation, encodingWarning,
    futureWarning, importWarning, pendingDeprecation, resourceWarning, runtimeWarning,
    grammarWarning, unicodeWarning, userWarning]

end ErrorClass

end SqlTemplate
