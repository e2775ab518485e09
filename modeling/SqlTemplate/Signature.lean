import SqlTemplate.Error.Failure

/-!
Named arguments, and which of them a callee takes.
-/
namespace SqlTemplate

/-- Values given by name. -/
abbrev Arguments := List (String × Value)

/-- What a callee takes by name. -/
structure Signature where
  /-- The callee as messages name it. -/
  callee : String
  /-- Parameters that are given before any argument is looked at. -/
  given : List String
  /-- Parameters that arguments may give. -/
  free : List String
  deriving Repr

namespace Arguments

/-- The value of an argument, null if it is not given. -/
def valueOf (arguments : Arguments) (name : String) : Value :=
  (arguments.lookup name).getD .null

end Arguments

/-- Why a callee refuses its arguments: the first one that it does not take. -/
def Signature.refusal? (s : Signature) (arguments : Arguments) : Option OperandError :=
  arguments.findSome? fun a =>
    if s.given.contains a.1 then some (.repeatedArgument s.callee a.1)
    else if s.free.contains a.1 then none
    else some (.unexpectedArgument s.callee a.1)

end SqlTemplate
