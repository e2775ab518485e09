/-!
How a value is bound: as text, as a whole number, or as bytes.
-/
namespace SqlTemplate

inductive BindKind
  | text
  | number
  | binary
  deriving DecidableEq, Repr

namespace BindKind

def all : List BindKind := [text, number, binary]

def name : BindKind → String
  | text => "STRING"
  | number => "NUMBER"
  | binary => "BINARY"

/-- The kind as messages show it. -/
def quote (k : BindKind) : String :=
  "TypeObject(" ++ k.name ++ ")"

/-- The types of values, by name, that a kind counts as equal to. -/
def typeNames : BindKind → List String
  | text => ["str"]
  | number => ["int"]
  | binary => ["bytes", "bytearray"]

end BindKind

/-- What a bind kind is compared with. -/
inductive KindOperand
  | kind (k : BindKind)
  | type (name : String)
  | nothing
  deriving DecidableEq, Repr

/-- A kind equals itself and the types of its values. -/
def BindKind.matches (k : BindKind) : KindOperand → Bool
  | .kind other => k == other
  | .type name => k.typeNames.contains name
  | .nothing => false

end SqlTemplate
