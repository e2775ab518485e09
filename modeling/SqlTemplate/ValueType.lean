import SqlTemplate.BindKind
import SqlTemplate.Error.Failure
import SqlTemplate.Text.Blank
import SqlTemplate.Text.Lowercase
import SqlTemplate.Text.Split

/-!
The type codes of placeholders: which values each accepts, how it binds them, and the lists of
values that expand to a group of markers.
-/
namespace SqlTemplate

/-- The type of one bound value. -/
inductive ScalarType
  | integer
  | unsignedInteger
  | decimal
  | unsignedDecimal
  | string
  | escapedString
  | binary
  deriving DecidableEq, Repr

/-- The type of a list of bound values. -/
inductive ListType
  | any
  | integers
  | unsignedIntegers
  | decimals
  | unsignedDecimals
  | strings
  | escapedStrings
  deriving DecidableEq, Repr

/-- The type of what a placeholder stands for. -/
inductive ValueType
  | scalar (t : ScalarType)
  | list (t : ListType)
  deriving DecidableEq, Repr

namespace ScalarType

def all : List ScalarType :=
  [integer, unsignedInteger, decimal, unsignedDecimal, string, escapedString, binary]

def code : ScalarType → String
  | integer => "d"
  | unsignedInteger => "ud"
  | decimal => "f"
  | unsignedDecimal => "uf"
  | string => "s"
  | escapedString => "es"
  | binary => "b"

def description : ScalarType → String
  | integer => "integer"
  | unsignedInteger => "unsigned integer"
  | decimal => "decimal"
  | unsignedDecimal => "unsigned decimal"
  | string => "string"
  | escapedString => "escaped string"
  | binary => "binary"

/-- Decimals are bound as text, so that no digit is lost. -/
def kind : ScalarType → BindKind
  | integer => .number
  | unsignedInteger => .number
  | binary => .binary
  | _ => .text

/-- Whether texts are made safe for markup before they are bound. -/
def escapes : ScalarType → Bool
  | escapedString => true
  | _ => false

/-- One or more ASCII digits. -/
def isDigits (cs : List Char) : Bool :=
  !cs.isEmpty && cs.all Char.isDigit

/-- Digits, and possibly a point and more digits. -/
def isDecimal (cs : List Char) : Bool :=
  !(cs.takeWhile Char.isDigit).isEmpty &&
    match cs.dropWhile Char.isDigit with
    | [] => true
    | c :: part => c == '.' && isDigits part

def dropSign : List Char → List Char
  | '-' :: cs => cs
  | '+' :: cs => cs
  | cs => cs

/-- Whether a text has the shape of the type. -/
def acceptsText (t : ScalarType) (cs : List Char) : Bool :=
  match t with
  | integer => isDigits (dropSign cs)
  | unsignedInteger => isDigits cs
  | decimal => isDecimal (dropSign cs)
  | unsignedDecimal => isDecimal cs
  | string => true
  | escapedString => true
  | binary => true

/-- Whether the type asks for a shape at all. -/
def hasShape : ScalarType → Bool
  | integer => true
  | unsignedInteger => true
  | decimal => true
  | unsignedDecimal => true
  | _ => false

/-- Whether a value has the shape of the type, if its text is looked at and can be had. -/
def accepts (t : ScalarType) (v : Value) : Except ConversionError Bool :=
  if t.hasShape then v.toText.map fun s => t.acceptsText s.toList else .ok true

/-- What is wrong with a value, standing alone or in a list. -/
def check (t : ScalarType) (v : Value) (inList : Bool) : Option ArgumentError :=
  match t.accepts v with
  | .ok true => none
  | .ok false => some (.invalidData t.description inList v)
  | .error e => some (.noText e)

end ScalarType

namespace ListType

def all : List ListType :=
  [any, integers, unsignedIntegers, decimals, unsignedDecimals, strings, escapedStrings]

def code : ListType → String
  | any => "l"
  | integers => "ld"
  | unsignedIntegers => "lud"
  | decimals => "lf"
  | unsignedDecimals => "luf"
  | strings => "ls"
  | escapedStrings => "les"

def description : ListType → String
  | any => "list"
  | integers => "integer list"
  | unsignedIntegers => "unsigned integer list"
  | decimals => "decimal list"
  | unsignedDecimals => "unsigned decimal list"
  | strings => "string list"
  | escapedStrings => "escaped string list"

def element : ListType → ScalarType
  | any => .string
  | integers => .integer
  | unsignedIntegers => .unsignedInteger
  | decimals => .decimal
  | unsignedDecimals => .unsignedDecimal
  | strings => .string
  | escapedStrings => .escapedString

end ListType

namespace Value

/-- The elements of a list value: of a list or a tuple its own, of anything else the parts of its
text between commas, if it has a text. -/
def split : Value → Except ConversionError (List Value)
  | list vs => .ok vs
  | tuple vs => .ok vs
  | v => v.toText.map fun s =>
    (Text.splitOn ',' s.toList).map fun part => .text (String.ofList part)

/-- The elements of a list value, none if it cannot be split. -/
def elements (v : Value) : List Value :=
  match v.split with
  | .ok vs => vs
  | .error _ => []

theorem elements_of_ok {v : Value} {vs : List Value} (h : v.split = .ok vs) : v.elements = vs := by
  rw [elements, h]

theorem elements_of_error {v : Value} {e : ConversionError} (h : v.split = .error e) :
    v.elements = [] := by
  rw [elements, h]

end Value

namespace ValueType

def all : List ValueType :=
  ScalarType.all.map scalar ++ ListType.all.map list

def code : ValueType → String
  | scalar t => t.code
  | list t => t.code

def description : ValueType → String
  | scalar t => t.description
  | list t => t.description

/-- The type of each value that is bound. -/
def element : ValueType → ScalarType
  | scalar t => t
  | list t => t.element

def isList : ValueType → Bool
  | scalar _ => false
  | list _ => true

/-- The bind kind of the type itself; a list counts as text. -/
def kind : ValueType → BindKind
  | scalar t => t.kind
  | list _ => .text

def escapes : ValueType → Bool
  | scalar t => t.escapes
  | list _ => false

/-- The type as messages show it. -/
def quote (t : ValueType) : String :=
  "ValueType(" ++ t.code ++ ")"

/-- What is wrong with a value: of a list, what is wrong with its first bad element. -/
def check (t : ValueType) (v : Value) (inList : Bool := false) : Option ArgumentError :=
  match t with
  | scalar t => t.check v inList
  | list t =>
    match v.split with
    | .error e => some (.noText e)
    | .ok [] => some (.noValues t.description)
    | .ok vs => vs.findSome? (t.element.check · true)

/-- The type of a code, white space around it and upper case aside. -/
def ofCode (code : String) : Except ArgumentError ValueType :=
  match all.find? (·.code == Text.lower (Text.trimmed code)) with
  | some t => .ok t
  | none => .error (.unknownType code)

end ValueType

end SqlTemplate
