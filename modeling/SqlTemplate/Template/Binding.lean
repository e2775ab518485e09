import SqlTemplate.Action
import SqlTemplate.Template.Piece
import SqlTemplate.ValueType

/-!
Which argument each placeholder takes, and what it becomes: a bind marker, or a group of them.
-/
namespace SqlTemplate

/-- A value and the type it is bound as. -/
structure BoundParameter where
  value : Value
  type : ValueType
  deriving Repr

/-- Equality of parameters: equal values of the same type. -/
def BoundParameter.equals (p q : BoundParameter) : Bool :=
  p.value.equals q.value && p.type == q.type

/-- The parameter as messages show it. -/
def BoundParameter.quote (p : BoundParameter) : String :=
  "BoundParameter(" ++ p.value.quote ++ ", " ++ p.type.quote ++ ")"

namespace Template

/-- What the placeholders read so far say about those that follow. -/
structure Numbering where
  /-- A placeholder gave its location. -/
  located : Bool := false
  /-- A placeholder left its location to be inferred. -/
  inferred : Bool := false
  /-- The argument of the next placeholder without a location. -/
  next : Nat := 0
  deriving DecidableEq, Repr

abbrev NumberingAction := Action Failure Numbering

/-- The index of a placeholder's argument. Either all placeholders give their location or none. What
a placeholder says is noted even if it is refused. -/
def resolve (p : Placeholder) : NumberingAction Nat := do
  match p.location with
  | none =>
    modify ({ · with inferred := true })
    let n ← get
    if n.located then throw (.argument .mixedBinding)
    set { n with next := n.next + 1 }
    return n.next
  | some location =>
    modify ({ · with located := true })
    if (← get).inferred then throw (.argument .mixedBinding)
    if !location.all Char.isDigit then
      throw (.argument (.invalidLocation (String.ofList location)))
    match Value.toInteger (.text (String.ofList location)) with
    | .ok index => return index.toNat
    | .error e => throw (.conversion e)

/-- The text that replaces a placeholder and the values it binds. A list becomes a group in
parentheses with one marker for each element. -/
def expand (t : ValueType) (v : Value) (marker : String := "?") :
    Except ArgumentError (String × List Value) :=
  match t with
  | .scalar _ => .ok (marker, [v])
  | .list l =>
    match v.split with
    | .error e => .error (.noText e)
    | .ok [] => .error (.noValues l.description)
    | .ok vs => .ok ("(" ++ ",".intercalate (vs.map fun _ => marker) ++ ")", vs)

/-- The marker that shares its first character with text of the template. -/
def formatMarker : String := "%s"

/-- A character of the template as the driver must receive it: where markers start with a percent
sign, one that stands for itself is doubled. -/
def literal (marker : String) (c : Char) : List Char :=
  if marker = formatMarker ∧ c = '%' then ['%', '%'] else [c]

/-- Checks and expands one placeholder. -/
def bind (marker : String) (arguments : List Value) (index : Nat) (code : List Char) :
    Except Failure (String × List BoundParameter) := do
  match arguments[index]? with
  | none => .error (.outOfBounds index)
  | some v =>
    let t ← (ValueType.ofCode (String.ofList code)).mapError .argument
    match t.check v with
    | some e => .error (.argument e)
    | none =>
      let (text, vs) ← (expand t v marker).mapError .argument
      .ok (text, vs.map (⟨·, .scalar t.element⟩))

/-- The text and the parameters that the pieces of a template give. -/
def render (marker : String) (arguments : List Value) :
    List Piece → NumberingAction (List Char × List BoundParameter)
  | [] => return ([], [])
  | .char c :: rest => do
    let (sql, parameters) ← render marker arguments rest
    return (literal marker c ++ sql, parameters)
  | .hole p :: rest => do
    let index ← resolve p
    let (text, own) ← Action.ofExcept (bind marker arguments index p.code)
    let (sql, parameters) ← render marker arguments rest
    return (text.toList ++ sql, own ++ parameters)

end Template

/-- A template with its arguments, and the statement and parameters they make. -/
structure ParsedQuery where
  /-- The template without white space around it and without one semicolon at its end. -/
  template : String
  arguments : List Value
  sql : String
  parameters : List BoundParameter
  deriving Repr

/-- A reader of templates. What the placeholders of a template said is kept until the next template
is read. -/
structure Parser where
  dialect : Dialect
  marker : String := "?"
  numbering : Template.Numbering := {}
  deriving Repr

namespace Parser

abbrev ParserAction := Action Failure Parser

/-- Reads a template and binds its arguments. -/
def parse (template : Value) (arguments : List Value) : ParserAction ParsedQuery := do
  match template with
  | .text s =>
    modify ({ · with numbering := {} })
    let parser ← get
    let cs := Template.clean s
    let (sql, parameters) ←
      (Template.render parser.marker arguments (Template.pieces parser.dialect cs)).within
        (·.numbering) (fun n p => { p with numbering := n })
    return { template := String.ofList cs, arguments, sql := String.ofList sql, parameters }
  | _ => throw (.argument .noQuery)

end Parser

/-- Reads a template with a parser of its own. -/
def Template.parse (d : Dialect) (marker : String) (template : Value) (arguments : List Value) :
    Except Failure ParsedQuery :=
  (Parser.parse template arguments).outcome { dialect := d, marker }

/-- The dialect of a query mode. A mode is looked up as a key, so any value that equals the number
of a dialect names it. -/
def Dialect.ofMode (mode : Value) : Except Failure Dialect :=
  match mode.unhashable? with
  | some typeName => .error (.operand (.unhashable typeName))
  | none =>
    if mode.equals (.int 0) then .ok .basic
    else if mode.equals (.int 1) then .ok .classic
    else
      match mode.formatArgument with
      | .ok shown => .error (.showing shown (.argument (.invalidMode shown)))
      | .error e => .error (.operand e)

end SqlTemplate
