import SqlTemplate.Text.Blank

/-!
The lines of a settings text: headers in brackets, options with `=` or `:`, comments, and what
continues the option above because it is indented further.
-/
namespace SqlTemplate.Ini

/-- What one line says, without regard to the lines above it. -/
inductive Line
  | blank
  | comment
  | header (name : List Char)
  | option (key value : List Char)
  /-- Neither a header nor an option. -/
  | other
  deriving DecidableEq, Repr

def isDelimiter (c : Char) : Bool :=
  c == '=' || c == ':'

/-- The name in a header: everything from the opening bracket to the last closing one. -/
def headerName? : List Char → Option (List Char)
  | '[' :: cs =>
    match cs.reverse.dropWhile (· != ']') with
    | _ :: c :: name => some (c :: name).reverse
    | _ => none
  | _ => none

/-- Key and value around the first delimiter. -/
def keyValue? (cs : List Char) : Option (List Char × List Char) :=
  match cs.dropWhile (!isDelimiter ·) with
  | [] => none
  | _ :: value => some (Text.trimRight (cs.takeWhile (!isDelimiter ·)), Text.trim value)

namespace Line

/-- Reads a line whose white space at both ends is gone. -/
def ofTrimmed (cs : List Char) : Line :=
  match cs with
  | [] => .blank
  | '#' :: _ => .comment
  | ';' :: _ => .comment
  | _ =>
    match headerName? cs with
    | some name => .header name
    | none =>
      match keyValue? cs with
      | some (key, value) => .option key value
      | none => .other

def read (cs : List Char) : Line :=
  ofTrimmed (Text.trim cs)

end Line

/-- How far a line is indented. -/
def indentation (cs : List Char) : Nat :=
  (cs.takeWhile Text.isBlank).length

/-- The lines of a text, each with the line feed that ends it. -/
def lines : List Char → List (List Char)
  | [] => []
  | '\n' :: cs => ['\n'] :: lines cs
  | c :: cs =>
    match lines cs with
    | [] => [[c]]
    | l :: ls =>
      (c :: l) :: ls

end SqlTemplate.Ini
