/-!
Ends of lines: a carriage return, a line feed, or one after the other.
-/
namespace SqlTemplate.Text

/-- Ends of lines of every kind as line feeds. -/
def unifyLineEnds : List Char → List Char
  | [] => []
  | '\r' :: '\n' :: cs => '\n' :: unifyLineEnds cs
  | '\r' :: cs => '\n' :: unifyLineEnds cs
  | c :: cs => c :: unifyLineEnds cs

/-- The content of a file as it is read: with line feeds alone. -/
def readContent (s : String) : String :=
  String.ofList (unifyLineEnds s.toList)

end SqlTemplate.Text
