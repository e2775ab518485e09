import SqlTemplate.Session
import SqlTemplate.Text.Word

/-!
How many rows a statement brings back, where the driver does not say: a second statement counts
them.
-/
namespace SqlTemplate

namespace RowCount

/-- The upper-case ASCII letter that a letter is a form of, in any case. -/
def baseLetter (c : Char) : Char :=
  if c = 'ſ' then 'S' else c.toUpper

/-- Whether a text begins with a word, in any case, that ends where the letters given end. -/
def startsWithWord (word cs : List Char) : Bool :=
  (cs.take word.length).map baseLetter == word && !((cs.drop word.length).head?.any Text.isWord)

/-- Whether a statement selects rows, which its first word says; a parenthesis may come before. -/
def selects (sql : String) : Bool :=
  let cs := Text.trimLeft sql.toList
  let inner := match cs with
    | '(' :: rest => Text.trimLeft rest
    | _ => cs
  startsWithWord "SELECT".toList inner

/-- The statement that counts the rows of another. The line feed ends a comment that ends it. -/
def countingSql (sql : String) : String :=
  "SELECT COUNT(*) FROM (" ++ sql ++ "\n) AS typedquery_count"

/-- Runs the counting statement and gives its one row. -/
def countingRow (sql : String) (parameters : List BoundParameter) :
    Action Failure (Live Session) (Option Row) := do
  let counter ← Session.prepare (countingSql sql)
  Live.onNew counter <|
    Action.ensuring (do Statement.bindAll parameters; Statement.execute; Statement.fetchOne)
      Statement.close

/-- The number in the first column of a row, or -1 without one. -/
def ofRow (row : Option Row) : Except ConversionError Int :=
  match row with
  | some ((_, v) :: _) => v.toInteger
  | _ => .ok (-1)

end RowCount

end SqlTemplate
