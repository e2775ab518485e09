/-!
The parts of a list between separators.
-/
namespace SqlTemplate.Text

/-- The parts between separators; there is always one more of them than separators. -/
def splitOn {α : Type} [DecidableEq α] (separator : α) : List α → List (List α)
  | [] => [[]]
  | x :: xs =>
    if x = separator then [] :: splitOn separator xs
    else
      match splitOn separator xs with
      | [] => [[x]]
      | part :: parts => (x :: part) :: parts

end SqlTemplate.Text
