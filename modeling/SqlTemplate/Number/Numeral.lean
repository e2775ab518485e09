import SqlTemplate.Text.Blank
import SqlTemplate.Text.Digit

/-!
Whole numbers written in decimal digits of any script: white space around them, a sign, and single
underscores between digits.
-/
namespace SqlTemplate.Number

/-- Why a text is not read as a whole number. -/
inductive NumeralError
  | malformed
  /-- It has more than `digitLimit` digits, zeros in front included. -/
  | tooLong (digits : Nat)
  deriving DecidableEq, Repr

/-- The most digits that are read, and the most that are written. -/
def digitLimit : Nat := 4300

/-- White space that may surround a numeral: the information separators may not. -/
def isNumeralBlank (c : Char) : Bool :=
  Text.isBlank c && !(28 ≤ c.toNat && c.toNat ≤ 31)

/-- A digit, or an underscore between digits. -/
def isNumeralChar (c : Char) : Bool :=
  c == '_' || (Text.digitValue? c).isSome

/-- The digits of a run in which each underscore stands between two digits. -/
def groupedDigits? : List Char → Option (List Nat)
  | [] => none
  | '_' :: _ => none
  | [c] => (Text.digitValue? c).map ([·])
  | c :: '_' :: cs => do
    let d ← Text.digitValue? c
    let ds ← groupedDigits? cs
    some (d :: ds)
  | c :: cs => do
    let d ← Text.digitValue? c
    let ds ← groupedDigits? cs
    some (d :: ds)

def ofDigits (ds : List Nat) : Nat :=
  ds.foldl (fun n d => 10 * n + d) 0

/-- The sign in front of a numeral, and what follows it. -/
def takeSign : List Char → Bool × List Char
  | '-' :: cs => (true, cs)
  | '+' :: cs => (false, cs)
  | cs => (false, cs)

/-- The whole number that `cs` writes. The length is judged before what follows the digits. -/
def readInteger (cs : List Char) : Except NumeralError Int :=
  let (negative, body) := takeSign (cs.dropWhile isNumeralBlank)
  match groupedDigits? (body.takeWhile isNumeralChar) with
  | none => .error .malformed
  | some ds =>
    if digitLimit < ds.length then .error (.tooLong ds.length)
    else if (body.dropWhile isNumeralChar).all isNumeralBlank then
      .ok (if negative then -(ofDigits ds) else ofDigits ds)
    else .error .malformed

end SqlTemplate.Number
