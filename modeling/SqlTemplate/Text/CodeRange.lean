/-!
Character classes given as tables of code point ranges.
-/
namespace SqlTemplate.Text

/-- The code points from the first to the second, both included. -/
abbrev CodeRange := Nat × Nat

def inRanges (rs : List CodeRange) (c : Char) : Bool :=
  rs.any fun r => r.1 ≤ c.toNat && c.toNat ≤ r.2

end SqlTemplate.Text
