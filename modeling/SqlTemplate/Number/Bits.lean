/-!
Integers as sets of bits. A negative one has all but finitely many.
-/
namespace SqlTemplate.Number

/-- The bits that `m` has and `n` has not. -/
def bitDiff (m n : Nat) : Nat :=
  m - (m &&& n)

/-- The bits that two integers share. -/
def bitAnd : Int → Int → Int
  | .ofNat m, .ofNat n => .ofNat (m &&& n)
  | .ofNat m, .negSucc n => .ofNat (bitDiff m n)
  | .negSucc m, .ofNat n => .ofNat (bitDiff n m)
  | .negSucc m, .negSucc n => .negSucc (m ||| n)

end SqlTemplate.Number
