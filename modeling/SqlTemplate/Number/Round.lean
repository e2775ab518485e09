/-!
Rounding a quotient of natural numbers to the nearest natural number.
-/
namespace SqlTemplate.Number

/-- `num / den` to the nearest, a half to the even neighbour. -/
def roundDiv (num den : Nat) : Nat :=
  let q := num / den
  let twice := 2 * (num % den)
  if twice < den then q
  else if den < twice then q + 1
  else q + q % 2

def pow2 (n : Nat) : Nat :=
  Nat.pow 2 n

def pow10 (n : Nat) : Nat :=
  Nat.pow 10 n

/-- The exponent of the largest power of two that is not above `num / den`. -/
def floorLog2 (num den : Nat) : Int :=
  let e := (num.log2 : Int) - den.log2
  let reached := if 0 ≤ e then den * pow2 e.toNat ≤ num else den ≤ num * pow2 (-e).toNat
  if reached then e else e - 1

/-- The exponent of the largest power of ten that is not above `num / den`. -/
def floorLog10 (num den : Nat) : Int :=
  let e := ((Nat.toDigits 10 num).length : Int) - (Nat.toDigits 10 den).length
  let reached := if 0 ≤ e then den * pow10 e.toNat ≤ num else den ≤ num * pow10 (-e).toNat
  if reached then e else e - 1

end SqlTemplate.Number
