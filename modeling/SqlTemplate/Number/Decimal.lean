import SqlTemplate.Number.Binary64

/-!
Decimal texts of floating-point numbers: the fewest digits that read back as the same number, and a
fixed count of places.
-/
namespace SqlTemplate.Number

/-- A positive decimal number: `digits * 10 ^ exponent`. -/
structure Decimal where
  digits : Nat
  exponent : Int
  deriving DecidableEq, Repr

/-- The reals that round to one floating-point number, as numerators over a common denominator.
The ends belong to it if and only if the significand is even. -/
structure RoundingInterval where
  low : Nat
  center : Nat
  high : Nat
  den : Nat
  closed : Bool

namespace RoundingInterval

/-- The interval halfway to both neighbours; below a power of two the neighbour is half as far. -/
def of (significand : Nat) (exponent : Int) : RoundingInterval :=
  let below := if significand = pow2 52 ∧ -1074 < exponent then 1 else 2
  let (unit, den) := Binary64.ratio 1 (exponent - 2)
  { low := (4 * significand - below) * unit
    center := 4 * significand * unit
    high := (4 * significand + 2) * unit
    den
    closed := significand % 2 = 0 }

/-- Whether `num / den` lies in the interval. -/
def contains (i : RoundingInterval) (num den : Nat) : Bool :=
  if i.closed then i.low * den ≤ num * i.den && num * i.den ≤ i.high * den
  else i.low * den < num * i.den && num * i.den < i.high * den

/-- The center's better neighbour on the grid of multiples of `10 ^ exponent`, if one lies in the
interval: the only one that does, or else the nearer, or else the even one. -/
def onGrid? (i : RoundingInterval) (exponent : Int) : Option Nat :=
  let up := pow10 exponent.toNat
  let down := pow10 (-exponent).toNat
  let below := i.center * down / (i.den * up)
  let inside (g : Nat) := i.contains (g * up) down
  match inside below, inside (below + 1) with
  | true, true => some (roundDiv (i.center * down) (i.den * up))
  | true, false => some below
  | false, true => some (below + 1)
  | false, false => none

/-- The decimal number with the fewest digits in the interval. Seventeen digits always suffice. -/
def shortest (i : RoundingInterval) : Decimal :=
  let top := floorLog10 i.center i.den
  let found := (List.range 17).findSome? fun (k : Nat) =>
    (i.onGrid? (top - k)).map (Decimal.mk · (top - k))
  found.getD ⟨0, 0⟩

end RoundingInterval

/-- How a number's digits are laid out: written positionally as long as the exponent of the leading
digit stays within these bounds, with an exponent otherwise. -/
structure DecimalLayout where
  leastExponent : Int
  greatestExponent : Int
  /-- Written after a whole number in positional form. -/
  wholeSuffix : String
  exponentMark : String
  /-- The least count of digits in an exponent. -/
  exponentDigits : Nat
  nan : String
  infinity : String

/-- Numbers from `0.0001` to below `10 ^ 16` are positional. -/
def plainLayout : DecimalLayout where
  leastExponent := -4
  greatestExponent := 15
  wholeSuffix := ".0"
  exponentMark := "e"
  exponentDigits := 2
  nan := "nan"
  infinity := "inf"

def zeros (n : Nat) : String :=
  String.ofList (List.replicate n '0')

/-- The text of a positive decimal number. -/
def DecimalLayout.write (l : DecimalLayout) (d : Decimal) : String :=
  let digits := Nat.toDigits 10 d.digits
  let kept := (digits.reverse.dropWhile (· == '0')).reverse
  let lead := d.exponent + digits.length - 1
  if l.leastExponent ≤ lead ∧ lead ≤ l.greatestExponent then
    if lead < 0 then "0." ++ zeros (-lead - 1).toNat ++ String.ofList kept
    else
      let whole := kept.take (lead + 1).toNat
      let part := kept.drop (lead + 1).toNat
      let padding := zeros ((lead + 1).toNat - kept.length)
      String.ofList whole ++ padding ++
        (if part.isEmpty then l.wholeSuffix else "." ++ String.ofList part)
  else
    let places := toString lead.natAbs
    String.ofList (kept.take 1) ++
      (if kept.length = 1 then "" else "." ++ String.ofList (kept.drop 1)) ++
      l.exponentMark ++ (if lead < 0 then "-" else "+") ++
      zeros (l.exponentDigits - places.length) ++ places

namespace Binary64

def signText (negative : Bool) : String :=
  if negative then "-" else ""

/-- The fewest digits that read back as the same number. -/
def text (x : Binary64) (l : DecimalLayout := plainLayout) : String :=
  match x.read with
  | .nan => l.nan
  | .infinite negative => signText negative ++ l.infinity
  | .finite negative significand exponent =>
    signText negative ++
      if significand = 0 then "0" ++ l.wholeSuffix
      else l.write (RoundingInterval.of significand exponent).shortest

/-- The exact value rounded to `places` decimal places, a half to the even neighbour. -/
def fixedText (places : Nat) (x : Binary64) (l : DecimalLayout := plainLayout) : String :=
  match x.read with
  | .nan => l.nan
  | .infinite negative => signText negative ++ l.infinity
  | .finite negative significand exponent =>
    let (num, den) := ratio significand exponent
    let scaled := roundDiv (num * pow10 places) den
    let part := toString (scaled % pow10 places)
    signText negative ++ toString (scaled / pow10 places) ++
      (if places = 0 then "" else "." ++ zeros (places - part.length) ++ part)

end Binary64

end SqlTemplate.Number
