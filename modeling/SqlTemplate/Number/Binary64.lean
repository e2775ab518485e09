import SqlTemplate.Number.Round

/-!
Floating-point numbers of 64 bits, read exactly: a finite one is a whole significand times a power
of two, so comparing, truncating and printing need only natural numbers.
-/
namespace SqlTemplate.Number

/-- A sign bit, eleven bits of exponent and fifty-two bits of fraction. -/
structure Binary64 where
  bits : UInt64
  deriving DecidableEq, Repr

namespace Binary64

/-- What the bits stand for. A finite number is `significand * 2 ^ exponent`, negated or not. -/
inductive Reading
  | nan
  | infinite (negative : Bool)
  | finite (negative : Bool) (significand : Nat) (exponent : Int)
  deriving DecidableEq, Repr

def negative (x : Binary64) : Bool :=
  pow2 63 ≤ x.bits.toNat

def exponentField (x : Binary64) : Nat :=
  x.bits.toNat / pow2 52 % pow2 11

def fractionField (x : Binary64) : Nat :=
  x.bits.toNat % pow2 52

def read (x : Binary64) : Reading :=
  if x.exponentField = 2047 then
    if x.fractionField = 0 then .infinite x.negative else .nan
  else if x.exponentField = 0 then .finite x.negative x.fractionField (-1074)
  else .finite x.negative (pow2 52 + x.fractionField) ((x.exponentField : Int) - 1075)

def nan : Binary64 := ⟨0x7ff8000000000000⟩

def infinity (negative : Bool) : Binary64 :=
  ⟨if negative then 0xfff0000000000000 else 0x7ff0000000000000⟩

/-- Numerator and denominator of `significand * 2 ^ exponent`. -/
def ratio (significand : Nat) (exponent : Int) : Nat × Nat :=
  if 0 ≤ exponent then (significand * pow2 exponent.toNat, 1)
  else (significand, pow2 (-exponent).toNat)

/-- The magnitude bits of the number nearest to `num / den`. A significand that rounds up to the
next power of two carries into the exponent field, which is the right number again. -/
def magnitudeBits (num den : Nat) : Nat :=
  let exponent := max (floorLog2 num den - 52) (-1074)
  let significand :=
    if 0 ≤ exponent then roundDiv num (den * pow2 exponent.toNat)
    else roundDiv (num * pow2 (-exponent).toNat) den
  (exponent + 1074).toNat * pow2 52 + significand

/-- The number nearest to `num / den`, negated or not; `none` where it is too large. -/
def ofRatio? (negative : Bool) (num den : Nat) : Option Binary64 :=
  let magnitude := if num = 0 then 0 else magnitudeBits num den
  if 0x7ff0000000000000 ≤ magnitude then none
  else some ⟨UInt64.ofNat (magnitude + if negative then pow2 63 else 0)⟩

def ofInt? (n : Int) : Option Binary64 :=
  ofRatio? (n < 0) n.natAbs 1

/-- The number nearest to `digits * 10 ^ exponent`, an infinity where it is too large. -/
def ofDecimal (negative : Bool) (digits : Nat) (exponent : Int) : Binary64 :=
  let nearest :=
    if 0 ≤ exponent then ofRatio? negative (digits * pow10 exponent.toNat) 1
    else ofRatio? negative digits (pow10 (-exponent).toNat)
  nearest.getD (infinity negative)

/-- The whole part of a finite number, toward zero. -/
def truncate (negative : Bool) (significand : Nat) (exponent : Int) : Int :=
  let (num, den) := ratio significand exponent
  let whole : Int := num / den
  if negative then -whole else whole

/-- A finite number as a count of units of `2 ^ unit`, which is not above its own exponent. -/
def units (unit : Int) (negative : Bool) (significand : Nat) (exponent : Int) : Int :=
  let count : Int := significand * pow2 (exponent - unit).toNat
  if negative then -count else count

/-- The number nearest to the exact sum. Two zeros give a negative one only if both are. -/
def add (x y : Binary64) : Binary64 :=
  match x.read, y.read with
  | .nan, _ => nan
  | _, .nan => nan
  | .infinite a, .infinite b => if a = b then infinity a else nan
  | .infinite a, _ => infinity a
  | _, .infinite b => infinity b
  | .finite a m e, .finite b n f =>
    let unit := min e f
    let sum := units unit a m e + units unit b n f
    let negative := if sum = 0 then a && b else decide (sum < 0)
    let (num, den) := ratio sum.natAbs unit
    (ofRatio? negative num den).getD (infinity negative)

def isZero (x : Binary64) : Bool :=
  x.bits.toNat % pow2 63 = 0

/-- Numeric equality: a nan equals nothing, and the two zeros are equal. -/
def equals (x y : Binary64) : Bool :=
  match x.read, y.read with
  | .nan, _ => false
  | _, .nan => false
  | _, _ => x == y || (x.isZero && y.isZero)

/-- How many natural numbers are less than a number, absent if all are. -/
def naturalsBelow (x : Binary64) : Option Nat :=
  match x.read with
  | .nan => some 0
  | .infinite negative => if negative then some 0 else none
  | .finite negative significand exponent =>
    let (num, den) := ratio significand exponent
    some (if negative then 0 else (num + den - 1) / den)

/-- Whether the number is exactly the integer `n`. -/
def equalsInt (x : Binary64) (n : Int) : Bool :=
  match x.read with
  | .finite negative significand exponent =>
    let (num, den) := ratio significand exponent
    num == n.natAbs * den && (n == 0 || negative == decide (n < 0))
  | _ => false

end Binary64

end SqlTemplate.Number
