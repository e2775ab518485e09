import Mathlib.Tactic.Positivity
import Mathlib.Tactic.Ring
import Mathlib.Tactic.SplitIfs
import SqlTemplate.Connection.Log

/-!
The order of floating-point numbers, and that a longer time takes no fewer milliseconds. The bits of a
magnitude number the magnitudes from zero upward, so rounding to them keeps the order.
-/
namespace SqlTemplate

namespace Number

theorem pow2_eq (n : Nat) : pow2 n = 2 ^ n := rfl

/-! ## Rounding -/

section
variable {num num' den q : Nat}

theorem roundDiv_near (num den : Nat) :
    num / den ≤ roundDiv num den ∧ roundDiv num den ≤ num / den + 1 := by
  simp only [roundDiv]
  split_ifs <;> omega

theorem le_roundDiv (pos : 0 < den) (h : q * den ≤ num) : q ≤ roundDiv num den := by
  have below : q ≤ num / den := (Nat.le_div_iff_mul_le pos).mpr h
  have near := (roundDiv_near num den).1
  omega

theorem roundDiv_le (pos : 0 < den) (h : num ≤ q * den) : roundDiv num den ≤ q := by
  have below : num / den ≤ q := Nat.div_le_of_le_mul (Nat.mul_comm q den ▸ h)
  by_cases reached : num / den = q
  · have division := Nat.div_add_mod num den
    have remainder : num % den = 0 := by
      rw [reached, Nat.mul_comm] at division
      omega
    simp [roundDiv, remainder, reached, pos]
  · have near := (roundDiv_near num den).2
    omega

theorem roundDiv_mono (h : num ≤ num') : roundDiv num den ≤ roundDiv num' den := by
  have division := Nat.div_add_mod num den
  have division' := Nat.div_add_mod num' den
  have below : num / den ≤ num' / den := Nat.div_le_div_right h
  by_cases same : num / den = num' / den
  · have remainder : num % den ≤ num' % den := by
      rw [same] at division
      omega
    simp only [roundDiv, same]
    split_ifs <;> omega
  · have near := (roundDiv_near num den).2
    have near' := (roundDiv_near num' den).1
    omega

end

/-! ## Magnitudes -/

namespace Binary64

theorem floorLog2_of_den {n : Nat} (pos : n ≠ 0) : floorLog2 n 1024 = (n.log2 : Int) - 10 := by
  have log : Nat.log2 1024 = 10 := by decide
  have reached : 2 ^ n.log2 ≤ n := Nat.log2_self_le pos
  simp only [floorLog2, log, pow2_eq]
  apply if_pos
  by_cases above : (0 : Int) ≤ (n.log2 : Int) - (10 : Nat)
  · rw [if_pos above]
    have exponent : n.log2 = 10 + ((n.log2 : Int) - (10 : Nat)).toNat := by omega
    calc 1024 * 2 ^ ((n.log2 : Int) - (10 : Nat)).toNat
        = 2 ^ n.log2 := by rw [show 1024 = 2 ^ 10 from rfl, ← Nat.pow_add, ← exponent]
      _ ≤ n := reached
  · rw [if_neg above]
    have exponent : 10 = n.log2 + (-((n.log2 : Int) - (10 : Nat))).toNat := by omega
    calc 1024 = 2 ^ n.log2 * 2 ^ (-((n.log2 : Int) - (10 : Nat))).toNat := by
          rw [← Nat.pow_add, ← exponent]
      _ ≤ _ := Nat.mul_le_mul_right _ reached

/-- The significand of `n / 1024`, which is shifted to the right or to the left. -/
def significand (n : Nat) : Nat :=
  roundDiv (n * 2 ^ (62 - n.log2)) (1024 * 2 ^ (n.log2 - 62))

theorem magnitudeBits_of_den {n : Nat} (pos : n ≠ 0) :
    magnitudeBits n 1024 = (n.log2 + 1012) * 2 ^ 52 + significand n := by
  have least : max ((n.log2 : Int) - 10 - 52) (-1074) = (n.log2 : Int) - 62 := by omega
  have field : ((n.log2 : Int) - 62 + 1074).toNat = n.log2 + 1012 := by omega
  simp only [magnitudeBits, floorLog2_of_den pos, least, field, significand, pow2_eq]
  by_cases right : (0 : Int) ≤ (n.log2 : Int) - 62
  · have none : 62 - n.log2 = 0 := by omega
    have shift : ((n.log2 : Int) - 62).toNat = n.log2 - 62 := by omega
    rw [if_pos right, none, shift, Nat.pow_zero, Nat.mul_one]
  · have none : n.log2 - 62 = 0 := by omega
    have shift : (-((n.log2 : Int) - 62)).toNat = 62 - n.log2 := by omega
    rw [if_neg right, none, shift, Nat.pow_zero, Nat.mul_one]

theorem significand_bounds {n : Nat} (pos : n ≠ 0) :
    2 ^ 52 ≤ significand n ∧ significand n ≤ 2 ^ 53 := by
  have den : 0 < 1024 * 2 ^ (n.log2 - 62) := by positivity
  have balance : 62 + (n.log2 - 62) = n.log2 + (62 - n.log2) := by omega
  constructor
  · apply le_roundDiv den
    calc 2 ^ 52 * (1024 * 2 ^ (n.log2 - 62))
        = 2 ^ (62 + (n.log2 - 62)) := by rw [Nat.pow_add]; ring
      _ = 2 ^ n.log2 * 2 ^ (62 - n.log2) := by rw [balance, Nat.pow_add]
      _ ≤ n * 2 ^ (62 - n.log2) := Nat.mul_le_mul_right _ (Nat.log2_self_le pos)
  · apply roundDiv_le den
    calc n * 2 ^ (62 - n.log2)
        ≤ 2 ^ (n.log2 + 1) * 2 ^ (62 - n.log2) :=
          Nat.mul_le_mul_right _ (Nat.le_of_lt Nat.lt_log2_self)
      _ = 2 * 2 ^ (n.log2 + (62 - n.log2)) := by rw [Nat.pow_succ, Nat.pow_add]; ring
      _ = 2 ^ 53 * (1024 * 2 ^ (n.log2 - 62)) := by rw [← balance, Nat.pow_add]; ring

theorem magnitudeBits_mono {m n : Nat} (pos : m ≠ 0) (h : m ≤ n) :
    magnitudeBits m 1024 ≤ magnitudeBits n 1024 := by
  have pos' : n ≠ 0 := by omega
  have log : m.log2 ≤ n.log2 := by
    apply (Nat.le_log2 pos').mpr
    exact Nat.le_trans (Nat.log2_self_le pos) h
  rw [magnitudeBits_of_den pos, magnitudeBits_of_den pos']
  by_cases same : m.log2 = n.log2
  · have rounds : significand m ≤ significand n := by
      unfold significand
      rw [same]
      exact roundDiv_mono (Nat.mul_le_mul_right _ h)
    rw [same]
    exact Nat.add_le_add_left rounds _
  · have upper := (significand_bounds pos).2
    have lower := (significand_bounds pos').1
    omega

/-! ## Order -/

def top : Nat := 0x7ff0000000000000

/-- The number with given magnitude bits, negated or not. -/
def ofMagnitude (negative : Bool) (m : Nat) : Binary64 :=
  ⟨UInt64.ofNat (m + if negative then pow2 63 else 0)⟩

/-- What magnitude bits stand for, in units of the least magnitude above zero. -/
def weight (m : Nat) : Nat :=
  if m / 2 ^ 52 = 0 then m else (2 ^ 52 + m % 2 ^ 52) * 2 ^ (m / 2 ^ 52 - 1)

/-- The order of numbers. No number is at most a nan, nor a nan at most a number. -/
def AtMost (x y : Binary64) : Prop :=
  match x.read, y.read with
  | .nan, _ => False
  | _, .nan => False
  | .infinite a, .infinite b => b = true → a = true
  | .infinite a, _ => a = true
  | _, .infinite b => b = false
  | .finite a m e, .finite b n f => units (-1074) a m e ≤ units (-1074) b n f

section
variable {m m' : Nat}

theorem weight_mono (h : m ≤ m') : weight m ≤ weight m' := by
  have fields := Nat.div_add_mod m (2 ^ 52)
  have fields' := Nat.div_add_mod m' (2 ^ 52)
  have fraction : m % 2 ^ 52 < 2 ^ 52 := Nat.mod_lt _ (by decide)
  have below : m / 2 ^ 52 ≤ m' / 2 ^ 52 := Nat.div_le_div_right h
  by_cases same : m / 2 ^ 52 = m' / 2 ^ 52
  · unfold weight
    rw [same]
    split
    · exact h
    · apply Nat.mul_le_mul_right
      omega
  · have less : m / 2 ^ 52 ≤ m' / 2 ^ 52 - 1 := by omega
    have upper : weight m ≤ 2 ^ 52 * 2 ^ (m / 2 ^ 52) := by
      unfold weight
      split
      · next zero =>
        rw [zero]
        omega
      · next normal =>
        have double : 2 * 2 ^ (m / 2 ^ 52 - 1) = 2 ^ (m / 2 ^ 52) := mul_pow_sub_one normal 2
        rw [← double, ← Nat.mul_assoc]
        apply Nat.mul_le_mul_right
        omega
    have lower : 2 ^ 52 * 2 ^ (m' / 2 ^ 52 - 1) ≤ weight m' := by
      have normal : m' / 2 ^ 52 ≠ 0 := by omega
      rw [weight, if_neg normal]
      exact Nat.mul_le_mul_right _ (Nat.le_add_right ..)
    calc weight m ≤ 2 ^ 52 * 2 ^ (m / 2 ^ 52) := upper
      _ ≤ 2 ^ 52 * 2 ^ (m' / 2 ^ 52 - 1) :=
        Nat.mul_le_mul_left _ (Nat.pow_le_pow_right (by decide) less)
      _ ≤ weight m' := lower

theorem toNat_ofMagnitude (h : m ≤ top) (negative : Bool) :
    (ofMagnitude negative m).bits.toNat = m + if negative then 2 ^ 63 else 0 := by
  apply UInt64.toNat_ofNat_of_lt
  unfold top at h
  cases negative <;> simp [pow2_eq, UInt64.size] <;> omega

/-- The fields of the bits of a number. -/
theorem fields_ofMagnitude (h : m ≤ top) (negative : Bool) :
    (ofMagnitude negative m).negative = negative ∧
      (ofMagnitude negative m).exponentField = m / 2 ^ 52 ∧
      (ofMagnitude negative m).fractionField = m % 2 ^ 52 := by
  have bits := toNat_ofMagnitude h negative
  unfold top at h
  simp only [Binary64.negative, exponentField, fractionField, bits, pow2_eq]
  cases negative <;> simp <;> omega

theorem read_top (negative : Bool) : (ofMagnitude negative top).read = .infinite negative := by
  cases negative <;> decide

theorem read_ofMagnitude (h : m < top) (negative : Bool) :
    ∃ significand exponent, (ofMagnitude negative m).read = .finite negative significand exponent ∧
      units (-1074) negative significand exponent =
        if negative then -(weight m : Int) else weight m := by
  obtain ⟨sign, exponent, fraction⟩ := fields_ofMagnitude (Nat.le_of_lt h) negative
  unfold top at h
  have notInfinite : m / 2 ^ 52 ≠ 2047 := by omega
  simp only [read, sign, exponent, fraction, if_neg notInfinite, weight]
  by_cases subnormal : m / 2 ^ 52 = 0
  · have whole : m % 2 ^ 52 = m := by omega
    refine ⟨m, -1074, ?_, ?_⟩
    · rw [if_pos subnormal, whole]
    · rw [if_pos subnormal]
      simp [units, pow2_eq]
  · refine ⟨_, _, if_neg subnormal, ?_⟩
    have places : ((m / 2 ^ 52 : Nat) - 1075 - -1074 : Int).toNat = m / 2 ^ 52 - 1 := by omega
    rw [if_neg subnormal]
    simp only [units, pow2_eq, places]
    push_cast
    rfl

/-- The magnitude bits order the numbers of a sign; negated ones come before the others. -/
theorem atMost_ofMagnitude {a b : Bool} (hm : m ≤ top) (hm' : m' ≤ top)
    (order : a = true ∧ (b = true → m' ≤ m) ∨ a = false ∧ b = false ∧ m ≤ m') :
    AtMost (ofMagnitude a m) (ofMagnitude b m') := by
  by_cases infinite : m = top
  · by_cases infinite' : m' = top
    · rw [infinite, infinite', AtMost, read_top, read_top]
      intro negative
      rcases order with ⟨sign, _⟩ | ⟨_, sign, _⟩
      · exact sign
      · rw [sign] at negative
        contradiction
    · obtain ⟨n, f, read, _⟩ := read_ofMagnitude (by omega : m' < top) b
      rw [infinite, AtMost, read_top, read]
      rcases order with ⟨sign, _⟩ | ⟨_, _, h⟩
      · exact sign
      · omega
  · obtain ⟨n, e, read, value⟩ := read_ofMagnitude (by omega : m < top) a
    by_cases infinite' : m' = top
    · rw [infinite', AtMost, read_top, read]
      rcases order with ⟨_, h⟩ | ⟨_, sign, _⟩
      · cases b with
        | false => rfl
        | true => exact absurd (h rfl) (by omega)
      · exact sign
    · obtain ⟨n', e', read', value'⟩ := read_ofMagnitude (by omega : m' < top) b
      rw [AtMost, read, read']
      simp only [value, value']
      rcases order with ⟨rfl, h⟩ | ⟨rfl, rfl, h⟩
      · cases b with
        | false =>
          simp only [if_true, Bool.false_eq_true, if_false]
          omega
        | true =>
          have := weight_mono (h rfl)
          simp only [if_true]
          omega
      · have := weight_mono h
        simp only [Bool.false_eq_true, if_false]
        omega

end

/-- The magnitude bits nearest to `n / 1024`, however large. -/
def nearestBits (n : Nat) : Nat :=
  if n = 0 then 0 else magnitudeBits n 1024

theorem nearestBits_mono {m n : Nat} (h : m ≤ n) : nearestBits m ≤ nearestBits n := by
  unfold nearestBits
  by_cases zero : m = 0
  · simp [zero]
  · have positive : n ≠ 0 := by omega
    rw [if_neg zero, if_neg positive]
    exact magnitudeBits_mono zero h

theorem ofRatio?_eq (negative : Bool) (n : Nat) :
    (ofRatio? negative n 1024).getD (infinity negative) =
      ofMagnitude negative (min (nearestBits n) top) := by
  have largest : infinity negative = ofMagnitude negative top := by
    cases negative <;> decide
  change (if top ≤ nearestBits n then none else some (ofMagnitude negative (nearestBits n))).getD
    (infinity negative) = _
  by_cases large : top ≤ nearestBits n
  · rw [if_pos large, Nat.min_eq_right large]
    exact largest
  · rw [if_neg large, Nat.min_eq_left (Nat.le_of_not_le large)]
    rfl

end Binary64

end Number

open Number (Binary64)

/-- A longer time does not take fewer milliseconds. -/
theorem Ticks.milliseconds_mono {t t' : Int} (h : t ≤ t') :
    (milliseconds t).AtMost (milliseconds t') := by
  have bits {m n : Nat} (h : m ≤ n) : min (Binary64.nearestBits (m * 1000)) Binary64.top ≤
      min (Binary64.nearestBits (n * 1000)) Binary64.top := by
    have mono := Binary64.nearestBits_mono (Nat.mul_le_mul_right 1000 h)
    omega
  simp only [milliseconds, Binary64.ofRatio?_eq]
  apply Binary64.atMost_ofMagnitude (Nat.min_le_right ..) (Nat.min_le_right ..)
  by_cases negative : t < 0
  · refine .inl ⟨decide_eq_true negative, ?_⟩
    intro negative'
    have below : t' < 0 := of_decide_eq_true negative'
    exact bits (by omega)
  · have above : ¬ t' < 0 := by omega
    refine .inr ⟨decide_eq_false negative, decide_eq_false above, ?_⟩
    exact bits (by omega)

end SqlTemplate
