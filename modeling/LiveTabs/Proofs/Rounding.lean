import Mathlib.Algebra.Order.Field.Power
import Mathlib.Algebra.Order.Field.Rat
import Mathlib.Tactic.FieldSimp
import Mathlib.Tactic.Ring
import LiveTabs.Binary64
/-!
Floating-point numbers as the fractions that they are, and what becomes of a whole number that is
rounded to one. From 2 ^ 63 on that stays 2 ^ 63 or more, and it becomes 2 ^ 63 itself exactly as
long as it is nearer to that, or as near, than to the next floating-point number.
-/
namespace LiveTabs

theorem twoPow_add (first second : Nat) :
    twoPow (first + second) = twoPow first * twoPow second := Nat.pow_add 2 first second

theorem twoPow_pos (k : Nat) : 0 < twoPow k := Nat.two_pow_pos k

theorem twoPow_log2_le {n : Nat} (nonzero : n ≠ 0) : twoPow n.log2 ≤ n := Nat.log2_self_le nonzero

namespace Binary64

/-- The exact value: sign, significand and power of two. -/
def exact (x : Binary64) : ℚ :=
  (if x.negative then -1 else 1) * (x.significand * 2 ^ x.exponent)

theorem cast_twoPow (k : Nat) : (twoPow k : ℚ) = 2 ^ (k : ℤ) := by
  simp [twoPow, Nat.pow_eq]

/-- The numerator with its sign. -/
def signedNumerator (x : Binary64) : Int :=
  if x.negative then -(x.numerator : Int) else x.numerator

theorem toInt?_crossed (x : Binary64) (z : Int) :
    x.toInt? = some z ↔ x.signedNumerator = z * x.denominator := by
  have positive : 0 < x.denominator := twoPow_pos _
  have nonzero : (x.denominator : Int) ≠ 0 := by omega
  rw [toInt?]
  by_cases divides : x.numerator % x.denominator = 0
  · have whole : (x.numerator : Int) = (x.numerator / x.denominator : Nat) * x.denominator := by
      exact_mod_cast (Nat.div_mul_cancel (Nat.dvd_of_mod_eq_zero divides)).symm
    rw [if_pos divides, Option.some.injEq, signedNumerator, whole]
    cases x.negative
    · rw [if_neg Bool.false_ne_true, if_neg Bool.false_ne_true,
        Int.mul_eq_mul_right_iff nonzero]
    · rw [if_pos rfl, if_pos rfl, ← Int.neg_mul, Int.mul_eq_mul_right_iff nonzero]
  · constructor
    · intro found
      rw [if_neg divides] at found
      nomatch found
    · intro same
      have magnitude : x.numerator = z.natAbs * x.denominator := by
        rw [← Int.natAbs_natCast x.denominator, ← Int.natAbs_mul, ← same, signedNumerator]
        cases x.negative <;> simp
      exact absurd (magnitude ▸ Nat.mul_mod_left z.natAbs x.denominator) divides

theorem exact_eq_ratio (x : Binary64) :
    x.exact = x.signedNumerator / x.denominator := by
  have powers : (2 : ℚ) ^ x.exponent =
      2 ^ (x.exponent.toNat : ℤ) / 2 ^ ((-x.exponent).toNat : ℤ) := by
    rw [← zpow_sub₀ two_ne_zero]
    congr 1
    omega
  have magnitude : (x.significand * 2 ^ x.exponent : ℚ) = x.numerator / x.denominator := by
    rw [numerator, denominator, Nat.cast_mul, cast_twoPow, cast_twoPow, powers, mul_div_assoc]
  rw [exact, magnitude, signedNumerator]
  cases x.negative
  · simp
  · simp [neg_div]

/-- A floating-point number is read as a whole one exactly where its value is that whole number. -/
theorem toInt?_eq_some_iff (x : Binary64) (z : Int) : x.toInt? = some z ↔ x.exact = z := by
  have positive : 0 < x.denominator := twoPow_pos _
  have nonzero : (x.denominator : ℚ) ≠ 0 := by exact_mod_cast positive.ne'
  rw [toInt?_crossed, exact_eq_ratio, div_eq_iff nonzero]
  constructor
  · intro same
    exact_mod_cast same
  · intro same
    exact_mod_cast same

/-! Rounding a quotient to a natural number. -/

theorem le_roundEven {num den k : Nat} (positive : 0 < den) (least : k * den ≤ num) :
    k ≤ roundEven num den := by
  have below : k ≤ num / den := (Nat.le_div_iff_mul_le positive).mpr least
  unfold roundEven
  split_ifs <;> omega

/-- From an even number on, what is rounded to it goes up to half a step beyond it, and the half
itself is included. -/
theorem roundEven_eq_iff {num den k : Nat} (positive : 0 < den) (even : k % 2 = 0)
    (least : k * den ≤ num) : roundEven num den = k ↔ 2 * num ≤ (2 * k + 1) * den := by
  have below : k ≤ num / den := (Nat.le_div_iff_mul_le positive).mpr least
  have parts : den * (num / den) + num % den = num := Nat.div_add_mod num den
  have rest : num % den < den := Nat.mod_lt num positive
  rcases Nat.eq_or_lt_of_le below with same | beyond
  · have split : (2 * k + 1) * den = 2 * (den * k) + den := by ring
    rw [← same] at parts
    rw [split, roundEven, ← same]
    split_ifs <;> omega
  · have next : den * (k + 1) ≤ den * (num / den) := Nat.mul_le_mul_left den beyond
    have split : 2 * (den * (k + 1)) = (2 * k + 1) * den + den := by ring
    have past : k < roundEven num den := by
      unfold roundEven
      split_ifs <;> omega
    omega

/-! Rounding a whole number with 53 bits or more. -/

/-- The last place that is kept of a whole number. -/
def lastPlace (n : Nat) : Nat := twoPow (n.log2 - 52)

def nearest (n : Nat) : Nat := roundEven n (lastPlace n) * lastPlace n

theorem twoPow_lastPlace {n : Nat} (wide : 52 ≤ n.log2) :
    twoPow 52 * lastPlace n = twoPow n.log2 := by
  rw [lastPlace, ← twoPow_add, Nat.add_sub_cancel' wide]

theorem roundingExponent_whole {n : Nat} (wide : 52 ≤ n.log2) :
    roundingExponent n 1 = (n.log2 - 52 : Nat) := by
  have nonzero : n ≠ 0 := by
    rintro rfl
    simp at wide
  have guess : floorLog2 n 1 = n.log2 := by
    have fits : twoPow n.log2 ≤ n := twoPow_log2_le nonzero
    have one : (1 : Nat).log2 = 0 := by decide
    have units : inUnits n 1 (n.log2 - (1 : Nat).log2 : Int) = (n, twoPow n.log2) := by
      simp [inUnits, one, twoPow]
    rw [floorLog2, units, if_pos fits, one]
    omega
  rw [roundingExponent, guess]
  omega

theorem ofParts?_whole {negative : Bool} {significand k : Nat} {x : Binary64}
    (made : ofParts? negative significand k = some x) :
    x.negative = negative ∧ x.denominator = 1 ∧ x.numerator = significand * twoPow k := by
  obtain ⟨_, same⟩ := Option.dite_none_right_eq_some.mp made
  obtain rfl := Option.some.inj same
  refine ⟨rfl, ?_, ?_⟩
  · have none : (-(k : Int)).toNat = 0 := by omega
    rw [denominator, none]
    rfl
  · rw [numerator, Int.toNat_natCast]

theorem ofRatio_whole {n : Nat} (negative : Bool) (wide : 52 ≤ n.log2) :
    ofRatio negative n 1 =
      if roundEven n (lastPlace n) = twoPow 53 then
        ofParts? negative (twoPow 52) (n.log2 - 52 + 1 : Nat)
      else ofParts? negative (roundEven n (lastPlace n)) (n.log2 - 52 : Nat) := by
  have nonzero : n ≠ 0 := by
    rintro rfl
    simp at wide
  have units : inUnits n 1 (n.log2 - 52 : Nat) = (n, lastPlace n) := by
    simp [inUnits, lastPlace, twoPow]
  rw [ofRatio, if_neg nonzero, roundingExponent_whole wide]
  dsimp only
  rw [units]
  rfl

/-- A whole number keeps its sign and is rounded to a multiple of its last place. -/
theorem ofRatio_nearest {negative : Bool} {n : Nat} {x : Binary64} (wide : 52 ≤ n.log2)
    (rounded : ofRatio negative n 1 = some x) :
    x.negative = negative ∧ x.denominator = 1 ∧ x.numerator = nearest n := by
  rw [ofRatio_whole negative wide] at rounded
  split at rounded
  · next carried =>
    -- Rounding up to 2 ^ 53 leaves the same number, in the next form.
    obtain ⟨sign, whole, parts⟩ := ofParts?_whole rounded
    have places : 52 + (n.log2 - 52 + 1) = 53 + (n.log2 - 52) := by omega
    have same : twoPow 52 * twoPow (n.log2 - 52 + 1) = twoPow 53 * twoPow (n.log2 - 52) := by
      rw [← twoPow_add, ← twoPow_add, places]
    refine ⟨sign, whole, ?_⟩
    rw [parts, same, nearest, ← carried]
    rfl
  · exact ofParts?_whole rounded

theorem log2_large {n : Nat} (large : twoPow 63 ≤ n) : 63 ≤ n.log2 := by
  have positive := twoPow_pos 63
  exact (Nat.le_log2 (by omega)).mpr large

theorem roundEven_large {n : Nat} (large : twoPow 63 ≤ n) :
    twoPow 52 ≤ roundEven n (lastPlace n) ∧
      (roundEven n (lastPlace n) = twoPow 52 ↔ 2 * n ≤ (2 * twoPow 52 + 1) * lastPlace n) := by
  have positive := twoPow_pos 63
  have order := log2_large large
  have least : twoPow 52 * lastPlace n ≤ n := by
    rw [twoPow_lastPlace (by omega)]
    exact twoPow_log2_le (by omega)
  constructor
  · exact le_roundEven (twoPow_pos _) least
  · exact roundEven_eq_iff (twoPow_pos _) rfl least

/-- From 2 ^ 63 on a whole number is not rounded below that, and to just that only where it is no
farther from it than half a last place. -/
theorem nearest_bounds {n : Nat} (large : twoPow 63 ≤ n) :
    twoPow 63 ≤ nearest n ∧ (nearest n = twoPow 63 ↔ n ≤ twoPow 63 + twoPow 10) := by
  have order := log2_large large
  obtain ⟨kept, limit⟩ := roundEven_large large
  rcases Nat.eq_or_lt_of_le order with here | beyond
  · have place : lastPlace n = 2048 := by
      rw [lastPlace, ← here]
      rfl
    have half : twoPow 52 = 4503599627370496 := rfl
    have bound : twoPow 63 = 9223372036854775808 := rfl
    have margin : twoPow 10 = 1024 := rfl
    rw [place, half] at kept limit
    rw [nearest, place, bound, margin]
    omega
  · -- With one more binary digit both numbers are twice as large.
    have raised : twoPow 64 ≤ twoPow n.log2 := Nat.pow_le_pow_right Nat.two_pos beyond
    have grown : twoPow 52 * lastPlace n ≤ nearest n := Nat.mul_le_mul_right _ kept
    have whole : twoPow 52 * lastPlace n = twoPow n.log2 := twoPow_lastPlace (by omega)
    have positive := twoPow_pos 63
    have least : twoPow n.log2 ≤ n := twoPow_log2_le (by omega)
    have double : twoPow 64 = 2 * twoPow 63 := rfl
    have margin : twoPow 10 < twoPow 63 := by decide
    omega

/-- Rounding to 2 ^ 63 stays in range. -/
theorem ofRatio_isSome {n : Nat} (negative : Bool) (large : twoPow 63 ≤ n)
    (close : n ≤ twoPow 63 + twoPow 10) : (ofRatio negative n 1).isSome = true := by
  have positive := twoPow_pos 63
  have margin : twoPow 63 + twoPow 10 < twoPow 64 := by decide
  have order : n.log2 = 63 := by
    have below : n.log2 < 64 := (Nat.log2_lt (by omega)).mpr (Nat.lt_of_le_of_lt close margin)
    have above := log2_large large
    omega
  have place : lastPlace n = 2048 := by
    rw [lastPlace, order]
    rfl
  have least : roundEven n (lastPlace n) = twoPow 52 := by
    have half : (2 * twoPow 52 + 1) * 2048 = 2 * (twoPow 63 + twoPow 10) := rfl
    rw [(roundEven_large large).2, place, half]
    omega
  have apart : twoPow 52 ≠ twoPow 53 := by decide
  rw [ofRatio_whole negative (by omega), least, if_neg apart, order]
  cases negative
  · rfl
  · rfl

end Binary64
end LiveTabs
