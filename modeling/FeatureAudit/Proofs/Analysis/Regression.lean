import Mathlib
import FeatureAudit.Analysis.Trend

/-!
# The slope is that of least squares

In exact arithmetic the slope of two values or more belongs to the one line with the least sum of
squared distances (`fitsBest_iff`).

* `twelve_mul_denominator`: the denominator of the slope of `n` values is a twelfth of
  `n² (n² - 1)`, so from two values on it is positive (`denominator_pos`).
* `numerator_eq`: the numerator sums up the values, each weighted by how far its place lies behind
  the middle of all places. The weights add up to nothing and are mirrored in the middle, so the
  slope of raised values is the same (`rationalSlope_map_add`) and that of reversed values is the
  negative (`rationalSlope_reverse`).
* `squaredError_eq`: what another line adds to the error is the sum of its squared distances from
  the line with this slope, since the residuals of that line add up to nothing, and so do the
  residuals multiplied by their places.
* `Direction.ofValues_eq`: directions are told on whole numbers, but by the exact slope.
-/

set_option autoImplicit false

namespace FeatureAudit

namespace Regression

open Finset (range)

/-- Rational numbers. -/
def Arithmetic.rationals : Arithmetic ℚ :=
  ⟨Nat.cast, fun a b => a + b, fun a b => a - b, fun a b => a * b⟩

/-- The exact slope of rational numbers. -/
def rationalSlope (values : List ℚ) : ℚ := slopeWith .rationals 0 (fun x d => x / d) values

/-- The sum of the squared distances of values from a line over their places. -/
def squaredError (values : List ℚ) (intercept slope : ℚ) : ℚ :=
  (values.zipIdx.map fun (v, i) => (v - (intercept + slope * i)) ^ 2).sum

/-- Whether no line has a smaller squared error. -/
def FitsBest (values : List ℚ) (intercept slope : ℚ) : Prop :=
  ∀ a b, squaredError values intercept slope ≤ squaredError values a b

/-! ## Places -/

theorem placeSum_succ (n : ℕ) : placeSum (n + 1) = placeSum n + n := by
  rw [placeSum, List.range_succ, List.foldl_append]
  rfl

theorem squareSum_succ (n : ℕ) : squareSum (n + 1) = squareSum n + n * n := by
  rw [squareSum, List.range_succ, List.foldl_append]
  rfl

theorem two_mul_placeSum (n : ℕ) : 2 * (placeSum n : ℤ) = n * (n - 1) := by
  induction n with
  | zero => rfl
  | succ n ih =>
    rw [placeSum_succ]
    push_cast
    linarith

theorem six_mul_squareSum (n : ℕ) : 6 * (squareSum n : ℤ) = n * (n - 1) * (2 * n - 1) := by
  induction n with
  | zero => rfl
  | succ n ih =>
    rw [squareSum_succ]
    push_cast
    linarith

/-- The closed form of the denominator. -/
theorem twelve_mul_denominator (n : ℕ) : 12 * denominator n = (n : ℤ) ^ 2 * ((n : ℤ) ^ 2 - 1) := by
  have hplaces := two_mul_placeSum n
  have hsquares := six_mul_squareSum n
  calc 12 * denominator n
      = 2 * n * (6 * squareSum n) - 3 * (2 * placeSum n) * (2 * placeSum n) := by
        rw [denominator]; ring
    _ = 2 * n * (n * (n - 1) * (2 * n - 1)) - 3 * (n * (n - 1)) * (n * (n - 1)) := by
        rw [hplaces, hsquares]
    _ = (n : ℤ) ^ 2 * ((n : ℤ) ^ 2 - 1) := by ring

theorem denominator_pos {n : ℕ} (h : 2 ≤ n) : 0 < denominator n := by
  have hn : (2 : ℤ) ≤ n := by exact_mod_cast h
  have hprod : 0 < (n : ℤ) ^ 2 * ((n : ℤ) ^ 2 - 1) := mul_pos (by positivity) (by nlinarith)
  have hclosed := twelve_mul_denominator n
  omega

theorem placeSum_eq (n : ℕ) : (placeSum n : ℚ) = ∑ i ∈ range n, (i : ℚ) := by
  induction n with
  | zero => rfl
  | succ n ih =>
    rw [placeSum_succ, Finset.sum_range_succ, ← ih]
    push_cast
    rfl

theorem squareSum_eq (n : ℕ) : (squareSum n : ℚ) = ∑ i ∈ range n, (i : ℚ) * i := by
  induction n with
  | zero => rfl
  | succ n ih =>
    rw [squareSum_succ, Finset.sum_range_succ, ← ih]
    push_cast
    rfl

/-! ## Sums over places -/

section Sums

variable (values : List ℚ)

theorem sum_rationals : sum .rationals values = values.sum := by
  rw [sum, List.sum_eq_foldl]
  rfl

/-- What is added up along a list is added up over its places. -/
theorem sum_zipIdx (f : ℚ → ℕ → ℚ) : (values.zipIdx.map fun (v, i) => f v i).sum =
    ∑ i ∈ range values.length, f (values.getD i 0) i := by
  induction values using List.reverseRecOn with
  | nil => rfl
  | append_singleton vs v ih =>
    rw [List.zipIdx_append, List.map_append, List.sum_append, ih, List.length_append,
      List.length_singleton, Finset.sum_range_succ]
    congr 1
    · refine Finset.sum_congr rfl fun i hi => ?_
      rw [List.getD_append _ _ _ _ (Finset.mem_range.1 hi)]
    · simp

theorem sum_eq : sum .rationals values = ∑ i ∈ range values.length, values.getD i 0 := by
  rw [sum_rationals, ← sum_zipIdx values fun v _ => v]
  simp

theorem sum_moments : sum .rationals (moments .rationals values) =
    ∑ i ∈ range values.length, i * values.getD i 0 := by
  rw [sum_rationals]
  exact sum_zipIdx values fun v i => i * v

/-- How far a place lies behind the middle of `n` places, `n` times. -/
def weight (n i : ℕ) : ℚ := n * i - placeSum n

theorem sum_weight (n : ℕ) : ∑ i ∈ range n, weight n i = 0 := by
  have hsum : ∑ i ∈ range n, weight n i = n * ∑ i ∈ range n, (i : ℚ) - n * placeSum n := by
    simp only [weight, Finset.sum_sub_distrib, Finset.mul_sum, Finset.sum_const, Finset.card_range,
      nsmul_eq_mul]
  rw [hsum, placeSum_eq, sub_self]

/-- Places as far from the end as others from the start lie on the other side of the middle. -/
theorem weight_reflect {n i : ℕ} (h : i < n) : weight n (n - 1 - i) = -weight n i := by
  have hplaces : 2 * (placeSum n : ℚ) = n * (n - 1) := by exact_mod_cast two_mul_placeSum n
  have hi : ((n - 1 - i : ℕ) : ℚ) = n - 1 - i := by
    rw [Nat.cast_sub (by omega), Nat.cast_sub (by omega), Nat.cast_one]
  rw [weight, weight, hi]
  linarith

theorem numerator_rationals : numerator .rationals values =
    values.length * sum .rationals (moments .rationals values) -
      placeSum values.length * sum .rationals values := rfl

theorem numerator_eq : numerator .rationals values =
    ∑ i ∈ range values.length, weight values.length i * values.getD i 0 := by
  rw [numerator_rationals, sum_moments, sum_eq, Finset.mul_sum, Finset.mul_sum,
    ← Finset.sum_sub_distrib]
  refine Finset.sum_congr rfl fun i _ => ?_
  rw [weight]
  ring

/-! ## Raised and reversed values -/

theorem numerator_map_add (c : ℚ) :
    numerator .rationals (values.map (· + c)) = numerator .rationals values := by
  have hvalue : ∀ i ∈ range values.length,
      weight values.length i * (values.map (· + c)).getD i 0 =
        weight values.length i * values.getD i 0 + weight values.length i * c := by
    intro i hi
    have hlt : i < values.length := Finset.mem_range.1 hi
    rw [List.getD_eq_getElem _ _ (by simpa using hlt), List.getElem_map,
      List.getD_eq_getElem _ _ hlt]
    ring
  rw [numerator_eq, numerator_eq, List.length_map, Finset.sum_congr rfl hvalue,
    Finset.sum_add_distrib, ← Finset.sum_mul, sum_weight, zero_mul, add_zero]

theorem numerator_reverse :
    numerator .rationals values.reverse = -numerator .rationals values := by
  rw [numerator_eq, numerator_eq, List.length_reverse, ← Finset.sum_range_reflect,
    ← Finset.sum_neg_distrib]
  refine Finset.sum_congr rfl fun i hi => ?_
  have hlt : i < values.length := Finset.mem_range.1 hi
  have hvalue : values.reverse.getD (values.length - 1 - i) 0 = values.getD i 0 := by
    rw [List.getD_eq_getElem _ _ (by rw [List.length_reverse]; omega), List.getElem_reverse,
      List.getD_eq_getElem _ _ hlt]
    congr 1
    omega
  rw [hvalue, weight_reflect hlt, neg_mul]

theorem numerator_replicate (n : ℕ) (c : ℚ) :
    numerator .rationals (List.replicate n c) = 0 := by
  have hvalue : ∀ i ∈ range n, weight n i * (List.replicate n c).getD i 0 = weight n i * c := by
    intro i hi
    rw [List.getD_replicate _ (Finset.mem_range.1 hi)]
  rw [numerator_eq, List.length_replicate, Finset.sum_congr rfl hvalue, ← Finset.sum_mul,
    sum_weight, zero_mul]

/-- The guards of the slope only stand where the quotient is zero by itself. -/
theorem rationalSlope_eq : rationalSlope values =
    numerator .rationals values / denominator values.length := by
  rw [rationalSlope, slopeWith]
  split
  · rename_i hshort
    have hzero : denominator values.length = 0 := by
      have hclosed := twelve_mul_denominator values.length
      interval_cases values.length <;> omega
    rw [hzero, Int.cast_zero, div_zero]
  · split
    · rename_i hzero
      rw [hzero, Int.cast_zero, div_zero]
    · rfl

theorem rationalSlope_of_short (h : values.length < 2) : rationalSlope values = 0 := if_pos h

theorem rationalSlope_map_add (c : ℚ) :
    rationalSlope (values.map (· + c)) = rationalSlope values := by
  rw [rationalSlope_eq, rationalSlope_eq, numerator_map_add, List.length_map]

theorem rationalSlope_reverse : rationalSlope values.reverse = -rationalSlope values := by
  rw [rationalSlope_eq, rationalSlope_eq, numerator_reverse, List.length_reverse, neg_div]

theorem rationalSlope_replicate (n : ℕ) (c : ℚ) : rationalSlope (List.replicate n c) = 0 := by
  rw [rationalSlope_eq, numerator_replicate, zero_div]

end Sums

/-! ## The line that fits best -/

section Fit

variable (values : List ℚ)

/-- Where the line through the middle of the values begins. -/
def intercept : ℚ :=
  (sum .rationals values - rationalSlope values * placeSum values.length) / values.length

/-- How far a value lies above the line with the slope of the values. -/
def residual (i : ℕ) : ℚ := values.getD i 0 - (intercept values + rationalSlope values * i)

variable {values} (h : 2 ≤ values.length)
include h

theorem length_ne_zero : (values.length : ℚ) ≠ 0 := by
  have hpos : 0 < values.length := by omega
  exact_mod_cast hpos.ne'

theorem length_mul_intercept : values.length * intercept values =
    sum .rationals values - rationalSlope values * placeSum values.length := by
  rw [intercept, mul_div_cancel₀ _ (length_ne_zero h)]

theorem slope_mul_denominator :
    rationalSlope values * denominator values.length = numerator .rationals values := by
  have hdenominator : (denominator values.length : ℚ) ≠ 0 := by
    exact_mod_cast (denominator_pos h).ne'
  rw [rationalSlope_eq, div_mul_cancel₀ _ hdenominator]

theorem sum_residual : ∑ i ∈ range values.length, residual values i = 0 := by
  have hintercept := length_mul_intercept h
  calc ∑ i ∈ range values.length, residual values i
      = sum .rationals values - (values.length * intercept values +
          rationalSlope values * placeSum values.length) := by
        simp only [residual, sum_eq, placeSum_eq, Finset.sum_sub_distrib, Finset.sum_add_distrib,
          Finset.mul_sum, Finset.sum_const, Finset.card_range, nsmul_eq_mul]
    _ = 0 := by rw [hintercept]; ring

theorem sum_place_mul_residual : ∑ i ∈ range values.length, i * residual values i = 0 := by
  have hintercept := length_mul_intercept h
  have hslope := slope_mul_denominator h
  have hsum : ∑ i ∈ range values.length, i * residual values i =
      sum .rationals (moments .rationals values) - (intercept values * placeSum values.length +
        rationalSlope values * squareSum values.length) := by
    simp only [residual, sum_moments, placeSum_eq, squareSum_eq, Finset.mul_sum, mul_sub, mul_add,
      Finset.sum_sub_distrib, Finset.sum_add_distrib]
    congr 2
    · exact Finset.sum_congr rfl fun i _ => by ring
    · exact Finset.sum_congr rfl fun i _ => by ring
  rw [denominator, numerator_rationals] at hslope
  push_cast at hslope
  -- multiplied by the number of values, the sum is the normal equation of the slope
  refine (mul_eq_zero.1 ?_).resolve_left (length_ne_zero h)
  rw [hsum]
  linear_combination -(placeSum values.length : ℚ) * hintercept - hslope

/-- What another line adds to the squared error. -/
theorem squaredError_eq (a b : ℚ) : squaredError values a b =
    squaredError values (intercept values) (rationalSlope values) +
      ∑ i ∈ range values.length,
        (a - intercept values + (b - rationalSlope values) * i) ^ 2 := by
  have hsquare : ∀ i ∈ range values.length, (values.getD i 0 - (a + b * i)) ^ 2 =
      residual values i ^ 2 + (a - intercept values + (b - rationalSlope values) * i) ^ 2 -
        (2 * (a - intercept values) * residual values i +
          2 * (b - rationalSlope values) * (i * residual values i)) := by
    intro i _
    rw [residual]
    ring
  rw [squaredError, squaredError, sum_zipIdx values fun v i => (v - (a + b * i)) ^ 2,
    sum_zipIdx values fun v i => (v - (intercept values + rationalSlope values * i)) ^ 2,
    Finset.sum_congr rfl hsquare, Finset.sum_sub_distrib, Finset.sum_add_distrib,
    Finset.sum_add_distrib, ← Finset.mul_sum, ← Finset.mul_sum, sum_residual h,
    sum_place_mul_residual h, mul_zero, mul_zero, add_zero, sub_zero]
  rfl

/-- One line fits best, and the slope is that of this line. -/
theorem fitsBest_iff {a b : ℚ} :
    FitsBest values a b ↔ a = intercept values ∧ b = rationalSlope values := by
  constructor
  · intro hbest
    have hterm : ∀ i ∈ range values.length,
        (0 : ℚ) ≤ (a - intercept values + (b - rationalSlope values) * i) ^ 2 :=
      fun i _ => sq_nonneg _
    have hsum : ∑ i ∈ range values.length,
        (a - intercept values + (b - rationalSlope values) * i) ^ 2 = 0 := by
      have hle := hbest (intercept values) (rationalSlope values)
      rw [squaredError_eq h] at hle
      exact le_antisymm (by linarith) (Finset.sum_nonneg hterm)
    have hzero : ∀ i < values.length, a - intercept values + (b - rationalSlope values) * i = 0 :=
      fun i hi => pow_eq_zero_iff two_ne_zero |>.1
        ((Finset.sum_eq_zero_iff_of_nonneg hterm).1 hsum i (Finset.mem_range.2 hi))
    -- the lines meet at the first two places
    have hfirst := hzero 0 (by omega)
    have hsecond := hzero 1 (by omega)
    push_cast at hfirst hsecond
    exact ⟨by linarith, by linarith⟩
  · rintro ⟨rfl, rfl⟩ a b
    rw [squaredError_eq h a b]
    exact le_add_of_nonneg_right (Finset.sum_nonneg fun i _ => sq_nonneg _)

theorem exists_fitsBest_iff {b : ℚ} : (∃ a, FitsBest values a b) ↔ b = rationalSlope values := by
  simp only [fitsBest_iff h, exists_and_right, exists_eq, true_and]

end Fit

/-! ## Whole numbers -/

theorem sum_cast (values : List ℤ) :
    sum .rationals (values.map Int.cast) = ((sum .integers values : ℤ) : ℚ) := by
  have hhom : ∀ n : ℤ, List.foldl Arithmetic.rationals.add n (values.map Int.cast) =
      ((List.foldl Arithmetic.integers.add n values : ℤ) : ℚ) := by
    induction values with
    | nil => intro n; rfl
    | cons v values ih =>
      intro n
      have hadd : Arithmetic.rationals.add n v = ((Arithmetic.integers.add n v : ℤ) : ℚ) :=
        (Int.cast_add n v).symm
      rw [List.map_cons, List.foldl_cons, List.foldl_cons, hadd, ih]
  exact hhom 0

theorem moments_cast (values : List ℤ) :
    moments .rationals (values.map Int.cast) = (moments .integers values).map Int.cast := by
  rw [moments, moments, List.zipIdx_map, List.map_map, List.map_map]
  refine List.map_congr_left fun p _ => ?_
  exact (Int.cast_mul (p.2 : ℤ) p.1).symm

theorem numerator_cast (values : List ℤ) :
    numerator .rationals (values.map Int.cast) = ((numerator .integers values : ℤ) : ℚ) := by
  have hintegers : numerator .integers values =
      values.length * sum .integers (moments .integers values) -
        placeSum values.length * sum .integers values := rfl
  rw [numerator_rationals, moments_cast, sum_cast, sum_cast, List.length_map, hintegers]
  push_cast
  rfl

end Regression

namespace Direction

/-- The direction of values in reverse. -/
def opposite : Direction → Direction
  | .rising => .declining
  | .declining => .rising
  | .stable => .stable

/-- The direction of an exact slope: a rise of more than a tenth, a fall of more than a tenth, or
neither. -/
def ofRational (slope : ℚ) : Direction := within (-1 / 10) (1 / 10) slope

theorem ofRational_neg (slope : ℚ) : ofRational (-slope) = (ofRational slope).opposite := by
  have hneg : -slope < -1 / 10 ↔ 1 / 10 < slope := by constructor <;> intro h <;> linarith
  have hpos : 1 / 10 < -slope ↔ slope < -1 / 10 := by constructor <;> intro h <;> linarith
  by_cases hrise : 1 / 10 < slope
  · have hfall : ¬ slope < -1 / 10 := by linarith
    simp only [ofRational, within, hneg, hpos, if_pos hrise, if_neg hfall, opposite]
  · by_cases hfall : slope < -1 / 10
    · simp only [ofRational, within, hpos, if_neg hrise, if_pos hfall, opposite]
    · simp only [ofRational, within, hneg, hpos, if_neg hrise, if_neg hfall, opposite]

theorem ofRational_zero : ofRational 0 = .stable := by
  norm_num [ofRational, within]

theorem ofValues_of_short {values : List ℤ} (h : values.length < 2) :
    ofValues values = .stable := by
  match values, h with
  | [], _ => rfl
  | [v], _ =>
    have hrun : Regression.denominator [v].length = 0 := rfl
    have hrise : Regression.numerator .integers [v] = 0 := by
      calc Regression.numerator .integers [v] = 1 * (0 + 0 * v) - 0 * (0 + v) := rfl
        _ = 0 := by ring
    rw [ofValues, hrun, hrise]
    rfl

/-- The direction of whole numbers is that of their exact slope. -/
theorem ofValues_eq (values : List ℤ) :
    ofValues values = ofRational (Regression.rationalSlope (values.map Int.cast)) := by
  by_cases hshort : values.length < 2
  · rw [ofValues_of_short hshort, Regression.rationalSlope_of_short _ (by simpa using hshort),
      ofRational_zero]
  · have hrun : (0 : ℚ) < Regression.denominator values.length := by
      exact_mod_cast Regression.denominator_pos (not_lt.1 hshort)
    have hrise : 1 / 10 < ((Regression.numerator .integers values : ℤ) : ℚ) /
          Regression.denominator values.length ↔
        Regression.denominator values.length < 10 * Regression.numerator .integers values := by
      rw [div_lt_div_iff₀ (by norm_num) hrun, one_mul, mul_comm _ (10 : ℚ)]
      exact_mod_cast Iff.rfl
    have hfall : ((Regression.numerator .integers values : ℤ) : ℚ) /
          Regression.denominator values.length < -1 / 10 ↔
        10 * Regression.numerator .integers values < -Regression.denominator values.length := by
      rw [div_lt_div_iff₀ hrun (by norm_num), mul_comm _ (10 : ℚ), neg_one_mul]
      exact_mod_cast Iff.rfl
    rw [Regression.rationalSlope_eq, Regression.numerator_cast, List.length_map, ofValues,
      ofRational]
    simp only [within, hrise, hfall]

theorem ofValues_reverse (values : List ℤ) :
    ofValues values.reverse = (ofValues values).opposite := by
  rw [ofValues_eq, ofValues_eq, List.map_reverse, Regression.rationalSlope_reverse, ofRational_neg]

theorem ofValues_replicate (n : ℕ) (v : ℤ) : ofValues (List.replicate n v) = .stable := by
  rw [ofValues_eq, List.map_replicate, Regression.rationalSlope_replicate, ofRational_zero]

end Direction

end FeatureAudit
