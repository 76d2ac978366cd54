import Mathlib.Tactic.Ring
import RowReader.Plain.Json

/-!
# Finite doubles

A quotient that is not too large is rounded to a finite double: its significand has at most one place
more than a double keeps, whatever the power of two is, so the magnitude stays below that of the
infinite doubles.  The seconds of a duration are such a quotient.

The shortest decimal of a positive double is positive.
-/

namespace RowReader
namespace Number
namespace Binary64

/-! ## Rounded quotients -/

theorem isFinite_of_exponentField {x : Binary64} (other : x.exponentField ≠ 2047) :
    Json.isFinite x = true := by
  unfold Json.isFinite read
  rw [if_neg other]
  by_cases least : x.exponentField = 0
  · rw [if_pos least]
  · rw [if_neg least]

theorem toNat_withSign {magnitude : Nat} (small : magnitude < 2 ^ 63) (negative : Bool) :
    (withSign negative magnitude).bits.toNat = if negative then 2 ^ 63 + magnitude else magnitude := by
  have bits : (withSign negative magnitude).bits.toNat =
      (if negative then 2 ^ 63 + magnitude else magnitude) % 2 ^ 64 := rfl
  rw [bits]
  apply Nat.mod_eq_of_lt
  cases negative with
  | false =>
    rw [if_neg Bool.false_ne_true]
    omega
  | true =>
    rw [if_pos rfl]
    omega

/-- Joined to a sign, a magnitude below the infinite one is finite. -/
theorem isFinite_withSign {magnitude : Nat} (small : magnitude < 2047 * 2 ^ 52) (negative : Bool) :
    Json.isFinite (withSign negative magnitude) = true := by
  apply isFinite_of_exponentField
  have field : (withSign negative magnitude).exponentField =
      (withSign negative magnitude).bits.toNat / 2 ^ 52 % 2 ^ 11 := rfl
  rw [field, toNat_withSign (by omega)]
  cases negative with
  | false =>
    rw [if_neg Bool.false_ne_true]
    omega
  | true =>
    rw [if_pos rfl]
    omega

/-- At a power not far below the quotient, the significand has at most one place more than are kept. -/
theorem significandAt_le {num den : Nat} (positive : 0 < den) {power : Int}
    (near : (num.log2 : Int) - den.log2 - 53 ≤ power) : significandAt num den power ≤ 2 ^ 54 := by
  have above : num < 2 ^ (num.log2 + 1) := Nat.lt_log2_self
  have below : 2 ^ den.log2 ≤ den := Nat.log2_self_le (Nat.ne_of_gt positive)
  -- The quotient that is rounded is below the bound, so its rounding does not pass it.
  have rounded {n d : Nat} (less : n < 2 ^ 54 * d) : roundHalfEven n d ≤ 2 ^ 54 := by
    have quotient : n / d < 2 ^ 54 := Nat.div_lt_of_lt_mul (Nat.mul_comm _ _ ▸ less)
    exact (roundHalfEven_le n d).trans quotient
  cases power with
  | ofNat up =>
    apply rounded
    change num * 1 < 2 ^ 54 * (den * (1 * 2 ^ up))
    have places : num.log2 + 1 ≤ 54 + (den.log2 + up) := by
      change (num.log2 : Int) - den.log2 - 53 ≤ up at near
      omega
    calc num * 1 = num := Nat.mul_one num
      _ < 2 ^ (num.log2 + 1) := above
      _ ≤ 2 ^ (54 + (den.log2 + up)) := Nat.pow_le_pow_right (by decide) places
      _ = 2 ^ 54 * (2 ^ den.log2 * 2 ^ up) := by rw [Nat.pow_add, Nat.pow_add]
      _ ≤ 2 ^ 54 * (den * 2 ^ up) := Nat.mul_le_mul_left _ (Nat.mul_le_mul_right _ below)
      _ = 2 ^ 54 * (den * (1 * 2 ^ up)) := by rw [Nat.one_mul]
  | negSucc down =>
    apply rounded
    change num * 2 ^ (down + 1) < 2 ^ 54 * (den * 1)
    have places : num.log2 + 1 + (down + 1) ≤ 54 + den.log2 := by
      omega
    calc num * 2 ^ (down + 1) < 2 ^ (num.log2 + 1) * 2 ^ (down + 1) :=
          Nat.mul_lt_mul_of_pos_right above (Nat.two_pow_pos _)
      _ = 2 ^ (num.log2 + 1 + (down + 1)) := (Nat.pow_add 2 _ _).symm
      _ ≤ 2 ^ (54 + den.log2) := Nat.pow_le_pow_right (by decide) places
      _ = 2 ^ 54 * 2 ^ den.log2 := Nat.pow_add 2 _ _
      _ ≤ 2 ^ 54 * (den * 1) := Nat.mul_le_mul_left _ (below.trans_eq (Nat.mul_one den).symm)

theorem isFinite_ofRatio {num den : Nat} (positive : 0 < den) (small : num.log2 < den.log2 + 1021)
    (negative : Bool) : Json.isFinite (ofRatio negative num den) = true := by
  have magnitude {power : Int} (near : (num.log2 : Int) - den.log2 - 53 ≤ power) (low : power ≤ 968) :
      (power - leastPower).toNat * 2 ^ 52 + significandAt num den power < 2047 * 2 ^ 52 := by
    have significand := significandAt_le positive near
    unfold leastPower
    omega
  unfold ofRatio
  split
  · exact isFinite_withSign (by decide) negative
  · refine isFinite_withSign (Nat.lt_of_le_of_lt (Nat.min_le_left _ _) (magnitude ?_ ?_)) negative
    all_goals
      dsimp only [leastPower, Int.ofNat_eq_natCast]
      split <;> omega

end Binary64

/-! ## Shortest decimals -/

theorem dropTrailingZeros_pos {coefficient : Nat} (positive : 0 < coefficient) (steps : Nat)
    (exponent : Int) : 0 < (dropTrailingZeros steps coefficient exponent).1 := by
  induction steps generalizing coefficient exponent with
  | zero => exact positive
  | succ steps ih =>
    rw [dropTrailingZeros]
    split
    · next zero =>
      have last : coefficient % 10 = 0 := by simpa using And.left (by simpa using zero)
      exact ih (by omega) (exponent + 1)
    · exact positive

theorem ofScaled_pos {coefficient base : Nat} (positive : 0 < coefficient) (based : 0 < base)
    (exponent : Int) :
    0 < (Fraction.ofScaled coefficient base exponent).num ∧
      0 < (Fraction.ofScaled coefficient base exponent).den := by
  cases exponent with
  | ofNat up => exact ⟨Nat.mul_pos positive (Nat.pow_pos based), Nat.one_pos⟩
  | negSucc down => exact ⟨positive, Nat.pow_pos based⟩

/-- The first of three candidates that passes a test passes it. -/
theorem passes_of_first {test : Nat → Bool} {a b c found : Nat}
    (first : (if test a then some a else if test b then some b else if test c then some c else none) =
      some found) : test found = true := by
  split at first
  · next passes => exact Option.some.inj first ▸ passes
  split at first
  · next passes => exact Option.some.inj first ▸ passes
  split at first
  · next passes => exact Option.some.inj first ▸ passes
  · cases first

/-- What lies in an interval above zero is positive. -/
theorem onGrid?_pos {interval : RoundingInterval} (above : 0 < interval.low) {exponent : Int}
    {found : Nat} (onGrid : interval.onGrid? exponent = some found) : 0 < found := by
  have scaled : 0 < interval.low * ((Fraction.ofScaled 1 2 interval.unit).num *
      (Fraction.ofScaled 1 10 exponent).den) :=
    Nat.mul_pos above (Nat.mul_pos (ofScaled_pos Nat.one_pos (by decide) _).1
      (ofScaled_pos Nat.one_pos (by decide) _).2)
  unfold RoundingInterval.onGrid? at onGrid
  extract_lets binary decimal scale step value below inside nearest at onGrid
  have within : inside found = true := passes_of_first onGrid
  have reached : 0 < found * step := by
    dsimp only [inside] at within
    split at within
    · exact Nat.lt_of_lt_of_le scaled (of_decide_eq_true (Bool.and_eq_true_iff.mp within).1)
    · exact Nat.lt_trans scaled (of_decide_eq_true (Bool.and_eq_true_iff.mp within).1)
  exact Nat.pos_of_mul_pos_right reached

theorem shortestDecimal_pos {significand : Nat} (positive : 0 < significand) (power : Int) :
    0 < (shortestDecimal significand power).1 := by
  have above : 0 < (RoundingInterval.of significand power).low := by
    unfold RoundingInterval.of
    dsimp only
    split <;> omega
  unfold shortestDecimal
  dsimp only
  split
  · next coefficient exponent found =>
    rcases List.exists_of_findSome?_eq_some found with ⟨digits, -, attempt⟩
    rcases Option.map_eq_some_iff.mp attempt with ⟨candidate, onGrid, same⟩
    cases same
    exact dropTrailingZeros_pos (onGrid?_pos above onGrid) 20 _
  · exact positive

end Number

/-! ## Durations -/

namespace Calendar

/-- Less than a thousand million days, and the rest of a day in seconds and their millionths. -/
structure Duration.InRange (d : Duration) : Prop where
  days : d.days.natAbs < 10 ^ 9
  seconds : d.seconds < 86400
  microseconds : d.microseconds < 10 ^ 6

end Calendar

theorem Value.isFinite_totalSeconds {d : Calendar.Duration} (inRange : d.InRange) :
    Json.isFinite (totalSeconds d) = true := by
  rcases inRange with ⟨days, seconds, microseconds⟩
  have short : d.totalMicroseconds.natAbs < 2 ^ 100 := by
    unfold Calendar.Duration.totalMicroseconds
    simp only [Int.ofNat_eq_natCast]
    omega
  apply Number.Binary64.isFinite_ofRatio (by decide)
  rcases Nat.eq_zero_or_pos d.totalMicroseconds.natAbs with none | some
  · rw [none]
    decide
  · have places := (Nat.log2_lt (Nat.ne_of_gt some)).mpr short
    omega

end RowReader
