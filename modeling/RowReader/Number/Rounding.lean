/-!
# Rounding quotients

The nearest natural number to a quotient, with a tie going to the even neighbour, and the powers
of two and ten that scale exact fractions.
-/

namespace RowReader
namespace Number

/-- The natural number nearest to `num / den`; of two equally near ones, the even one. -/
def roundHalfEven (num den : Nat) : Nat :=
  let low := num / den
  let twice := 2 * (num % den)
  if twice < den then low
  else if den < twice then low + 1
  else if low % 2 = 0 then low
  else low + 1

theorem roundHalfEven_le (num den : Nat) : roundHalfEven num den ≤ num / den + 1 := by
  simp only [roundHalfEven]
  split
  · exact Nat.le_succ _
  · split
    · exact Nat.le_refl _
    · split
      · exact Nat.le_succ _
      · exact Nat.le_refl _

/-- A non-negative fraction, kept as it was formed. -/
structure Fraction where
  num : Nat
  den : Nat

/-- The fraction `coefficient · base ^ exponent`. -/
def Fraction.ofScaled (coefficient base : Nat) (exponent : Int) : Fraction :=
  match exponent with
  | .ofNat up => ⟨coefficient * base.pow up, 1⟩
  | .negSucc down => ⟨coefficient, base.pow (down + 1)⟩

end Number
end RowReader
