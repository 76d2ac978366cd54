import RowReader.Number.Exact

/-!
# Sums of decimals and integers

A sum keeps 28 digits; it is formed exactly and rounded once, a tie going to the even digit.

The exponents of two summands may lie so far apart that the smaller summand is below every digit
that decides the rounding.  It then tells only on which side of a tie the sum lies, and a stand-in
of its sign serves as well.  So no power of ten grows with the distance of the exponents.
-/

namespace RowReader
namespace Number

/-- The value `coefficient · 10 ^ exponent`. -/
structure Scaled where
  coefficient : Int
  exponent : Int
  deriving DecidableEq, Repr

namespace Scaled

/-- How many digits a sum keeps. -/
def precision : Int := 28

/-- The last place that a digit of a sum can have. -/
def leastExponent : Int := -1000026

/-- The place of the leading digit of the greatest sums. -/
def greatestPlace : Int := 1000000

def place (x : Scaled) : Int :=
  Exact.leadingPlace x.coefficient.natAbs x.exponent

/-- Between two neighbouring multiples of this power of ten there is no value where the rounding of
a sum with `x` changes, and `x` is such a multiple. -/
def grain (x : Scaled) : Int := min x.exponent (x.place - precision - 2)

/-- A value below `10 ^ floor` gives way to a stand-in of its sign. -/
def raisedTo (floor : Int) (x : Scaled) : Scaled :=
  if x.place ≤ floor then ⟨x.coefficient.sign, floor - 1⟩ else x

/-- The exact sum. -/
def add (x y : Scaled) : Scaled :=
  let last := min x.exponent y.exponent
  let units := fun (z : Scaled) => z.coefficient * Int.pow 10 (z.exponent - last).toNat
  ⟨units x + units y, last⟩

/-- Keeps the leading digits of a value. -/
def rounded (x : Scaled) : Scaled :=
  let last := max (x.place - precision) leastExponent
  if last ≤ x.exponent then x
  else if x.place < last then ⟨0, last⟩
  else
    let magnitude := roundHalfEven x.coefficient.natAbs (Nat.pow 10 (last - x.exponent).toNat)
    ⟨applySign (x.coefficient < 0) magnitude, last⟩

/-- The rounded sum. -/
def sum (x y : Scaled) : Scaled :=
  if x.coefficient = 0 then y.rounded
  else if y.coefficient = 0 then x.rounded
  else (add (x.raisedTo y.grain) (y.raisedTo x.grain)).rounded

end Scaled

/-- A decimal with an integer added to it, none if the sum is too great. -/
def Decimal.plus? (x : Decimal) (n : Int) : Option Decimal :=
  match x with
  | .finite negative coefficient exponent =>
    let total := Scaled.sum ⟨applySign negative coefficient, exponent⟩ ⟨n, 0⟩
    if total.coefficient ≠ 0 ∧ Scaled.greatestPlace < total.place then none
    else some (.finite (total.coefficient < 0) total.coefficient.natAbs total.exponent)
  | other => some other

end Number
end RowReader
