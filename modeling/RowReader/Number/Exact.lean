import RowReader.Number.Decimal
import RowReader.Number.Shortest

/-!
# Numbers of different kinds compared

Integers, doubles and decimals are compared by their exact values, never by rounding one kind to
another.  Every finite number of these kinds is an integer times a power of ten.  Exponents may be
huge, so a power is formed only where it cannot be longer than the other number; everywhere else
the lengths decide.

A value that is not a number differs from everything, itself included.
-/

namespace RowReader
namespace Number

/-- An exact value; `finite` stands for `± coefficient · 10 ^ exponent`. -/
inductive Exact where
  | nan
  | infinite (negative : Bool)
  | finite (negative : Bool) (coefficient : Nat) (exponent : Int)

namespace Exact

def ofInt (n : Int) : Exact :=
  .finite (n < 0) n.natAbs 0

/-- A negative power of two is a power of five over a power of ten. -/
def ofBinary64 (x : Binary64) : Exact :=
  match x.read with
  | .nan => .nan
  | .infinite negative => .infinite negative
  | .finite negative significand (.ofNat up) => .finite negative (significand * Nat.pow 2 up) 0
  | .finite negative significand (.negSucc down) =>
    .finite negative (significand * Nat.pow 5 (down + 1)) (.negSucc down)

def ofDecimal : Decimal → Exact
  | .nan _ _ _ => .nan
  | .infinite negative => .infinite negative
  | .finite negative coefficient exponent => .finite negative coefficient exponent

/-- Compares `c · 10 ^ shift` with `d`, neither of them zero.  The power is formed only if it is no
longer than `d`: each factor ten adds at least three binary digits. -/
def compareShifted (c shift d : Nat) : Ordering :=
  if d.log2 < c.log2 + 3 * shift then .gt else compare (c * Nat.pow 10 shift) d

/-- Compares `c · 10 ^ e` with `d · 10 ^ f`, neither of them zero. -/
def compareMagnitudes (c : Nat) (e : Int) (d : Nat) (f : Int) : Ordering :=
  if f ≤ e then compareShifted c (e - f).toNat d
  else (compareShifted d (f - e).toNat c).swap

/-- The order of two values, if they have one. -/
def order? : Exact → Exact → Option Ordering
  | .nan, _ => none
  | _, .nan => none
  | .infinite a, .infinite b => some (compare b.toNat a.toNat)
  | .infinite a, .finite _ _ _ => some (if a then .lt else .gt)
  | .finite _ _ _, .infinite b => some (if b then .gt else .lt)
  | .finite _ 0 _, .finite _ 0 _ => some .eq
  | .finite _ 0 _, .finite b _ _ => some (if b then .gt else .lt)
  | .finite a _ _, .finite _ 0 _ => some (if a then .lt else .gt)
  | .finite true c e, .finite true d f => some (compareMagnitudes d f c e)
  | .finite false c e, .finite false d f => some (compareMagnitudes c e d f)
  | .finite a _ _, .finite _ _ _ => some (if a then .lt else .gt)

def equal (x y : Exact) : Bool :=
  x.order? y == some .eq

/-- Whether the first number is strictly below the second. -/
def below (x y : Exact) : Bool :=
  x.order? y == some .lt

/-- The place of the leading digit of `coefficient · 10 ^ exponent`, counted from the point. -/
def leadingPlace (coefficient : Nat) (exponent : Int) : Int :=
  exponent + Int.ofNat (Nat.toDigits 10 coefficient).length

/-- The double nearest to a value.  A leading digit outside the places that doubles reach decides by
itself, so no great power is formed. -/
def nearest : Exact → Binary64
  | .nan => .nan
  | .infinite negative => .infinite negative
  | .finite negative coefficient exponent =>
    let place := leadingPlace coefficient exponent
    if coefficient = 0 || place < -400 then .withSign negative 0
    else if 400 < place then .infinite negative
    else
      let value := Fraction.ofScaled coefficient 10 exponent
      .ofRatio negative value.num value.den

end Exact
end Number
end RowReader
