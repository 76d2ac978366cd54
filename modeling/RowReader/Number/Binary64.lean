import RowReader.Number.Rounding

/-!
# Double precision numbers

A double is held by its 64 bits and read as an exact significand times a power of two.  No
floating point operation is involved: every statement about a double is a statement about natural
numbers.
-/

namespace RowReader
namespace Number

structure Binary64 where
  bits : UInt64
  deriving DecidableEq, Repr

/-- What the bits say.  A finite double is `± significand · 2 ^ power`; a zero keeps its sign. -/
inductive Binary64.Reading where
  | nan
  | infinite (negative : Bool)
  | finite (negative : Bool) (significand : Nat) (power : Int)

namespace Binary64

/-- The power of two of the subnormal numbers, the smallest there is. -/
def leastPower : Int := -1074

def fractionField (x : Binary64) : Nat := x.bits.toNat % Nat.pow 2 52

def exponentField (x : Binary64) : Nat := x.bits.toNat / Nat.pow 2 52 % Nat.pow 2 11

def isNegative (x : Binary64) : Bool := Nat.pow 2 63 ≤ x.bits.toNat

def read (x : Binary64) : Reading :=
  if x.exponentField = 2047 then
    if x.fractionField = 0 then .infinite x.isNegative else .nan
  else if x.exponentField = 0 then .finite x.isNegative x.fractionField leastPower
  else .finite x.isNegative (Nat.pow 2 52 + x.fractionField) (x.exponentField - 1075)

def nan : Binary64 := ⟨0x7ff8000000000000⟩

/-- Every number that is not one counts as the same value. -/
def canonical (x : Binary64) : Binary64 :=
  match x.read with
  | .nan => nan
  | _ => x

/-- Joins a sign to the bits of a magnitude. -/
def withSign (negative : Bool) (magnitude : Nat) : Binary64 :=
  ⟨UInt64.ofNat (if negative then Nat.pow 2 63 + magnitude else magnitude)⟩

def infinite (negative : Bool) : Binary64 := withSign negative (2047 * Nat.pow 2 52)

/-- The significand of `num / den` in units of `2 ^ power`, rounded. -/
def significandAt (num den : Nat) (power : Int) : Nat :=
  let scale := Fraction.ofScaled 1 2 power
  roundHalfEven (num * scale.den) (den * scale.num)

/-- The double nearest to `± num / den`, ties to an even significand.  A magnitude past the
largest double becomes infinite.

A significand that rounds up to `2 ^ 53` carries into the exponent field by itself, so the
magnitude is one sum. -/
def ofRatio (negative : Bool) (num den : Nat) : Binary64 :=
  if num = 0 then withSign negative 0
  else
    let estimate : Int := Int.ofNat num.log2 - Int.ofNat den.log2 - 52
    let fits := fun (power : Int) =>
      let scale := Fraction.ofScaled 1 2 power
      Nat.pow 2 52 * (den * scale.num) ≤ num * scale.den
    let power := max leastPower (if fits estimate then estimate else estimate - 1)
    let magnitude := (power - leastPower).toNat * Nat.pow 2 52 + significandAt num den power
    withSign negative (min magnitude (2047 * Nat.pow 2 52))

/-- The integer a finite double equals, if it equals one. -/
def toInt? (x : Binary64) : Option Int :=
  match x.read with
  | .finite negative significand power =>
    let value := Fraction.ofScaled significand 2 power
    if value.num % value.den = 0 then
      let magnitude := Int.ofNat (value.num / value.den)
      some (if negative then -magnitude else magnitude)
    else none
  | _ => none

/-- The double nearest to the sum with an integer. -/
def plus (x : Binary64) (n : Int) : Binary64 :=
  match x.read with
  | .finite negative significand power =>
    let unit := Fraction.ofScaled 1 2 power
    let magnitude := Int.ofNat (significand * unit.num)
    let total := (if negative then -magnitude else magnitude) + n * Int.ofNat unit.den
    ofRatio (total < 0) total.natAbs unit.den
  | _ => x

end Binary64
end Number
end RowReader
