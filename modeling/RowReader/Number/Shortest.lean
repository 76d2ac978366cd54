import RowReader.Number.Binary64

/-!
# The shortest decimal that reads back

A double is written with the fewest decimal digits that identify it.  The reals that round to
`significand · 2 ^ power` form an interval around it, which contains its ends exactly when the
significand is even.  For each number of digits the two neighbours of the value on that decimal
grid are tried; the first grid with a neighbour inside the interval gives the digits.

The layout of the digits is a separate decision: positional from `0.0001` up to, but not
including, `1e16`, and scientific outside.
-/

namespace RowReader
namespace Number

/-- The rounding interval of a finite double, in units of `2 ^ unit`. -/
structure RoundingInterval where
  low : Nat
  value : Nat
  high : Nat
  unit : Int
  closed : Bool

/-- The lower half is narrower below a power of two, where the spacing of the doubles halves. -/
def RoundingInterval.of (significand : Nat) (power : Int) : RoundingInterval where
  low := if significand = Nat.pow 2 52 ∧ power ≠ Binary64.leastPower then 4 * significand - 1
    else 4 * significand - 2
  value := 4 * significand
  high := 4 * significand + 2
  unit := power - 2
  closed := significand % 2 = 0

/-- The exponent of the leading decimal digit of a positive fraction. -/
def leadingExponent (value : Fraction) : Int :=
  if value.den ≤ value.num then
    Int.ofNat ((Nat.toDigits 10 (value.num / value.den)).length - 1)
  else
    match (List.range 400).find? fun shift => value.den ≤ value.num * Nat.pow 10 shift with
    | some shift => -Int.ofNat shift
    | none => -400

/-- The neighbour of the value on the grid of multiples of `10 ^ exponent` that lies in the
interval; the nearer one if both do, and the even one if they are equally near. -/
def RoundingInterval.onGrid? (interval : RoundingInterval) (exponent : Int) : Option Nat :=
  let binary := Fraction.ofScaled 1 2 interval.unit
  let decimal := Fraction.ofScaled 1 10 exponent
  let scale := binary.num * decimal.den
  let step := binary.den * decimal.num
  let value := interval.value * scale
  let below := value / step
  let inside := fun (candidate : Nat) =>
    if interval.closed then
      interval.low * scale ≤ candidate * step && candidate * step ≤ interval.high * scale
    else
      interval.low * scale < candidate * step && candidate * step < interval.high * scale
  let nearest := roundHalfEven value step
  if inside nearest then some nearest
  else if inside below then some below
  else if inside (below + 1) then some (below + 1)
  else none

/-- Moves trailing zeros of the coefficient into the exponent. -/
def dropTrailingZeros : (steps : Nat) → Nat → Int → Nat × Int
  | 0, coefficient, exponent => (coefficient, exponent)
  | steps + 1, coefficient, exponent =>
    if coefficient % 10 = 0 && coefficient != 0 then
      dropTrailingZeros steps (coefficient / 10) (exponent + 1)
    else (coefficient, exponent)

/-- Coefficient and exponent of the shortest decimal for `significand · 2 ^ power`, which must be
positive.  Seventeen digits always identify a double. -/
def shortestDecimal (significand : Nat) (power : Int) : Nat × Int :=
  let interval := RoundingInterval.of significand power
  let leading := leadingExponent (Fraction.ofScaled significand 2 power)
  let attempt := fun (digits : Nat) =>
    let exponent := leading - Int.ofNat digits
    (interval.onGrid? exponent).map fun coefficient => (coefficient, exponent)
  match (List.range 17).findSome? attempt with
  | some (coefficient, exponent) => dropTrailingZeros 20 coefficient exponent
  | none => (significand, power)

/-- The decimal exponents that are written positionally lie strictly above `-5` and strictly
below `16`. -/
def isPositional (leading : Int) : Bool :=
  -5 < leading && leading < 16

/-- An exponent with its sign and at least two digits. -/
def exponentText (exponent : Int) : List Char :=
  let digits := Nat.toDigits 10 exponent.natAbs
  (if exponent < 0 then '-' else '+') :: (List.replicate (2 - digits.length) '0' ++ digits)

/-- Lays out decimal digits whose first one counts `10 ^ leading`. -/
def layoutDigits (digits : List Char) (leading : Int) : List Char :=
  if isPositional leading then
    match leading with
    | .negSucc below => '0' :: '.' :: (List.replicate below '0' ++ digits)
    | .ofNat whole =>
      let padded := digits ++ List.replicate (whole + 1 - digits.length) '0'
      let decimals := padded.drop (whole + 1)
      padded.take (whole + 1) ++ '.' :: (if decimals.isEmpty then ['0'] else decimals)
  else
    match digits with
    | [] => []
    | [first] => first :: 'e' :: exponentText leading
    | first :: rest => first :: '.' :: rest ++ 'e' :: exponentText leading

/-- How the values without digits are spelled. -/
structure SpecialNames where
  nan : String
  infinity : String

def Binary64.textWith (names : SpecialNames) (x : Binary64) : String :=
  let signed := fun (negative : Bool) (magnitude : String) =>
    if negative then "-" ++ magnitude else magnitude
  match x.read with
  | .nan => names.nan
  | .infinite negative => signed negative names.infinity
  | .finite negative 0 _ => signed negative "0.0"
  | .finite negative significand power =>
    let (coefficient, exponent) := shortestDecimal significand power
    let digits := Nat.toDigits 10 coefficient
    let leading := exponent + Int.ofNat digits.length - 1
    signed negative (String.ofList (layoutDigits digits leading))

/-- The text of a double inside a cell. -/
def Binary64.text (x : Binary64) : String :=
  x.textWith ⟨"nan", "inf"⟩

end Number
end RowReader
