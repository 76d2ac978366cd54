import RowReader.Number.Numeral

/-!
# Decimals

A decimal keeps its coefficient and its exponent, so `1.50` and `1.5` are different decimals of
equal value.  Its text is scientific when the exponent is positive or the number is below
`0.000001`, and positional otherwise.
-/

namespace RowReader
namespace Number

inductive Decimal where
  | finite (negative : Bool) (coefficient : Nat) (exponent : Int)
  | infinite (negative : Bool)
  /-- `payload` is what follows the name, often nothing. -/
  | nan (negative : Bool) (signaling : Bool) (payload : Option Nat)
  deriving DecidableEq, Repr

namespace Decimal

/-- Whether the decimal is a value that refuses every comparison with a number. -/
def isSignaling : Decimal → Bool
  | .nan _ signaling _ => signaling
  | _ => false

/-- Digits around a point that stands after `place` of them, filled up with zeros. -/
def pointed (digits : List Char) (place : Int) : List Char :=
  match place with
  | .negSucc below => '0' :: '.' :: (List.replicate (below + 1) '0' ++ digits)
  | .ofNat 0 => '0' :: '.' :: digits
  | .ofNat whole =>
    let padded := digits ++ List.replicate (whole - digits.length) '0'
    let decimals := padded.drop whole
    padded.take whole ++ (if decimals.isEmpty then [] else '.' :: decimals)

def magnitudeText (coefficient : Nat) (exponent : Int) : String :=
  let digits := Nat.toDigits 10 coefficient
  let leftDigits := exponent + Int.ofNat digits.length
  if exponent ≤ 0 ∧ -6 < leftDigits then String.ofList (pointed digits leftDigits)
  else
    let shift := leftDigits - 1
    let tail := if shift = 0 then ""
      else "E" ++ (if 0 < shift then "+" else "") ++ toString shift
    String.ofList (pointed digits 1) ++ tail

def text (x : Decimal) : String :=
  let signed := fun (negative : Bool) (magnitude : String) =>
    if negative then "-" ++ magnitude else magnitude
  match x with
  | .finite negative coefficient exponent => signed negative (magnitudeText coefficient exponent)
  | .infinite negative => signed negative "Infinity"
  | .nan negative signaling payload =>
    signed negative ((if signaling then "sNaN" else "NaN")
      ++ (match payload with | some n => toString n | none => ""))

/-- Digits with at most one point; the number of digits after it comes second. -/
def readMagnitude? (cs : List Char) : Option (Nat × Nat) :=
  let whole := cs.takeWhile Char.isDigit
  let digits? := fun (decimals : List Char) =>
    if decimals.all Char.isDigit && !(whole ++ decimals).isEmpty then
      some (ofDigits ((whole ++ decimals).map fun c => c.toNat - '0'.toNat), decimals.length)
    else none
  match cs.dropWhile Char.isDigit with
  | [] => digits? []
  | '.' :: decimals => digits? decimals
  | _ => none

def readExponent? (cs : List Char) : Option Int :=
  let (negative, digits) := splitSign cs
  if digits.isEmpty || !digits.all Char.isDigit then none
  else some (applySign negative (ofDigits (digits.map fun c => c.toNat - '0'.toNat)))

/-- The characters that count: no blanks around, no underscores, digits of any script as ASCII, and
letters in lower case. -/
def significantChars (text : String) : List Char :=
  ((Text.trimWhile Text.isBlank text.toList).filter (· != '_')).map fun c =>
    match Text.digitValue? c with
    | some d => Nat.digitChar d
    | none => c.toLower

/-- The payload of a value that is not a number; a payload of zero is none. -/
def readPayload? (cs : List Char) : Option (Option Nat) :=
  if cs.all Char.isDigit then
    let payload := ofDigits (cs.map fun c => c.toNat - '0'.toNat)
    some (if payload = 0 then none else some payload)
  else none

/-- Reads the text of a decimal. -/
def ofText? (text : String) : Option Decimal :=
  let (negative, body) := splitSign (significantChars text)
  match body with
  | ['i', 'n', 'f'] => some (.infinite negative)
  | ['i', 'n', 'f', 'i', 'n', 'i', 't', 'y'] => some (.infinite negative)
  | 'n' :: 'a' :: 'n' :: rest => (readPayload? rest).map (.nan negative false)
  | 's' :: 'n' :: 'a' :: 'n' :: rest => (readPayload? rest).map (.nan negative true)
  | _ => do
    let (coefficient, decimals) ← readMagnitude? (body.takeWhile (· != 'e'))
    let exponent ← match body.dropWhile (· != 'e') with
      | [] => some 0
      | _ :: rest => readExponent? rest
    some (.finite negative coefficient (exponent - Int.ofNat decimals))

end Decimal
end Number
end RowReader
