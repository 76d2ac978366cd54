import RowReader.Text.Blank
import RowReader.Text.Digit
import RowReader.Text.Quoted

/-!
# Integers in text

Reading: a numeral has an optional sign and decimal digits of any script, with single underscores
allowed between digits, and may stand among white space.  Writing: a minus for a negative integer and
its decimal digits, which may be put in groups of three.

One limit on the number of digits holds both ways.  A numeral past it is not read, and an integer past
it is not written, whether it stands alone, in JSON or in a message.
-/

namespace RowReader
namespace Number

/-- Why a text is not an integer. -/
inductive NumeralError where
  | malformed
  /-- Numerals past the limit are refused before any arithmetic. -/
  | tooLong (digits : Nat)
  deriving DecidableEq, Repr

/-- The most digits a numeral may have, and an integer that is written. -/
def digitLimit : Nat := 4300

/-- Digit values, where an underscore may only stand between two digits. -/
def digitRun (digit? : Char → Option Nat) : List Char → Option (List Nat)
  | [] => none
  | [c] => (digit? c).map fun d => [d]
  | c :: '_' :: rest => do
    let d ← digit? c
    let ds ← digitRun digit? rest
    some (d :: ds)
  | c :: rest => do
    let d ← digit? c
    let ds ← digitRun digit? rest
    some (d :: ds)

/-- The number with the given decimal digits, most significant first. -/
def ofDigits (digits : List Nat) : Nat :=
  digits.foldl (fun value digit => 10 * value + digit) 0

/-- Splits an optional sign off; the flag says whether it was a minus. -/
def splitSign : List Char → Bool × List Char
  | '-' :: rest => (true, rest)
  | '+' :: rest => (false, rest)
  | cs => (false, cs)

def applySign (negative : Bool) (magnitude : Nat) : Int :=
  if negative then -Int.ofNat magnitude else Int.ofNat magnitude

/-- The integer a text denotes.  The digits are counted before what follows them is looked at. -/
def readInteger (text : String) : Except NumeralError Int :=
  let (negative, body) := splitSign (text.toList.dropWhile Text.isWhiteSpace)
  let inNumeral := fun (c : Char) => c == '_' || (Text.digitValue? c).isSome
  match digitRun Text.digitValue? (body.takeWhile inNumeral) with
  | none => .error .malformed
  | some digits =>
    if digitLimit < digits.length then .error (.tooLong digits.length)
    else if (body.dropWhile inNumeral).all Text.isWhiteSpace then
      .ok (applySign negative (ofDigits digits))
    else .error .malformed

/-- The message that refuses a text as an integer.  A very long literal is cut. -/
def NumeralError.message (text : String) : NumeralError → String
  | .malformed =>
    "invalid literal for int() with base 10: " ++ String.ofList ((Text.quote text).toList.take 200)
  | .tooLong digits =>
    s!"Exceeds the limit ({digitLimit} digits) for integer string conversion: "
      ++ s!"value has {digits} digits; use sys.set_int_max_str_digits() to increase the limit"

/-! ## Writing -/

/-- The decimal digits of an integer without its sign. -/
def decimalDigits (n : Int) : List Char := Nat.toDigits 10 n.natAbs

/-- An integer with few enough digits to be written. -/
def Short (n : Int) : Prop := (decimalDigits n).length ≤ digitLimit

instance (n : Int) : Decidable (Short n) := Nat.decLe _ _

/-- An integer has too many digits to be written.  How many is not said: they are not counted out. -/
structure Overlong where
  deriving DecidableEq, Repr

def Overlong.message (_ : Overlong) : String :=
  s!"Exceeds the limit ({digitLimit} digits) for integer string conversion; "
    ++ "use sys.set_int_max_str_digits() to increase the limit"

/-- An integer in decimal. -/
def writeInteger (n : Int) : Except Overlong String :=
  if Short n then .ok (toString n) else .error {}

/-- Digits in groups of three from the right. -/
def groupThousands (n : Int) : Except Overlong String :=
  if Short n then
    let grouped := group (decimalDigits n).length (decimalDigits n)
    .ok (String.ofList (if n < 0 then '-' :: grouped else grouped))
  else .error {}
where
  /-- `left` counts the digits still to come; a comma precedes each full group but the first. -/
  group : Nat → List Char → List Char
    | _, [] => []
    | left, c :: rest =>
      let grouped := group (left - 1) rest
      c :: (if 1 < left && left % 3 = 1 then ',' :: grouped else grouped)

end Number
end RowReader
