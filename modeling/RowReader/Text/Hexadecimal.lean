/-!
# Hexadecimal digits

Numbers of a fixed width, and bytes as two digits each, in lower case.  Reading takes digits of
either case and reads back what was written.
-/

namespace RowReader
namespace Text

/-- The lowest `width` hexadecimal digits of a number, in lower case. -/
def hexDigits : (width : Nat) → Nat → List Char
  | 0, _ => []
  | width + 1, n => hexDigits width (n / 16) ++ [Nat.digitChar (n % 16)]

theorem hexDigits_length (width n : Nat) : (hexDigits width n).length = width := by
  induction width generalizing n with
  | zero => rfl
  | succ width ih => simp [hexDigits, ih]

def hexDigitValue (c : Char) : Nat :=
  if c.isDigit then c.toNat - '0'.toNat else c.toLower.toNat - 'a'.toNat + 10

/-- The number that hexadecimal digits stand for. -/
def readHex (digits : List Char) : Nat :=
  digits.foldl (fun n c => n * 16 + hexDigitValue c) 0

def hexOfBytes (bytes : List UInt8) : String :=
  String.ofList (bytes.flatMap fun b => hexDigits 2 b.toNat)

def bytesOfHex : List Char → List UInt8
  | high :: low :: rest => UInt8.ofNat (readHex [high, low]) :: bytesOfHex rest
  | _ => []

theorem hexDigitValue_digitChar {d : Nat} (small : d < 16) :
    hexDigitValue (Nat.digitChar d) = d := by
  have each : ∀ d < 16, hexDigitValue (Nat.digitChar d) = d := by decide
  exact each d small

theorem readHex_hexDigits_succ (width n : Nat) :
    readHex (hexDigits (width + 1) n) = readHex (hexDigits width (n / 16)) * 16 + n % 16 := by
  have digit := hexDigitValue_digitChar (Nat.mod_lt n (by decide : 0 < 16))
  rw [readHex, readHex, hexDigits, List.foldl_append, List.foldl_cons, List.foldl_nil, digit]

theorem readHex_hexDigits_two {n : Nat} (fits : n < 0x100) : readHex (hexDigits 2 n) = n := by
  have none (n : Nat) : readHex (hexDigits 0 n) = 0 := rfl
  rw [readHex_hexDigits_succ, readHex_hexDigits_succ, none]
  omega

theorem readHex_hexDigits_four {n : Nat} (fits : n < 0x10000) : readHex (hexDigits 4 n) = n := by
  have high := readHex_hexDigits_two (show n / 16 / 16 < 0x100 by omega)
  rw [readHex_hexDigits_succ, readHex_hexDigits_succ, high]
  omega

end Text
end RowReader
