import Mathlib.Data.List.Basic
import RowReader.Proofs.Number.Numeral
import RowReader.Proofs.Plain.Json

/-!
# JSON that is read

A reader of JSON texts, with which to judge the texts that are written.  It takes the white space, the
escapes and the numerals that the grammar allows, and nothing else: no control character in a string,
no half of a surrogate pair, no numeral with a leading zero.  The only numbers that it reads are
integers, so a numeral with a fraction or an exponent has no value here, and neither has one with more
digits than a numeral may have.  A key that is repeated keeps its place and takes the last value.

Each part of the reader takes what it reads off the front of the text and returns the rest.  Those that
call each other count down a number with each call.  As every call takes a character, a number beyond
the length of the text is no limit.
-/

namespace RowReader
namespace Json

/-! ## The reader -/

def isSpace (c : Char) : Bool :=
  c == ' ' || c == '\t' || c == '\n' || c == '\r'

def skipSpace (cs : List Char) : List Char := cs.dropWhile isSpace

/-- What comes after this character, if it is the next one that is not white space. -/
def after? (c : Char) (cs : List Char) : Option (List Char) :=
  match skipSpace cs with
  | [] => none
  | d :: rest => if d = c then some rest else none

/-- The character that an escape of two characters stands for. -/
def named? (c : Char) : Option Char :=
  if c = '"' ∨ c = '\\' ∨ c = '/' then some c
  else if c = 'n' then some '\n'
  else if c = 'r' then some '\r'
  else if c = 't' then some '\t'
  else if c = 'f' then some '\x0c'
  else if c = 'b' then some '\x08'
  else none

def isHexDigit (c : Char) : Bool :=
  c.isDigit || ('a' ≤ c && c ≤ 'f') || ('A' ≤ c && c ≤ 'F')

/-- Four hexadecimal digits. -/
def readUnit (cs : List Char) : Option (Nat × List Char) :=
  let digits := cs.take 4
  if digits.length = 4 ∧ digits.all isHexDigit then some (Text.readHex digits, cs.drop 4) else none

def charOf (code : Nat) (rest : List Char) : Option (Char × List Char) :=
  if code.isValidChar then some (Char.ofNat code, rest) else none

/-- A numbered escape without its mark: one unit, or a high one and a low one with its mark. -/
def readUnits (cs : List Char) : Option (Char × List Char) := do
  let (unit, rest) ← readUnit cs
  if unit < 0xd800 ∨ 0xdc00 ≤ unit then charOf unit rest
  else
    let (low, rest) ← readUnit (← ['\\', 'u'].isPrefixOf? rest)
    if low < 0xdc00 ∨ 0xe000 ≤ low then none
    else charOf (0x10000 + (unit - 0xd800) * 0x400 + (low - 0xdc00)) rest

/-- An escape without its backslash. -/
def readEscape : List Char → Option (Char × List Char)
  | [] => none
  | c :: rest => if c = 'u' then readUnits rest else (named? c).map fun d => (d, rest)

/-- A string up to its closing quote, without the opening one. -/
def readChars : Nat → List Char → Option (List Char × List Char)
  | 0, _ => none
  | _ + 1, [] => none
  | fuel + 1, c :: rest =>
    if c = '"' then some ([], rest)
    else if c.toNat < 0x20 then none
    else do
      let (d, rest) ← if c = '\\' then readEscape rest else some (c, rest)
      let (ds, rest) ← readChars fuel rest
      return (d :: ds, rest)

/-- Whether a numeral goes on behind its integer part. -/
def goesOn (rest : List Char) : Bool :=
  rest.head?.any fun c => c == '.' || c == 'e' || c == 'E'

def readNatural (cs : List Char) : Option (Nat × List Char) :=
  let digits := cs.takeWhile Char.isDigit
  let rest := cs.dropWhile Char.isDigit
  if digits = [] ∨ digits.head? = some '0' ∧ 1 < digits.length ∨ goesOn rest ∨
      Number.digitLimit < digits.length then none
  else some (Number.ofDigits (digits.map fun c => c.toNat - 48), rest)

def readInteger (cs : List Char) : Option (Int × List Char) :=
  match ['-'].isPrefixOf? cs with
  | some rest => (readNatural rest).map fun (n, rest) => (-Int.ofNat n, rest)
  | none => (readNatural cs).map fun (n, rest) => (Int.ofNat n, rest)

/-- A value without quotes or brackets. -/
def readScalar (cs : List Char) : Option (Plain × List Char) :=
  match "null".toList.isPrefixOf? cs, "true".toList.isPrefixOf? cs,
    "false".toList.isPrefixOf? cs with
  | some rest, _, _ => some (.null, rest)
  | _, some rest, _ => some (.bool true, rest)
  | _, _, some rest => some (.bool false, rest)
  | _, _, _ => (readInteger cs).map fun (n, rest) => (.int n, rest)

/-- A key with the colon behind it. -/
def readKey (fuel : Nat) (cs : List Char) : Option (String × List Char) := do
  let (key, rest) ← readChars fuel (← after? '"' cs)
  return (String.ofList key, ← after? ':' rest)

mutual

def readValue : Nat → List Char → Option (Plain × List Char)
  | 0, _ => none
  | fuel + 1, cs =>
    match after? '"' cs, after? '[' cs, after? '\x7b' cs with
    | some rest, _, _ => (readChars fuel rest).map fun (s, rest) => (.text (String.ofList s), rest)
    | _, some rest, _ =>
      match after? ']' rest with
      | some rest => some (.list [], rest)
      | none => (readItems fuel rest).map fun (items, rest) => (.list items, rest)
    | _, _, some rest =>
      match after? '\x7d' rest with
      | some rest => some (.dict [], rest)
      | none => (readEntries fuel [] rest).map fun (entries, rest) => (.dict entries, rest)
    | none, none, none => readScalar (skipSpace cs)

/-- The items of a list that has some, up to its closing bracket. -/
def readItems : Nat → List Char → Option (List Plain × List Char)
  | 0, _ => none
  | fuel + 1, cs => do
    let (v, rest) ← readValue fuel cs
    match after? ']' rest with
    | some rest => return ([v], rest)
    | none =>
      let (items, rest) ← readItems fuel (← after? ',' rest)
      return (v :: items, rest)

/-- The entries that follow those that are done, up to the closing bracket. -/
def readEntries : Nat → List (Key × Plain) → List Char → Option (List (Key × Plain) × List Char)
  | 0, _, _ => none
  | fuel + 1, done, cs => do
    let (key, rest) ← readKey fuel cs
    let (v, rest) ← readValue fuel rest
    let done := Plain.setEntry done (.text key) v
    match after? '\x7d' rest with
    | some rest => return (done, rest)
    | none => readEntries fuel done (← after? ',' rest)

end

/-- The value that a whole text stands for. -/
def read (text : String) : Option Plain := do
  let (v, rest) ← readValue (text.toList.length + 1) text.toList
  if skipSpace rest = [] then some v else none

example : read " [\"\\uD83d\\uDE00\\/\", -20 , \x7b \x7d] " =
    some (.list [.text "😀/", .int (-20), .dict []]) := by
  cbv

/-! ## White space -/

theorem skipSpace_cons {c : Char} (visible : isSpace c = false) (cs : List Char) :
    skipSpace (c :: cs) = c :: cs := by
  rw [skipSpace, List.dropWhile_cons_of_neg]
  simp [visible]

theorem after?_cons {c : Char} (visible : isSpace c = false) (d : Char) (cs : List Char) :
    after? d (c :: cs) = if c = d then some cs else none := by
  rw [after?, skipSpace_cons visible]

theorem after?_of_ne {c d : Char} (visible : isSpace c = false) (other : c ≠ d) (cs : List Char) :
    after? d (c :: cs) = none := by
  rw [after?_cons visible, if_neg other]

/-! ## Strings -/

theorem isHexDigit_digitChar {d : Nat} (small : d < 16) : isHexDigit (Nat.digitChar d) = true := by
  have each : ∀ d < 16, isHexDigit (Nat.digitChar d) = true := by decide
  exact each d small

theorem isHexDigit_of_mem {width n : Nat} {c : Char} (member : c ∈ Text.hexDigits width n) :
    isHexDigit c = true := by
  induction width generalizing n with
  | zero => cases member
  | succ width ih =>
    rcases List.mem_append.mp member with front | last
    · exact ih front
    · rw [List.mem_singleton.mp last]
      exact isHexDigit_digitChar (Nat.mod_lt n (by decide))

theorem readUnit_hexDigits {n : Nat} (fits : n < 0x10000) (rest : List Char) :
    readUnit (Text.hexDigits 4 n ++ rest) = some (n, rest) := by
  have width := Text.hexDigits_length 4 n
  have front : (Text.hexDigits 4 n ++ rest).take 4 = Text.hexDigits 4 n := List.take_left' width
  have back : (Text.hexDigits 4 n ++ rest).drop 4 = rest := List.drop_left' width
  have digits : (Text.hexDigits 4 n).all isHexDigit = true :=
    List.all_eq_true.mpr fun _ member => isHexDigit_of_mem member
  simp only [readUnit, front, back, width, digits, Text.readHex_hexDigits_four fits, and_self,
    if_true]

theorem charOf_toNat (c : Char) (rest : List Char) : charOf c.toNat rest = some (c, rest) := by
  have valid : c.toNat.isValidChar := c.valid
  rw [charOf, if_pos valid, Char.ofNat_toNat]

theorem readUnits_whole {unit : Nat} (fits : unit < 0x10000) (whole : unit < 0xd800 ∨ 0xdc00 ≤ unit)
    (rest : List Char) : readUnits (Text.hexDigits 4 unit ++ rest) = charOf unit rest := by
  simp only [readUnits, readUnit_hexDigits fits, Option.bind_eq_bind, Option.bind_some, if_pos whole]

theorem readUnits_pair {high low : Nat} (isHigh : 0xd800 ≤ high ∧ high < 0xdc00)
    (isLow : 0xdc00 ≤ low ∧ low < 0xe000) (rest : List Char) :
    readUnits (Text.hexDigits 4 high ++ '\\' :: 'u' :: (Text.hexDigits 4 low ++ rest)) =
      charOf (0x10000 + (high - 0xd800) * 0x400 + (low - 0xdc00)) rest := by
  have marked : ['\\', 'u'].isPrefixOf? ('\\' :: 'u' :: (Text.hexDigits 4 low ++ rest)) =
      some (Text.hexDigits 4 low ++ rest) := rfl
  have half : ¬ (high < 0xd800 ∨ 0xdc00 ≤ high) := by omega
  have other : ¬ (low < 0xdc00 ∨ 0xe000 ≤ low) := by omega
  have highFits : high < 0x10000 := by omega
  have lowFits : low < 0x10000 := by omega
  simp only [readUnits, readUnit_hexDigits highFits, readUnit_hexDigits lowFits,
    Option.bind_eq_bind, Option.bind_some, if_neg half, marked, if_neg other]

/-- A numbered escape is read as its character, be it in the basic plane or outside. -/
theorem readEscape_escapeUnits (c : Char) (rest : List Char) :
    ∃ escape, escapeUnits c.toNat = '\\' :: escape ∧
      readEscape (escape ++ rest) = some (c, rest) := by
  have scalar : c.toNat < 0xd800 ∨ 0xdfff < c.toNat ∧ c.toNat < 0x110000 := c.valid
  unfold escapeUnits
  by_cases basic : c.toNat < 0x10000
  · refine ⟨'u' :: Text.hexDigits 4 c.toNat, if_pos basic, ?_⟩
    exact (readUnits_whole basic (by omega) rest).trans (charOf_toNat c rest)
  · let offset := c.toNat - 0x10000
    refine ⟨'u' :: (Text.hexDigits 4 (0xd800 + offset / 0x400) ++
      '\\' :: 'u' :: Text.hexDigits 4 (0xdc00 + offset % 0x400)), if_neg basic, ?_⟩
    have isHigh : 0xd800 ≤ 0xd800 + offset / 0x400 ∧ 0xd800 + offset / 0x400 < 0xdc00 := by omega
    have isLow : 0xdc00 ≤ 0xdc00 + offset % 0x400 ∧ 0xdc00 + offset % 0x400 < 0xe000 := by omega
    have pair := readUnits_pair isHigh isLow rest
    have code : 0x10000 + (0xd800 + offset / 0x400 - 0xd800) * 0x400 +
        (0xdc00 + offset % 0x400 - 0xdc00) = c.toNat := by omega
    rw [code, charOf_toNat] at pair
    rw [← pair]
    simp only [List.cons_append, List.append_assoc]
    rfl

theorem readChars_escaped {escape rest : List Char} {c : Char} (fuel : Nat)
    (known : readEscape (escape ++ rest) = some (c, rest)) :
    readChars (fuel + 1) ('\\' :: escape ++ rest) =
      (readChars fuel rest).map fun (cs, rest) => (c :: cs, rest) := by
  rw [List.cons_append, Option.map_eq_bind, readChars, if_neg (by decide), if_neg (by decide),
    if_pos rfl, known]
  rfl

theorem readChars_plain {c : Char} (fuel : Nat) (quote : c ≠ '"') (backslash : c ≠ '\\')
    (visible : 0x20 ≤ c.toNat) (rest : List Char) :
    readChars (fuel + 1) (c :: rest) =
      (readChars fuel rest).map fun (cs, rest) => (c :: cs, rest) := by
  rw [Option.map_eq_bind, readChars, if_neg quote, if_neg (Nat.not_lt.mpr visible),
    if_neg backslash]
  rfl

/-- The letter of an escape is not the mark of a numbered one, and is read as the character. -/
theorem readEscape_letter {c letter : Char} (listed : (c, letter) ∈ namedEscapes)
    (rest : List Char) : readEscape (letter :: rest) = some (c, rest) := by
  have known : ∀ escape ∈ namedEscapes, escape.2 ≠ 'u' ∧ named? escape.2 = some escape.1 := by
    decide
  rcases known _ listed with ⟨unmarked, named⟩
  rw [readEscape, if_neg unmarked, named]
  rfl

/-- However a character is written in a string, it is read as itself. -/
theorem readChars_escapeChar (fuel : Nat) (c : Char) (rest : List Char) :
    readChars (fuel + 1) (escapeChar true c ++ rest) =
      (readChars fuel rest).map fun (cs, rest) => (c :: cs, rest) := by
  have escaped := escaped_escapeChar c
  generalize escapeChar true c = cs at escaped ⊢
  cases escaped with
  | named listed => exact readChars_escaped fuel (readEscape_letter listed rest)
  | numbered =>
    rcases readEscape_escapeUnits c rest with ⟨escape, written, known⟩
    rw [written]
    exact readChars_escaped fuel known
  | itself quote backslash printable =>
    exact readChars_plain fuel quote backslash printable.1 rest

/-- A string is read back, up to its closing quote. -/
theorem readChars_string {fuel : Nat} {cs : List Char} (long : cs.length < fuel)
    (rest : List Char) :
    readChars fuel (cs.flatMap (escapeChar true) ++ '"' :: rest) = some (cs, rest) := by
  induction cs generalizing fuel with
  | nil =>
    cases fuel with
    | zero => cases long
    | succ fuel => rfl
  | cons c cs ih =>
    cases fuel with
    | zero => cases long
    | succ fuel =>
      rw [List.flatMap_cons, List.append_assoc, readChars_escapeChar,
        ih (Nat.lt_of_succ_lt_succ long)]
      rfl

/-- No character is written as nothing. -/
theorem escapeChar_ne_nil (c : Char) : escapeChar true c ≠ [] := by
  intro nothing
  have skipped := readChars_escapeChar 1 c ['"']
  rw [nothing] at skipped
  cases skipped

theorem length_le_escaped (cs : List Char) : cs.length ≤ (cs.flatMap (escapeChar true)).length := by
  induction cs with
  | nil => exact Nat.le_refl 0
  | cons c cs ih =>
    have first := List.length_pos_iff.mpr (escapeChar_ne_nil c)
    rw [List.flatMap_cons, List.length_append, List.length_cons]
    omega

/-! ## Numerals -/

/-- What may stand behind a value. -/
def Ends (rest : List Char) : Prop :=
  ∀ c, rest.head? = some c → c = ',' ∨ c = ']' ∨ c = '\x7d'

theorem ends_nil : Ends [] := fun _ => nofun

theorem ends_cons {c : Char} (closing : c = ',' ∨ c = ']' ∨ c = '\x7d') (rest : List Char) :
    Ends (c :: rest) := by
  rintro _ ⟨⟩
  exact closing

theorem Ends.not_goesOn {rest : List Char} (ends : Ends rest) : goesOn rest = false := by
  cases rest with
  | nil => rfl
  | cons c rest => rcases ends c rfl with rfl | rfl | rfl <;> rfl

theorem Ends.takeWhile_isDigit {rest : List Char} (ends : Ends rest) :
    rest.takeWhile Char.isDigit = [] := by
  cases rest with
  | nil => rfl
  | cons c rest => rcases ends c rfl with rfl | rfl | rfl <;> rfl

theorem Ends.dropWhile_isDigit {rest : List Char} (ends : Ends rest) :
    rest.dropWhile Char.isDigit = rest := by
  cases rest with
  | nil => rfl
  | cons c rest => rcases ends c rfl with rfl | rfl | rfl <;> rfl

/-- Only zero is written with a zero in front. -/
theorem head?_toDigits {n : Nat} (positive : 0 < n) : (Nat.toDigits 10 n).head? ≠ some '0' := by
  induction n using Nat.strongRecOn with
  | ind n ih =>
    by_cases small : n < 10
    · have each : ∀ d < 10, 0 < d → some (Nat.digitChar d) ≠ some '0' := by decide
      rw [Nat.toDigits_of_lt_base small]
      exact each n small positive
    · have front := ih (n / 10) (by omega) (by omega)
      rw [Nat.toDigits_of_base_le (by decide) (Nat.not_lt.mp small), List.head?_append]
      cases first : (Nat.toDigits 10 (n / 10)).head? with
      | none => exact absurd (List.head?_eq_none_iff.mp first) Nat.toDigits_ne_nil
      | some c =>
        rw [first] at front
        exact front

theorem readNatural_toDigits {n : Nat} (short : Number.Short n) {rest : List Char}
    (ends : Ends rest) :
    readNatural (Nat.toDigits 10 n ++ rest) = some (n, rest) := by
  have digits : ∀ c ∈ Nat.toDigits 10 n, c.isDigit = true :=
    fun _ member => Nat.isDigit_of_mem_toDigits (by decide) (by decide) member
  have front : (Nat.toDigits 10 n ++ rest).takeWhile Char.isDigit = Nat.toDigits 10 n := by
    rw [List.takeWhile_append_of_pos digits, ends.takeWhile_isDigit, List.append_nil]
  have back : (Nat.toDigits 10 n ++ rest).dropWhile Char.isDigit = rest := by
    rw [List.dropWhile_append_of_pos digits, ends.dropWhile_isDigit]
  have leading : ¬ ((Nat.toDigits 10 n).head? = some '0' ∧ 1 < (Nat.toDigits 10 n).length) := by
    rintro ⟨zero, long⟩
    rcases Nat.eq_zero_or_pos n with rfl | positive
    · exact absurd long (by decide)
    · exact head?_toDigits positive zero
  have within : ¬ Number.digitLimit < (Nat.toDigits 10 n).length := Nat.not_lt.mpr short
  simp only [readNatural, front, back, Nat.toDigits_ne_nil, leading, ends.not_goesOn, within,
    Bool.false_eq_true, or_self, if_false, Number.ofDigits_toDigits]

theorem readInteger_minus (cs : List Char) :
    readInteger ('-' :: cs) = (readNatural cs).map fun (n, rest) => (-Int.ofNat n, rest) := rfl

theorem readInteger_digit {c : Char} (digit : c.isDigit = true) (cs : List Char) :
    readInteger (c :: cs) =
      (readNatural (c :: cs)).map fun (n, rest) => (Int.ofNat n, rest) := by
  have other : ('-' == c) = false := by
    rw [beq_eq_false_iff_ne]
    rintro rfl
    cases digit
  simp [readInteger, List.isPrefixOf?, other]

theorem toList_toString (n : Nat) : (toString n).toList = Nat.toDigits 10 n := by
  rw [Nat.toString_eq_ofList_toDigits, String.toList_ofList]

/-- The digits of a number begin with one. -/
theorem exists_digit (n : Nat) : ∃ c cs, Nat.toDigits 10 n = c :: cs ∧ c.isDigit = true := by
  cases listed : Nat.toDigits 10 n with
  | nil => exact absurd listed Nat.toDigits_ne_nil
  | cons c cs =>
    have member : c ∈ Nat.toDigits 10 n := listed ▸ List.mem_cons_self
    exact ⟨c, cs, rfl, Nat.isDigit_of_mem_toDigits (by decide) (by decide) member⟩

/-- An integer that is short enough to be written is read back. -/
theorem readInteger_toString {n : Int} (short : Number.Short n) {rest : List Char}
    (ends : Ends rest) : readInteger ((toString n).toList ++ rest) = some (n, rest) := by
  cases n with
  | ofNat n =>
    have whole := readNatural_toDigits short ends
    change readInteger ((toString n).toList ++ rest) = _
    rw [toList_toString]
    rcases exists_digit n with ⟨c, cs, listed, digit⟩
    rw [listed, List.cons_append] at whole ⊢
    rw [readInteger_digit digit, whole]
    rfl
  | negSucc n =>
    change readInteger (("-" ++ toString (n + 1)).toList ++ rest) = _
    rw [String.toList_append, toList_toString]
    change readInteger ('-' :: (Nat.toDigits 10 (n + 1) ++ rest)) = _
    have whole : readNatural (Nat.toDigits 10 (n + 1) ++ rest) = some (n + 1, rest) :=
      readNatural_toDigits short ends
    rw [readInteger_minus, whole]
    rfl

end Json
end RowReader
