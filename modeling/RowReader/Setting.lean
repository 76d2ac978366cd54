import RowReader.Plain

/-!
# Checking settings

Options and fields can be built from settings of any plain value.  A setting is read leniently:
a text may stand for a number or a truth value, and a number for a truth value, where that is
unambiguous.  Every setting that cannot be read is a problem at its place; all of them are
reported together.
-/

namespace RowReader

/-- One step towards the setting a problem is about. -/
inductive SettingStep where
  | name (name : String)
  | item (position : Nat)
  deriving DecidableEq, Repr

inductive SettingProblem where
  | missing
  | notAString
  | notATuple
  | notABoolean
  | unreadableBoolean
  | notAnInteger
  | fractionalInteger
  | unreadableInteger
  | oversizedInteger
  | notFinite
  | notPositive
  /-- The setting is none of the listed codes. -/
  | notAChoice (codes : List Nat)
  | frozen
  /-- The settings are readable one by one and break a rule together. -/
  | rule (message : String)
  deriving DecidableEq, Repr

namespace SettingProblem

/-- Alternatives in words, with `or` before the last. -/
def alternatives : List String → String
  | [] => ""
  | [only] => only
  | [one, other] => one ++ " or " ++ other
  | first :: rest => first ++ ", " ++ alternatives rest

def message : SettingProblem → String
  | missing => "Field required"
  | notAString => "Input should be a valid string"
  | notATuple => "Input should be a valid tuple"
  | notABoolean => "Input should be a valid boolean"
  | unreadableBoolean => "Input should be a valid boolean, unable to interpret input"
  | notAnInteger => "Input should be a valid integer"
  | fractionalInteger => "Input should be a valid integer, got a number with a fractional part"
  | unreadableInteger => "Input should be a valid integer, unable to parse string as an integer"
  | oversizedInteger => "Unable to parse input string as an integer, exceeded maximum size"
  | notFinite => "Input should be a finite number"
  | notPositive => "Input should be greater than 0"
  | notAChoice codes => "Input should be " ++ alternatives (codes.map toString)
  | frozen => "Instance is frozen"
  | rule message => "Value error, " ++ message

/-- The name of a sort of problem. -/
def kindName : SettingProblem → String
  | missing => "missing"
  | notAString => "string_type"
  | notATuple => "tuple_type"
  | notABoolean => "bool_type"
  | unreadableBoolean => "bool_parsing"
  | notAnInteger => "int_type"
  | fractionalInteger => "int_from_float"
  | unreadableInteger => "int_parsing"
  | oversizedInteger => "int_parsing_size"
  | notFinite => "finite_number"
  | notPositive => "greater_than"
  | notAChoice _ => "enum"
  | frozen => "frozen_instance"
  | rule _ => "value_error"

end SettingProblem

/-- A problem and its place. -/
structure SettingError where
  place : List SettingStep
  problem : SettingProblem
  deriving DecidableEq, Repr

namespace Setting

open Number

/-- Settings by name. -/
abbrev Settings := List (String × Plain)

def find? (settings : Settings) (name : String) : Option Plain :=
  (settings.find? fun setting => setting.1 == name).map Prod.snd

def readString : Plain → Except SettingProblem String
  | .text s => .ok s
  | _ => .error .notAString

/-- The words for a truth value, compared without regard to case. -/
def truthWords : List (String × Bool) :=
  [("0", false), ("off", false), ("f", false), ("false", false), ("n", false), ("no", false),
    ("1", true), ("on", true), ("t", true), ("true", true), ("y", true), ("yes", true)]

def truthOfInteger (n : Int) : Except SettingProblem Bool :=
  if n = 0 then .ok false else if n = 1 then .ok true else .error .unreadableBoolean

/-- The integers of a machine word. -/
def isWord (n : Int) : Bool := -Int.pow 2 63 ≤ n && n < Int.pow 2 63

/-- The integer a double is, within a machine word and above its least value. -/
def integerOfDouble (x : Binary64) : Except SettingProblem Int :=
  match x.read, x.toInt? with
  | .finite _ _ _, some n =>
    if isWord n && n != -Int.pow 2 63 then .ok n else .error .oversizedInteger
  | .finite _ _ _, none => .error .fractionalInteger
  | _, _ => .error .notFinite

def readBoolean : Plain → Except SettingProblem Bool
  | .bool b => .ok b
  | .int n => if isWord n then truthOfInteger n else .error .notABoolean
  | .float x =>
    match integerOfDouble x with
    | .ok n => truthOfInteger n
    | .error _ => .error .notABoolean
  | .text s =>
    match truthWords.find? fun word => word.1 == s.map Char.toLower with
    | some word => .ok word.2
    | none => .error .unreadableBoolean
  | _ => .error .notABoolean

/-! ### Integers in texts -/

/-- An integer in its plain form: perhaps a minus, then digits that begin with zero only if they
are zero.  A numeral past the limit is refused whatever follows its digits. -/
def plainInteger (cs : List Char) : Except SettingProblem Int :=
  let (negative, body) := match cs with
    | '-' :: rest => (true, rest)
    | _ => (false, cs)
  let digits := match body with
    | '0' :: _ => ['0']
    | _ => body.takeWhile Char.isDigit
  if digits.isEmpty then .error .unreadableInteger
  else if digitLimit < digits.length then .error .oversizedInteger
  else if digits.length < body.length then .error .unreadableInteger
  else .ok (applySign negative (ofDigits (digits.map fun c => c.toNat - '0'.toNat)))

/-- Without a fraction that consists of zeros. -/
def dropZeroFraction (cs : List Char) : List Char :=
  let whole := cs.takeWhile (· != '.')
  let fraction := cs.drop (whole.length + 1)
  if !fraction.isEmpty && fraction.all (· == '0') then whole else cs

/-- Without zeros in front, and underscores among them; the last of them stays if nothing follows.
Only a digit or a minus may come first. -/
def dropLeadingZeros? : List Char → Option (List Char)
  | '0' :: rest => behind '0' rest
  | c :: rest => if c == '-' || c.isDigit then some (c :: rest) else none
  | [] => none
where
  behind (last : Char) : List Char → Option (List Char)
    | [] => some [last]
    | c :: rest =>
      if c == '0' || c == '_' then behind c rest
      else if c == '-' || c.isDigit then some (c :: rest)
      else none

/-- Whether two underscores stand side by side. -/
def hasDoubleUnderscore : List Char → Bool
  | '_' :: '_' :: _ => true
  | _ :: rest => hasDoubleUnderscore rest
  | [] => false

/-- Without underscores, if they all stand alone and inside the text. -/
def dropUnderscores (cs : List Char) : List Char :=
  if cs.head? == some '_' || cs.getLast? == some '_' || hasDoubleUnderscore cs then cs
  else cs.filter (· != '_')

/-- The plain form of an integer that stands among white space and may have a plus, a fraction of
zeros, zeros in front and underscores.  A minus stays in front of what the zeros leave. -/
def plainForm? (cs : List Char) : Option (List Char) :=
  let digits? := fun body => dropLeadingZeros? (dropZeroFraction body)
  let signed? := match Text.trimWhile Text.isWhiteSpace cs with
    | '+' :: '-' :: _ => none
    | '+' :: rest => digits? rest
    | '-' :: rest => (digits? rest).map ('-' :: ·)
    | trimmed => digits? trimmed
  signed?.map dropUnderscores

/-- The integer in a text.  The text is read as it stands, and then in its plain form, where a
numeral past the limit counts as no integer. -/
def integerInText (s : String) : Except SettingProblem Int :=
  match plainInteger s.toList with
  | .error .unreadableInteger =>
    match (plainForm? s.toList).map plainInteger with
    | some (.ok n) => .ok n
    | _ => .error .unreadableInteger
  | result => result

def readInteger : Plain → Except SettingProblem Int
  | .bool b => .ok (if b then 1 else 0)
  | .int n => .ok n
  | .float x => integerOfDouble x
  | .text s => integerInText s
  | _ => .error .notAnInteger

/-- A choice by its code, which has to be a machine word. -/
def readChoice {α : Type} (codes : List Nat) (ofCode? : Int → Option α) (v : Plain) :
    Except SettingProblem α :=
  match readInteger v with
  | .ok n =>
    if isWord n then
      match ofCode? n with
      | some choice => .ok choice
      | none => .error (.notAChoice codes)
    else .error .oversizedInteger
  | .error _ => .error (.notAChoice codes)

/-- A setting that may be null. -/
def readOptional {α : Type} (read : Plain → Except SettingProblem α) :
    Plain → Except SettingProblem (Option α)
  | .null => .ok none
  | v => (read v).map some

/-- Reads a setting with a default at its place. -/
def readOr {α : Type} (settings : Settings) (name : String) (default : α)
    (read : Plain → Except SettingProblem α) : Except (List SettingError) α :=
  match find? settings name with
  | none => .ok default
  | some v => (read v).mapError fun problem => [⟨[.name name], problem⟩]

/-- Reads a setting that has to be there. -/
def require {α : Type} (settings : Settings) (name : String)
    (read : Plain → Except SettingProblem α) : Except (List SettingError) α :=
  match find? settings name with
  | none => .error [⟨[.name name], .missing⟩]
  | some v => (read v).mapError fun problem => [⟨[.name name], problem⟩]

/-- The problems of a part, none if it could be read. -/
def problems {α : Type} : Except (List SettingError) α → List SettingError
  | .ok _ => []
  | .error es => es

end Setting
end RowReader
