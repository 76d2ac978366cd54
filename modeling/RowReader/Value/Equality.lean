import RowReader.Value

/-!
# Equality, order and fingerprints of values

Values are compared by meaning: numbers of different kinds by their exact values, moments with a
zone in universal time, dictionaries regardless of order, and a record with a tuple by its values
alone.  A value that is not a number differs from itself, so this is not an equivalence relation.

A comparison can fail: a signaling decimal refuses to be compared with any number.  Parts are
compared from the left and only as far as needed, so whether a failure is met depends on what
stands before it.  Lists and dictionaries of different sizes are told apart without looking at
their parts; tuples are not.

Equal values have equal fingerprints.  A fingerprint keeps what a hash sees: numbers up to a prime
modulus, texts and bytes by their stored bytes.  Lists, dictionaries and signaling decimals have
none.
-/

namespace RowReader

open Number Calendar

/-- Why two values cannot be compared. -/
inductive ComparisonError where
  /-- A signaling decimal met a number, or a decimal that is not a number was to be ordered. -/
  | invalid
  /-- Values of these kinds have no order. -/
  | unordered (left right : String)
  deriving DecidableEq, Repr

def ComparisonError.message : ComparisonError → String
  | invalid => "[<class 'decimal.InvalidOperation'>]"
  | unordered left right =>
    "'<' not supported between instances of " ++ Text.quote left ++ " and " ++ Text.quote right

/-- Why a value has no fingerprint. -/
inductive Unhashable where
  /-- Values of this kind never have one. -/
  | kind (name : String)
  | signaling
  deriving DecidableEq, Repr

def Unhashable.message : Unhashable → String
  | kind name => "unhashable type: " ++ Text.quote name
  | signaling => "Cannot hash a signaling NaN value"

namespace Value

def isDecimal : Value → Bool
  | decimal _ => true
  | _ => false

def isSignaling : Value → Bool
  | decimal d => d.isSignaling
  | _ => false

/-- Numbers by value, everything else within its own kind. -/
def sameScalar (a b : Value) : Except ComparisonError Bool :=
  match a, b with
  | null, null => .ok true
  | text s, text t => .ok (s == t)
  | bytes x, bytes y => .ok (x == y)
  | date x, date y => .ok (x == y)
  | time x, time y => .ok (x == y)
  | moment x, moment y => .ok (x.same y)
  | duration x, duration y => .ok (x == y)
  | a, b =>
    match a.number?, b.number? with
    | some x, some y =>
      if a.isSignaling || b.isSignaling then .error .invalid else .ok (x.equal y)
    | _, _ => .ok false

mutual

def same : Value → Value → Except ComparisonError Bool
  | list items, other =>
    match other with
    | list others => if items.length = others.length then sameItems items others else .ok false
    | _ => .ok false
  | tuple items, other =>
    match other with
    | tuple others => sameItems items others
    | record cells => sameItems items (cells.map Prod.snd)
    | _ => .ok false
  | dict entries, other =>
    match other with
    | dict others => if entries.length = others.length then subsumed entries others else .ok false
    | _ => .ok false
  | record cells, other =>
    match other with
    | record others =>
      if cells.map Prod.fst = others.map Prod.fst then sameCells cells (others.map Prod.snd)
      else .ok false
    | tuple others => sameCells cells others
    | _ => .ok false
  | a, b => sameScalar a b

def sameItems : List Value → List Value → Except ComparisonError Bool
  | [], others => .ok others.isEmpty
  | a :: rest, others =>
    match others with
    | [] => .ok false
    | b :: restOthers => do if ← same a b then sameItems rest restOthers else return false

/-- Every entry has an equal key with an equal value among the others. -/
def subsumed : List (Value × Value) → List (Value × Value) → Except ComparisonError Bool
  | [], _ => .ok true
  | (key, v) :: rest, others => do
    match ← others.findM? fun entry => same key entry.1 with
    | none => return false
    | some entry => if ← same v entry.2 then subsumed rest others else return false

def sameCells : List (String × Value) → List Value → Except ComparisonError Bool
  | [], others => .ok others.isEmpty
  | (_, a) :: rest, others =>
    match others with
    | [] => .ok false
    | b :: restOthers => do if ← same a b then sameCells rest restOthers else return false

end

/-- Whether the first value is strictly before the second.  Texts are ordered by code points and
numbers by value; other pairs have no order.  A double that is not a number is before nothing and
behind nothing, while a decimal refuses the question. -/
def precedes (a b : Value) : Except ComparisonError Bool :=
  match a, b with
  | text s, text t => .ok (s < t)
  | a, b =>
    match a.number?, b.number? with
    | some x, some y =>
      if (a.isDecimal || b.isDecimal) && (x.order? y).isNone then .error .invalid
      else .ok (x.below y)
    | _, _ => .error (.unordered a.kindName b.kindName)

/-- Keys are in one place of a dictionary when they are equal.  A key has a fingerprint, so it
holds no signaling decimal and the comparison does not fail. -/
def sameKey (a b : Value) : Bool :=
  match same a b with
  | .ok equal => equal
  | .error _ => false

/-- Sets a key: an equal key keeps its place and takes the new value. -/
def setEntry (entries : List (Value × Value)) (key v : Value) : List (Value × Value) :=
  if entries.any (fun entry => sameKey entry.1 key) then
    entries.map fun entry => if sameKey entry.1 key then (entry.1, v) else entry
  else entries ++ [(key, v)]

/-- What a hash sees of a value. -/
inductive Fingerprint where
  | nothing
  | number (residue : Int)
  | stored (data : List Nat)
  | sequence (parts : List Fingerprint)
  /-- What is not a number agrees with nothing, itself included. -/
  | unmatched

namespace Fingerprint

mutual

def agrees : Fingerprint → Fingerprint → Bool
  | nothing, other => match other with
    | nothing => true
    | _ => false
  | number m, other => match other with
    | number n => m == n
    | _ => false
  | stored data, other => match other with
    | stored others => data == others
    | _ => false
  | sequence parts, other => match other with
    | sequence others => allAgree parts others
    | _ => false
  | unmatched, _ => false

def allAgree : List Fingerprint → List Fingerprint → Bool
  | [], others => others.isEmpty
  | a :: rest, others =>
    match others with
    | [] => false
    | b :: restOthers => agrees a b && allAgree rest restOthers

end

end Fingerprint

/-- The prime `2 ^ 61 - 1`. -/
def modulus : Nat := Nat.pow 2 61 - 1

def powerMod (base exponent : Nat) : Nat :=
  go 64 (base % modulus) exponent 1
where
  /-- Square and multiply over the binary digits of the exponent. -/
  go : Nat → Nat → Nat → Nat → Nat
    | 0, _, _, result => result
    | steps + 1, square, rest, result =>
      go steps (square * square % modulus) (rest / 2)
        (if rest % 2 = 1 then result * square % modulus else result)

/-- A power of ten modulo the prime; by Fermat's theorem ten has the inverse
`10 ^ (modulus - 2)`. -/
def powerOfTenMod : Int → Nat
  | .ofNat up => powerMod 10 up
  | .negSucc down => powerMod (powerMod 10 (modulus - 2)) (down + 1)

/-- The residue minus one is moved to minus two. -/
def signedResidue (negative : Bool) (residue : Nat) : Int :=
  let signed := applySign negative residue
  if signed = -1 then -2 else signed

def numberFingerprint : Exact → Fingerprint
  | .nan => .unmatched
  | .infinite negative => .number (if negative then -314159 else 314159)
  | .finite negative coefficient exponent =>
    .number (signedResidue negative (coefficient % modulus * powerOfTenMod exponent % modulus))

/-- Stored bytes; an empty store looks like the number zero. -/
def storedFingerprint (data : List Nat) : Fingerprint :=
  if data.isEmpty then .number 0 else .stored data

/-- A text is stored with one, two or four bytes for each character, as its largest one needs. -/
def storedText (s : String) : List Nat :=
  let codes := s.toList.map Char.toNat
  if codes.all (· < 0x100) then codes
  else if codes.all (· < 0x10000) then codes.flatMap fun c => [c % 256, c / 256]
  else codes.flatMap fun c => [c % 256, c / 256 % 256, c / 65536 % 256, c / 16777216]

def durationFingerprint (d : Duration) : Fingerprint :=
  .sequence ([d.days, Int.ofNat d.seconds, Int.ofNat d.microseconds].map fun n =>
    numberFingerprint (.ofInt n))

def dateBytes (d : Date) : List Nat :=
  [d.year / 256, d.year % 256, d.month, d.day]

def timeBytes (t : TimeOfDay) : List Nat :=
  [t.hour, t.minute, t.second, t.microsecond / 65536, t.microsecond / 256 % 256,
    t.microsecond % 256]

mutual

/-- The fingerprint of a value, or why its first part without one has none. -/
def fingerprint : Value → Except Unhashable Fingerprint
  | null => .ok .nothing
  | text s => .ok (storedFingerprint (storedText s))
  | bytes data => .ok (storedFingerprint (data.map UInt8.toNat))
  | date d => .ok (storedFingerprint (dateBytes d))
  | time t => .ok (storedFingerprint (timeBytes t))
  | moment m =>
    match m.instant? with
    | some (seconds, microseconds) =>
      .ok (durationFingerprint (Duration.ofSeconds seconds microseconds))
    | none => .ok (storedFingerprint (dateBytes m.date ++ timeBytes m.time))
  | duration d => .ok (durationFingerprint d)
  | decimal d => if d.isSignaling then .error .signaling else .ok (numberFingerprint (.ofDecimal d))
  | list items => .error (.kind (list items).kindName)
  | dict entries => .error (.kind (dict entries).kindName)
  | tuple items => (fingerprints items).map .sequence
  | record cells => (cellFingerprints cells).map .sequence
  | v =>
    match v.number? with
    | some x => .ok (numberFingerprint x)
    | none => .ok .nothing

def fingerprints : List Value → Except Unhashable (List Fingerprint)
  | [] => .ok []
  | v :: rest => do
    let part ← fingerprint v
    return part :: (← fingerprints rest)

def cellFingerprints : List (String × Value) → Except Unhashable (List Fingerprint)
  | [] => .ok []
  | (_, v) :: rest => do
    let part ← fingerprint v
    return part :: (← cellFingerprints rest)

end

end Value
end RowReader
