import RowReader.Number.DecimalSum
import RowReader.Plain
import RowReader.Value.Text

/-!
# Rows

A row is a sequence of values with a field name for each.  It is looked up by name or by position
and sliced like a sequence.  A name may be repeated: looking up finds the first place, while the
dictionary of a row keeps the last value.
-/

namespace RowReader

/-- Names and values in pairs, so there are as many of one as of the other. -/
structure Row where
  cells : List (String × Value)
  deriving Inhabited

/-- What can go wrong when a row is built or looked up. -/
inductive RowError where
  | lengths (values names : Nat)
  | missingField (name : String)
  | positionOutOfRange
  | positionTooLarge
  | notAPosition (kind : String)
  | notASliceBound
  | zeroStep
  | absentValue
  | boundTooGreat
  | unhashable (e : Unhashable)
  | comparison (e : ComparisonError)
  deriving DecidableEq, Repr

namespace RowError

def message : RowError → String
  | lengths values names => s!"Row has {values} values for {names} fields"
  | missingField name => Text.quote name
  | positionOutOfRange => "tuple index out of range"
  | positionTooLarge => "cannot fit 'int' into an index-sized integer"
  | notAPosition kind => "tuple indices must be integers or slices, not " ++ kind
  | notASliceBound => "slice indices must be integers or None or have an __index__ method"
  | zeroStep => "slice step cannot be zero"
  | absentValue => ""
  | boundTooGreat => "[<class 'decimal.Overflow'>]"
  | unhashable e => e.message
  | comparison e => e.message

end RowError

namespace Row

/-- Pairs names with values, which must be equally many. -/
def ofLists (names : List String) (values : List Value) : Except RowError Row :=
  if names.length = values.length then .ok ⟨names.zip values⟩
  else .error (.lengths values.length names.length)

def fields (row : Row) : List String := row.cells.map Prod.fst

def values (row : Row) : List Value := row.cells.map Prod.snd

def size (row : Row) : Nat := row.cells.length

@[simp] theorem length_fields (row : Row) : row.fields.length = row.size := by
  simp [fields, size]

@[simp] theorem length_values (row : Row) : row.values.length = row.size := by
  simp [values, size]

/-! ## Looking up -/

/-- The value at the first place of a name. -/
def valueOf? (row : Row) (name : String) : Option Value :=
  (row.cells.find? fun cell => cell.1 == name).map Prod.snd

/-- The largest position a sequence can have. -/
def positionLimit : Int := Int.pow 2 63

/-- The value at a place counted from the first. -/
def valueAtPlace (row : Row) (place : Nat) : Except RowError Value :=
  match row.values[place]? with
  | some v => .ok v
  | none => .error .positionOutOfRange

/-- The value at a position; negative positions count from the end. -/
def valueAt (row : Row) (position : Int) : Except RowError Value :=
  if position < -positionLimit ∨ positionLimit ≤ position then .error .positionTooLarge
  else
    let place := if position < 0 then position + Int.ofNat row.size else position
    if place < 0 then .error .positionOutOfRange else row.valueAtPlace place.toNat

/-- Texts look up a name, integers and truth values a position. -/
def lookUp (row : Row) (key : Value) : Except RowError Value :=
  match key with
  | .text name =>
    match row.valueOf? name with
    | some v => .ok v
    | none => .error (.missingField name)
  | .int n => row.valueAt n
  | .bool b => row.valueAt (if b then 1 else 0)
  | other => .error (.notAPosition other.kindName)

/-- Looks up with a default for a missing name; other failures stay failures. -/
def getD (row : Row) (key : Value) (default : Value) : Except RowError Value :=
  match row.lookUp key with
  | .error (.missingField _) => .ok default
  | result => result

/-! ## Slices -/

/-- A bound of a slice, which may be left out. -/
def sliceBound? (v : Value) : Except RowError (Option Int) :=
  match v with
  | .null => .ok none
  | .int n => .ok (some n)
  | .bool b => .ok (some (if b then 1 else 0))
  | _ => .error .notASliceBound

/-- A bound counted from the start and moved into `low .. high`. -/
def clampBound (size low high : Int) (bound : Int) : Int :=
  let place := if bound < 0 then bound + size else bound
  max low (min place high)

/-- Every `step`-th position from `start` up to, but not including, `stop`. -/
def slicePositions (size : Nat) (start stop : Option Int) (step : Int) : List Nat :=
  let n := Int.ofNat size
  let (low, high) := if step < 0 then (-1, n - 1) else (0, n)
  let first := match start with
    | some bound => clampBound n low high bound
    | none => if step < 0 then high else low
  let last := match stop with
    | some bound => clampBound n low high bound
    | none => if step < 0 then low else high
  let count :=
    if step < 0 then (first - last - step - 1).tdiv (-step)
    else (last - first + step - 1).tdiv step
  (List.range count.toNat).map fun i => (first + Int.ofNat i * step).toNat

/-- The values at the positions of a slice; the step is checked first. -/
def slice (row : Row) (start stop step : Value) : Except RowError (List Value) := do
  let stride := (← sliceBound? step).getD 1
  if stride = 0 then throw .zeroStep
  let first ← sliceBound? start
  let last ← sliceBound? stop
  return (slicePositions row.size first last stride).filterMap fun i => row.values[i]?

/-! ## Searching -/

def contains (row : Row) (v : Value) : Except ComparisonError Bool :=
  row.values.anyM fun other => other.same v

def count (row : Row) (v : Value) : Except ComparisonError Nat := do
  return (← row.values.filterM fun other => other.same v).length

/-- A bound of a search.  A negative one counts from the end and stays a number of its kind. -/
def searchBound (row : Row) (bound : Value) : Except RowError Value := do
  let n := Int.ofNat row.size
  if bound.isNull then return bound
  if ← (bound.precedes (.int 0)).mapError .comparison then
    match bound with
    | .int place => return .int (place + n)
    | .float x => return .float (x.plus n)
    | .decimal d =>
      match d.plus? n with
      | some place => return .decimal place
      | none => throw .boundTooGreat
    | other => return other
  else return bound

/-- The start of a search, which is not before the first place. -/
def searchStart (row : Row) (start : Value) : Except RowError Value := do
  let first ← row.searchBound start
  if first.isNull then return first
  if ← (first.precedes (.int 0)).mapError .comparison then return .int 0 else return first

/-- Whether a search ends before a place; without an end it goes on. -/
def searchEnds (stop place : Value) : Except ComparisonError Bool :=
  if stop.isNull then .ok false else (place.precedes stop).map (!·)

/-- The place of the first of the values from `place` on that equals `v`. -/
def firstEqual (v stop : Value) :
    Int → List Value → Except ComparisonError (Option Int)
  | place, [] => (searchEnds stop (.int place)).map fun _ => none
  | place, other :: rest => do
    if ← searchEnds stop (.int place) then return none
    else if ← other.same v then return some place
    else firstEqual v stop (place + 1) rest

/-- The first position of a value from `start` on and before `stop`, either of which may be null.
The start is the answer as it was given if the search ends there. -/
def indexOf (row : Row) (v start stop : Value) : Except RowError Value := do
  let first ← row.searchStart start
  let stop ← row.searchBound stop
  let place? : Option Int := match first with
    | .int place => some place
    | .bool b => some (if b then 1 else 0)
    | _ => none
  match place? with
  | some place =>
    let rest := row.values.drop place.toNat
    match ← (firstEqual v stop place rest).mapError .comparison with
    | some found => return if found = place then first else .int found
    | none => throw .absentValue
  | none =>
    if ← (searchEnds stop first).mapError .comparison then throw .absentValue
    else throw (.notAPosition first.kindName)

/-! ## Comparing and converting -/

def toValue (row : Row) : Value := .record row.cells

def same (a b : Row) : Except ComparisonError Bool := a.toValue.same b.toValue

/-- Whether a value equals a row.  A tuple leaves the comparison to the row, which decides what is
compared first. -/
def equals (other : Value) (row : Row) : Except ComparisonError Bool :=
  match other with
  | .tuple _ => row.toValue.same other
  | _ => other.same row.toValue

def fingerprint (row : Row) : Except RowError Value.Fingerprint :=
  match row.toValue.fingerprint with
  | .ok print => .ok print
  | .error e => .error (.unhashable e)

/-- Names with values, where a repeated name keeps its first place and takes the last value. -/
def toDict (row : Row) : List (String × Value) :=
  row.cells.foldl enter []
where
  enter (done : List (String × Value)) (cell : String × Value) : List (String × Value) :=
    if done.any fun other => other.1 == cell.1 then
      done.map fun other => if other.1 == cell.1 then (other.1, cell.2) else other
    else done ++ [cell]

def toPlain (row : Row) : Except Unhashable Plain := row.toValue.toPlain

def literal (row : Row) : Except Number.Overlong String := row.toValue.literal

end Row
end RowReader
