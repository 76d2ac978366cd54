import RowReader.Base64
import RowReader.Value.Equality

/-!
# Plain values

A plain value can be written as JSON: it holds truth values, numbers and texts, lists, and
dictionaries whose keys are scalars.  `Value.toPlain` reduces a cell value to a plain one.  Lists
and tuples become lists, a record becomes a dictionary from its names, bytes become base64, and
calendar values and decimals their texts.

The reduction fails exactly where a dictionary has a key that stops being a scalar, which is a
tuple or a record.
-/

namespace RowReader

open Number Calendar

/-- A scalar that may be a key. -/
inductive Key where
  | null
  | bool (b : Bool)
  | int (n : Int)
  | float (x : Binary64)
  | text (s : String)
  deriving DecidableEq

inductive Plain where
  | null
  | bool (b : Bool)
  | int (n : Int)
  | float (x : Binary64)
  | text (s : String)
  | list (items : List Plain)
  | dict (entries : List (Key × Plain))
  deriving Inhabited

namespace Key

def toValue : Key → Value
  | null => .null
  | bool b => .bool b
  | int n => .int n
  | float x => .float x
  | text s => .text s

/-- Keys are the same when a dictionary holds them in one place. -/
def same (a b : Key) : Bool :=
  a.toValue.sameKey b.toValue

end Key

namespace Plain

/-- Sets a key: an equal key keeps its place and takes the new value. -/
def setEntry (entries : List (Key × Plain)) (key : Key) (v : Plain) : List (Key × Plain) :=
  if entries.any (fun entry => entry.1.same key) then
    entries.map fun entry => if entry.1.same key then (entry.1, v) else entry
  else entries ++ [(key, v)]

/-- The key a plain value is, unless it is of a kind that cannot be one. -/
def toKey : Plain → Except Unhashable Key
  | null => .ok .null
  | bool b => .ok (.bool b)
  | int n => .ok (.int n)
  | float x => .ok (.float x)
  | text s => .ok (.text s)
  | list _ => .error (.kind "list")
  | dict _ => .error (.kind "dict")

mutual

def toValue : Plain → Value
  | null => .null
  | bool b => .bool b
  | int n => .int n
  | float x => .float x
  | text s => .text s
  | list items => .list (toValues items)
  | dict entries => .dict (entriesToValues entries)

def toValues : List Plain → List Value
  | [] => []
  | v :: rest => toValue v :: toValues rest

def entriesToValues : List (Key × Plain) → List (Value × Value)
  | [] => []
  | (key, v) :: rest => (key.toValue, toValue v) :: entriesToValues rest

end

end Plain

namespace Value

/-- The seconds of a duration, rounded to the nearest double. -/
def totalSeconds (d : Duration) : Binary64 :=
  let total := d.totalMicroseconds
  Binary64.ofRatio (total < 0) total.natAbs 1000000

mutual

def toPlain : Value → Except Unhashable Plain
  | null => .ok .null
  | bool b => .ok (.bool b)
  | int n => .ok (.int n)
  | float x => .ok (.float x)
  | text s => .ok (.text s)
  | bytes data => .ok (.text (Base64.encode data))
  | date d => .ok (.text d.text)
  | time t => .ok (.text t.text)
  | moment m => .ok (.text (m.textWith "T"))
  | duration d => .ok (.float (totalSeconds d))
  | decimal d => .ok (.text d.text)
  | list items => (itemsToPlain items).map .list
  | tuple items => (itemsToPlain items).map .list
  | dict entries => (entriesToPlain entries []).map .dict
  | record cells => (cellsToPlain cells []).map .dict

def itemsToPlain : List Value → Except Unhashable (List Plain)
  | [] => .ok []
  | v :: rest =>
    match toPlain v with
    | .error e => .error e
    | .ok p => (itemsToPlain rest).map (p :: ·)

/-- Both parts of an entry are reduced before the key is entered. -/
def entriesToPlain :
    List (Value × Value) → List (Key × Plain) → Except Unhashable (List (Key × Plain))
  | [], done => .ok done
  | (key, v) :: rest, done =>
    match toPlain key with
    | .error e => .error e
    | .ok plainKey =>
      match toPlain v with
      | .error e => .error e
      | .ok p =>
        match plainKey.toKey with
        | .error e => .error e
        | .ok k => entriesToPlain rest (Plain.setEntry done k p)

/-- A repeated name keeps its first place and takes the last value. -/
def cellsToPlain :
    List (String × Value) → List (Key × Plain) → Except Unhashable (List (Key × Plain))
  | [], done => .ok done
  | (name, v) :: rest, done =>
    match toPlain v with
    | .error e => .error e
    | .ok p => cellsToPlain rest (Plain.setEntry done (.text name) p)

end

end Value
end RowReader
