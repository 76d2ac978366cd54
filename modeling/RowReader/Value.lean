import RowReader.Calendar
import RowReader.Number.Exact

/-!
# Cell values

A decoded cell holds a scalar, or a nested list, tuple, dictionary or record.  A dictionary keeps
its entries in the order of insertion.  A record pairs every field name with a value, so its names
and values cannot differ in number; a name may occur more than once.
-/

namespace RowReader

open Number Calendar

inductive Value where
  | null
  | bool (b : Bool)
  | int (n : Int)
  | float (x : Binary64)
  | text (s : String)
  | bytes (data : List UInt8)
  | date (d : Date)
  | time (t : TimeOfDay)
  | moment (m : Moment)
  | duration (d : Duration)
  | decimal (d : Decimal)
  | list (items : List Value)
  | tuple (items : List Value)
  | dict (entries : List (Value × Value))
  | record (cells : List (String × Value))
  deriving Inhabited

namespace Value

def isNull : Value → Bool
  | null => true
  | _ => false

/-- The kind of a value as messages name it. -/
def kindName : Value → String
  | null => "NoneType"
  | bool _ => "bool"
  | int _ => "int"
  | float _ => "float"
  | text _ => "str"
  | bytes _ => "bytes"
  | date _ => "datetime.date"
  | time _ => "datetime.time"
  | moment _ => "datetime.datetime"
  | duration _ => "datetime.timedelta"
  | decimal _ => "decimal.Decimal"
  | list _ => "list"
  | tuple _ => "tuple"
  | dict _ => "dict"
  | record _ => "Row"

/-- The exact number a numeric value stands for; truth values count as zero and one. -/
def number? : Value → Option Exact
  | bool b => some (.ofInt (if b then 1 else 0))
  | int n => some (.ofInt n)
  | float x => some (.ofBinary64 x)
  | decimal d => some (.ofDecimal d)
  | _ => none

end Value
end RowReader
