import RowReader.Error

/-!
# A cache of byte ranges

The bytes of ranges that were fetched, the one used longest ago first.  A new range enters at the
end, and a range that is used again moves there.  When there are more than the capacity allows, the
ranges used longest ago leave.
-/

namespace RowReader

/-- The bytes from `start` up to `stop`. -/
structure ByteRange where
  start : Nat
  stop : Nat
  deriving DecidableEq, Repr

structure RangeCache where
  entries : List (ByteRange × List UInt8) := []

namespace RangeCache

def size (c : RangeCache) : Nat := c.entries.length

def ranges (c : RangeCache) : List ByteRange := c.entries.map Prod.fst

def find? (c : RangeCache) (range : ByteRange) : Option (List UInt8) :=
  (c.entries.find? fun entry => entry.1 == range).map Prod.snd

/-- Puts the bytes of a range at the end. -/
def put (c : RangeCache) (range : ByteRange) (data : List UInt8) : RangeCache :=
  { entries := c.entries.filter (fun entry => entry.1 != range) ++ [(range, data)] }

/-- Drops the ranges used longest ago until the capacity is kept.  A negative one cannot be kept:
everything is dropped. -/
def trim (capacity : Int) (c : RangeCache) : RangeCache :=
  { entries := c.entries.drop (c.size - capacity.toNat) }

/-- The failure to drop a range when none is left. -/
def exhausted : Error := .fault ⟨.key, "dictionary is empty"⟩

end RangeCache
end RowReader
