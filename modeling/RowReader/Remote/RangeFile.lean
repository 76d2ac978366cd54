import RowReader.Remote
import RowReader.Remote.RangeCache

/-!
# Remote files read by ranges

A remote file as a file with a position.  Moving the position asks the server for nothing and keeps
it within the size that the server stated.  Reading fetches the range it needs unless the range is
in the cache, and moves the position by as many bytes as came back.  A read that fails leaves the
position where it was.
-/

namespace RowReader

structure RangeFile where
  url : String
  /-- The size the server stated, which may be anything. -/
  size : Int
  position : Nat := 0
  closed : Bool := false
  /-- How many ranges the cache may hold. -/
  capacity : Int
  cache : RangeCache := {}

namespace RangeFile

variable {ω α : Type}

def standardCapacity : Int := 8

/-- Opens a remote file by asking for its size. -/
def connect (srv : Server ω) (url : String) (capacity : Int) : Action ω RangeFile := do
  Action.ofExcept (Remote.checkUrl url)
  let size ← Remote.length srv url
  Action.debug .remoteFile ("Remote file " ++ url ++ s!" is {size} bytes")
  return { url, size, capacity }

def onServer (act : Action ω α) : Action (RangeFile × ω) α :=
  Action.onPart Prod.snd (fun w both => (both.1, w)) act

def current : Action (RangeFile × ω) RangeFile := fun both =>
  { result := .ok both.1, state := both }

def update (f : RangeFile → RangeFile) : Action (RangeFile × ω) Unit :=
  Action.modifyState fun both => (f both.1, both.2)

/-- The range a read of so many bytes needs: up to the end if the count is absent or negative. -/
def rangeFor (f : RangeFile) (count : Option Int) : Option ByteRange :=
  let start := Int.ofNat f.position
  let wanted := match count with
    | some n => if n < 0 then f.size - start else n
    | none => f.size - start
  let stop := min (start + wanted) f.size
  if stop ≤ start then none else some ⟨f.position, stop.toNat⟩

/-- Fetches a range and keeps it. -/
def fetch (srv : Server ω) (range : ByteRange) : Action (RangeFile × ω) (List UInt8) := do
  let f ← current
  Action.debug .remoteFile (s!"Fetching bytes {range.start}-{range.stop} of " ++ f.url)
  let data ← onServer (Remote.fetch srv f.url (Int.ofNat range.start) (Int.ofNat range.stop))
  update fun f => { f with cache := (f.cache.put range data).trim f.capacity }
  if f.capacity < 0 then Action.fail RangeCache.exhausted else return data

/-- The bytes of a range, from the cache or from the server. -/
def bytesOf (srv : Server ω) (range : ByteRange) : Action (RangeFile × ω) (List UInt8) := do
  match (← current).cache.find? range with
  | none => fetch srv range
  | some data =>
    update fun f => { f with cache := f.cache.put range data }
    return data

/-- Reads at most the given number of bytes, or the rest of the file. -/
def read (srv : Server ω) (count : Option Int) : Action (RangeFile × ω) (List UInt8) := do
  let f ← current
  if f.closed then Action.fail (.remoteClosed f.url)
  else
    match f.rangeFor count with
    | none => return []
    | some range =>
      let data ← bytesOf srv range
      update fun f => { f with position := range.start + data.length }
      return data

/-- A position brought into the file. -/
def clamp (f : RangeFile) (position : Int) : Nat :=
  (max 0 (min position f.size)).toNat

def target (f : RangeFile) (offset : Int) : Whence → Int
  | .start => offset
  | .current => Int.ofNat f.position + offset
  | .stop => f.size + offset

/-- Moves the position, which stays in the file.  A closed file can be moved in too. -/
def seek (offset : Int) (whence : Whence) : Action (RangeFile × ω) Nat := do
  let f ← current
  let position := f.clamp (f.target offset whence)
  update fun f => { f with position }
  return position

/-- What a numeric code for the origin of an offset means. -/
def whenceOf (code : Int) : Except Error Whence :=
  if code = 0 then .ok .start
  else if code = 1 then .ok .current
  else if code = 2 then .ok .stop
  else .error (.fault ⟨.value, s!"Invalid whence value: {code}"⟩)

def close : Action (RangeFile × ω) Unit :=
  update fun f => { f with closed := true, cache := {} }

def file (srv : Server ω) : ByteFile (RangeFile × ω) where
  seek := seek
  read := fun count => read srv (some (Int.ofNat count))
  close := close

def literal (f : RangeFile) : String :=
  "HttpFile(url=" ++ Text.quote f.url ++ s!", size={f.size}, pos={f.position})"

end RangeFile
end RowReader
