import RowReader.ByteFile

/-!
# Files in memory

A file whose bytes are at hand.  Reads are never short, and the position may lie behind the end.
-/

namespace RowReader

structure MemoryFile where
  bytes : List UInt8
  position : Nat := 0
  closed : Bool := false

namespace MemoryFile

def closedError : Error := .fault ⟨.value, "I/O operation on closed file."⟩

def requireOpen : Action MemoryFile MemoryFile := do
  let f ← Action.getState
  if f.closed then Action.fail closedError else return f

def moveTo (position : Nat) : Action MemoryFile Nat := do
  Action.modifyState fun f => { f with position }
  return position

/-- An offset from the start must not be negative.  A relative one never leads before it. -/
def seek (offset : Int) (whence : Whence) : Action MemoryFile Nat := do
  let f ← requireOpen
  match whence with
  | .start =>
    if offset < 0 then Action.fail (.fault ⟨.value, s!"negative seek value {offset}"⟩)
    else moveTo offset.toNat
  | .current => moveTo (f.position + offset).toNat
  | .stop => moveTo (f.bytes.length + offset).toNat

def read (count : Nat) : Action MemoryFile (List UInt8) := do
  let f ← requireOpen
  let data := slice f.bytes f.position (f.position + count)
  let _ ← moveTo (f.position + data.length)
  return data

def close : Action MemoryFile Unit :=
  Action.modifyState fun f => { f with closed := true }

def file : ByteFile MemoryFile where
  seek := seek
  read := read
  close := close

end MemoryFile
end RowReader
