import RowReader.Action

/-!
# Byte files

A file that is read from a position.  `ByteFile φ` gives the calls of such a file over a state
`φ`; any call may fail, and a read may return fewer bytes than asked for.
-/

namespace RowReader

/-- What an offset counts from. -/
inductive Whence where
  | start
  | current
  | stop
  deriving DecidableEq, Repr

structure ByteFile (φ : Type) where
  /-- Moves the position and returns it. -/
  seek : Int → Whence → Action φ Nat
  /-- Reads at most the given number of bytes from the position on. -/
  read : Nat → Action φ (List UInt8)
  close : Action φ Unit

namespace ByteFile

variable {φ ψ : Type}

/-- The size of a file; the position is left at its end. -/
def size (file : ByteFile φ) : Action φ Nat :=
  file.seek 0 .stop

/-- Reads from an offset. -/
def readAt (file : ByteFile φ) (offset : Int) (count : Nat) : Action φ (List UInt8) := do
  let _ ← file.seek offset .start
  file.read count

/-- Moves to the first byte. -/
def rewind (file : ByteFile φ) : Action φ Unit := do
  let _ ← file.seek 0 .start

/-- The same file as part of a larger state. -/
def onPart (get : ψ → φ) (set : φ → ψ → ψ) (file : ByteFile φ) : ByteFile ψ where
  seek := fun offset whence => Action.onPart get set (file.seek offset whence)
  read := fun count => Action.onPart get set (file.read count)
  close := Action.onPart get set file.close

end ByteFile

/-- The bytes from one position up to another. -/
def slice (bytes : List UInt8) (start stop : Nat) : List UInt8 :=
  (bytes.drop start).take (stop - start)

end RowReader
