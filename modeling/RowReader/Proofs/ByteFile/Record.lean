import RowReader.Action.Lemmas
import RowReader.ByteFile.Scripted
import RowReader.Framing

/-!
# Recorded calls of a file

A recorded file answers as the file below it does, and keeps the calls it receives in order,
whatever they come to.  The list it leaves behind is all that was asked of the file.
-/

namespace RowReader
namespace ByteFile

open RowReader.Action

variable {φ α : Type}

/-! ## What framing checks keep -/

section

variable {ρ : Type} {file : ByteFile φ} {part : φ → ρ}
  (seek : ∀ offset whence, Keeps part (file.seek offset whence))
  (read : ∀ count, Keeps part (file.read count))

include seek

theorem keeps_rewind : Keeps part file.rewind :=
  keeps_bind (seek 0 .start) fun _ => keeps_pure ()

include read

theorem keeps_readAt (offset : Int) (count : Nat) : Keeps part (file.readAt offset count) :=
  keeps_bind (seek offset .start) fun _ => read count

/-- The framing checks seek and read.  What is kept by either is kept by the checks. -/
theorem keeps_checkMagic : Keeps part file.checkMagic := by
  refine keeps_bind (seek 0 .stop) fun size => ?_
  split
  · exact keeps_fail _
  · refine keeps_bind (keeps_readAt seek read _ _) fun header => ?_
    refine keeps_bind (keeps_readAt seek read _ _) fun footer => ?_
    refine keeps_bind (keeps_rewind seek) fun _ => ?_
    exact keeps_bind (keeps_ofExcept _) fun _ => keeps_bind (keeps_ofExcept _) fun _ => keeps_pure size

theorem keeps_checkFooter : Keeps part file.checkFooter := by
  refine keeps_bind (seek 0 .stop) fun size => ?_
  refine keeps_bind (keeps_readAt seek read _ _) fun trailer => ?_
  exact keeps_bind (keeps_rewind seek) fun _ => keeps_ofExcept _

end

/-! ## The record -/

/-- Enters a call and makes it. -/
def enter (call : FileCall) (act : Action φ α) : Action (φ × List FileCall) α :=
  fun both => (act both.1).mapState fun s => (s, both.2 ++ [call])

/-- The file that records its calls. -/
def recorded (file : ByteFile φ) : ByteFile (φ × List FileCall) where
  seek := fun offset whence => enter (.seek offset whence) (file.seek offset whence)
  read := fun count => enter (.read count) (file.read count)
  close := enter .close file.close

/-- How often a recorded file has been asked to close. -/
def timesClosed (both : φ × List FileCall) : Nat := both.2.count .close

theorem timesClosed_enter (call : FileCall) (other : call ≠ .close) (act : Action φ α) :
    Keeps timesClosed (enter call act) := by
  intro both
  change (both.2 ++ [call]).count .close = both.2.count .close
  rw [List.count_append, List.count_singleton, if_neg (by simpa using other), Nat.add_zero]

theorem timesClosed_close (file : ByteFile φ) (both : φ × List FileCall) :
    timesClosed (file.recorded.close both).state = timesClosed both + 1 := by
  change (both.2 ++ [FileCall.close]).count .close = both.2.count .close + 1
  rw [List.count_append, List.count_singleton_self]

theorem timesClosed_seek (file : ByteFile φ) (offset : Int) (whence : Whence) :
    Keeps timesClosed (file.recorded.seek offset whence) :=
  timesClosed_enter (.seek offset whence) nofun _

theorem timesClosed_read (file : ByteFile φ) (count : Nat) :
    Keeps timesClosed (file.recorded.read count) :=
  timesClosed_enter (.read count) nofun _

/-- Neither framing check closes the file. -/
theorem timesClosed_checkMagic (file : ByteFile φ) :
    Keeps timesClosed file.recorded.checkMagic :=
  keeps_checkMagic (timesClosed_seek file) (timesClosed_read file)

theorem timesClosed_checkFooter (file : ByteFile φ) :
    Keeps timesClosed file.recorded.checkFooter :=
  keeps_checkFooter (timesClosed_seek file) (timesClosed_read file)

end ByteFile
end RowReader
