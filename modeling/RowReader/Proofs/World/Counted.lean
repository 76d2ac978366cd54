import RowReader.Proofs.Reader.Alongside
import RowReader.Proofs.World.Stored

/-!
# Counted files

A local file answers as its content in memory does, whatever else is open in its world.  All that it
has to do with the world is that it is counted while it is open.
-/

namespace RowReader

open RowReader.Action

variable {ω : Type}

/-- The same world with this many local files open. -/
def World.counting (w : World ω) (n : Nat) : World ω :=
  { w with openFiles := n }

namespace MemoryFile

theorem keeps_closed_requireOpen : Keeps MemoryFile.closed requireOpen := by
  refine keeps_bind keeps_getState fun f => ?_
  split
  · exact keeps_fail _
  · exact keeps_pure f

theorem keeps_closed_moveTo (position : Nat) : Keeps MemoryFile.closed (moveTo position) :=
  keeps_bind (keeps_modifyState fun _ => rfl) fun _ => keeps_pure position

theorem keeps_closed_seek (offset : Int) (whence : Whence) :
    Keeps MemoryFile.closed (seek offset whence) := by
  refine keeps_bind keeps_closed_requireOpen fun f => ?_
  cases whence with
  | start =>
    dsimp only
    split
    · exact keeps_fail _
    · exact keeps_closed_moveTo _
  | current => exact keeps_closed_moveTo _
  | stop => exact keeps_closed_moveTo _

theorem keeps_closed_read (count : Nat) : Keeps MemoryFile.closed (read count) :=
  keeps_bind keeps_closed_requireOpen fun _ =>
    keeps_bind (keeps_closed_moveTo _) fun _ => keeps_pure _

end MemoryFile

namespace Handle

/-- An open file in memory and the same local file, which is counted beside `n` others. -/
structure Counted (w : World ω) (n : Nat) (f : MemoryFile) (both : Handle × World ω) : Prop where
  isOpen : f.closed = false
  same : both = (.stored f, w.counting (n + 1))

theorem inStep_act {w : World ω} {n : Nat} {α : Type} {stored : Action MemoryFile α}
    (kept : Keeps MemoryFile.closed stored) (ranged : Action (RangeFile × ω) α) :
    InStep (Counted w n) stored (Handle.act stored ranged) := by
  rintro f _ ⟨isOpen, rfl⟩
  have ends := act_stored (yields_self stored f) ranged (w.counting (n + 1))
  rw [ends.result, ends.state]
  exact ⟨rfl, (kept f).trans isOpen, rfl⟩

theorem alongside (srv : Server ω) (w : World ω) (n : Nat) :
    MemoryFile.file.Alongside (file srv) (Counted w n) where
  seek := fun _ _ => inStep_act (MemoryFile.keeps_closed_seek _ _) _
  read := fun _ => inStep_act (MemoryFile.keeps_closed_read _) _
  close := by
    rintro f _ ⟨-, rfl⟩
    exact ⟨rfl, rfl⟩

/-- Once it is closed the others are left. -/
theorem Counted.close (srv : Server ω) {w : World ω} {n : Nat} {f : MemoryFile}
    {both : Handle × World ω} (here : Counted w n f both) :
    ((file srv).close both).state.2 = w.counting n := by
  rcases here with ⟨isOpen, rfl⟩
  change (Handle.close _).state.2 = _
  simp only [Handle.close, isOpen]
  rfl

end Handle

/-- Closing a reader over a local file leaves the other files open. -/
theorem Reader.Alongside.close_counted (srv : Server ω) {w : World ω} {n : Nat}
    {both : Reader × MemoryFile} {both' : Reader × Handle × World ω}
    (here : Alongside (Handle.Counted w n) both both') :
    ∃ r h, Yields (close (Handle.file srv)) both' (.ok ()) (r, h, w.counting n) := by
  rcases here.close_yields (Handle.alongside srv w n) with ⟨-, r, closed⟩
  have left := here.files.close srv
  generalize ((Handle.file srv).close both'.2).state = after at closed left
  rcases after with ⟨h, w'⟩
  cases left
  exact ⟨r, h, closed⟩

end RowReader
