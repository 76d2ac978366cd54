import RowReader.Proofs.Reader.Ready
import RowReader.World

/-!
# Stored files

A file in memory is honest as long as it is open, and so is a local file: it keeps the content it
had when it was opened, and using it leaves the world as it is.
-/

namespace RowReader

open RowReader.Action

variable {ω α : Type}

namespace MemoryFile

/-- An open file over these bytes that stands at this position. -/
def At (bytes : List UInt8) (p : Nat) (f : MemoryFile) : Prop :=
  f = { bytes, position := p }

theorem moveTo_yields (position : Nat) (f : MemoryFile) :
    Yields (moveTo position) f (.ok position) { f with position } :=
  ⟨rfl, rfl⟩

theorem requireOpen_yields {f : MemoryFile} (isOpen : f.closed = false) :
    Yields requireOpen f (.ok f) f := by
  apply (yields_getState f).bind
  simp only [isOpen]
  exact yields_pure f f

theorem honest (bytes : List UInt8) : file.Honest bytes (At bytes) where
  seekStart := by
    rintro p s offset rfl positive inside
    refine ⟨_, (requireOpen_yields rfl).bind ?_, rfl⟩
    simp only [Int.not_lt.mpr positive, if_false]
    exact moveTo_yields _ _
  seekStop := by
    rintro p s rfl
    refine ⟨_, (requireOpen_yields rfl).bind ?_, rfl⟩
    simp only [Int.add_zero, Int.toNat_natCast]
    exact moveTo_yields _ _
  read := by
    rintro p s count rfl
    exact ⟨_, (requireOpen_yields rfl).bind ((moveTo_yields _ _).bind (yields_pure _ _)), rfl⟩
  close := fun _ => rfl

end MemoryFile

namespace Handle

/-- A local file at this position in this world. -/
def At (bytes : List UInt8) (w : World ω) (p : Nat) (both : Handle × World ω) : Prop :=
  both = (.stored { bytes, position := p }, w)

/-- Acting on a local file leaves the world as it is. -/
theorem act_stored {stored : Action MemoryFile α} {f g : MemoryFile} {r : Except Error α}
    (ends : Yields stored f r g) (ranged : Action (RangeFile × ω) α) (w : World ω) :
    Yields (act stored ranged) (.stored f, w) r (.stored g, w) := by
  constructor
  · exact ends.result
  · simp only [act, Outcome.mapState_state, ends.state]

theorem honest (srv : Server ω) (bytes : List UInt8) (w : World ω) :
    (file srv).Honest bytes (At bytes w) where
  seekStart := by
    rintro p s offset rfl positive inside
    rcases (MemoryFile.honest bytes).seekStart (rfl : MemoryFile.At bytes p _)
        positive inside with ⟨g, moved, rfl⟩
    exact ⟨_, act_stored moved _ w, rfl⟩
  seekStop := by
    rintro p s rfl
    rcases (MemoryFile.honest bytes).seekStop (rfl : MemoryFile.At bytes p _) with ⟨g, moved, rfl⟩
    exact ⟨_, act_stored moved _ w, rfl⟩
  read := by
    rintro p s count rfl
    rcases (MemoryFile.honest bytes).read count (rfl : MemoryFile.At bytes p _) with ⟨g, found, rfl⟩
    exact ⟨_, act_stored found _ w, rfl⟩
  close := by
    rintro p s rfl
    rfl

/-- Closing a file never fails, be it a local one or not. -/
theorem close_ok (srv : Server ω) (both : Handle × World ω) :
    ((file srv).close both).result = .ok () := by
  rcases both with ⟨f | f, w⟩ <;> rfl

/-- Closing a local file takes it from the count of open files again. -/
theorem close_at (srv : Server ω) {bytes : List UInt8} {w : World ω} {p : Nat}
    {both : Handle × World ω} (here : At bytes { w with openFiles := w.openFiles + 1 } p both) :
    ((file srv).close both).state.2 = w := by
  cases here
  rfl

end Handle

namespace World

/-- Opening a local file takes its content as it is, and counts the file. -/
theorem acquire_stored (srv : Server ω) {location : Location} {w : World ω} {content : Content}
    (isLocal : location.url? = none) (found : w.files.read location.name = .ok content) :
    Yields (acquire srv location) w (.ok (.stored { bytes := content.bytes }, content.decoding))
      { w with openFiles := w.openFiles + 1 } := by
  unfold acquire
  simp only [isLocal]
  apply (yields_getState w).bind
  rw [found]
  exact (yields_ofExcept (.ok content) w).bind ((yields_modifyState _ w).bind (yields_pure _ _))

/-- What is wrong with a path is reported, and nothing is open. -/
theorem acquire_missing (srv : Server ω) {location : Location} {w : World ω} {e : Error}
    (isLocal : location.url? = none) (failed : w.files.read location.name = .error e) :
    Yields (acquire srv location) w (.error (openingError location.name e)) w := by
  unfold acquire
  simp only [isLocal]
  apply (yields_getState w).bind
  rw [failed]
  exact (yields_ofExcept (.error _) w).bind_error

end World
end RowReader
