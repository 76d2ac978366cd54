import RowReader.ByteFile.Scripted
import RowReader.Proofs.Reader.Lifetime

/-!
# What opening leaves behind

A reader owns its file from the moment it is asked for.  If the framing check succeeds, the file stays
open and the reader with it.  If it fails, there is no reader that could be closed, and the file has
to be closed before the error comes out.  Opening does so for the errors that it reports: the reader's
own, which stay as they are, and the faults of the system.  Any other fault of a seek or a read comes
out as it is, and with it the last chance to close the file goes.
-/

namespace RowReader

open RowReader.Action

namespace Reader

variable {φ : Type}

/-- A fault of the system is reported as a file that cannot be read. -/
theorem openingError?_system {f : Fault} (name : String) (system : f.isSystem = true) :
    openingError? name (.fault f) = some (.cannotRead name f) :=
  if_pos system

theorem openingError?_other {f : Fault} (name : String) (other : f.isSystem = false) :
    openingError? name (.fault f) = none := by
  apply if_neg
  rw [other]
  decide

/-- The reader's own errors are reported unchanged. -/
theorem openingError?_own {e : Error} (name : String) (own : e.kind?.isSome = true) :
    openingError? name e = some e := by
  cases e with
  | fault f => cases own
  | _ => rfl

/-- How the framing check of any file decides on opening it.  The check never closes the file, and
opening does nothing to it after a check that succeeds.  After one of the reader's own errors, or a
fault of the system, the file is closed as the last thing that is done to it, and the error is
reported unless closing fails in earnest.  Any other fault comes out unchanged and leaves the file as
the check did. -/
theorem closed_when_opening_reports (file : ByteFile φ) (name : String) (options : Options)
    (decoding : Decoding) (both : φ × List FileCall) :
    let checking := file.recorded.checkMagic both
    let opening := openFile file.recorded name options decoding both
    let closing := file.close checking.state.1
    let shut := (closing.state, checking.state.2 ++ [FileCall.close])
    let reports := fun e : Error =>
      opening.state = shut ∧
        opening.result = lastly (.error e) (tolerated Fault.isSystem closing.result)
    ByteFile.timesClosed checking.state = ByteFile.timesClosed both ∧
    (∀ size, checking.result = .ok size →
      opening.result = .ok { name, options, decoding } ∧ opening.state = checking.state) ∧
    (∀ e, checking.result = .error e → e.kind?.isSome = true → reports e) ∧
    (∀ f, checking.result = .error (.fault f) →
      (f.isSystem = true →
        reports (.cannotRead name f) ∧ (Error.cannotRead name f).kind? = some .opening) ∧
      (f.isSystem = false →
        opening.result = .error (.fault f) ∧ opening.state = checking.state)) := by
  intro checking opening closing shut reports
  have checked : Yields file.recorded.checkMagic both checking.result checking.state :=
    yields_self _ both
  have reported : ∀ e told, checking.result = .error e → openingError? name e = some told →
      reports told := by
    intro e told failed tells
    rw [failed] at checked
    have closed := openFile_reported options decoding checked tells
    exact ⟨closed.state, closed.result⟩
  refine ⟨ByteFile.timesClosed_checkMagic file both, ?_, ?_, ?_⟩
  · intro size passed
    rw [passed] at checked
    have opened : Yields (openFile file.recorded name options decoding) both _ _ :=
      openFile_framed options decoding checked
    exact ⟨opened.result, opened.state⟩
  · intro e failed own
    exact reported e e failed (openingError?_own name own)
  · intro f failed
    refine ⟨fun system => ⟨reported _ _ failed (openingError?_system name system), rfl⟩, ?_⟩
    intro other
    rw [failed] at checked
    have escaped := openFile_unreported options decoding checked (openingError?_other name other)
    exact ⟨escaped.result, escaped.state⟩

/-! ## A file that fails at its first seek -/

/-- A well framed file whose first seek raises a fault of this kind. -/
def raisingAtFirst (kind : FaultKind) : ScriptedFile :=
  .ofBytes mixedFile.bytes [⟨.seek, 1, .raise (.fault ⟨kind, "lost"⟩)⟩]

/-- Opening such a file. -/
def openRaising (kind : FaultKind) : Outcome ScriptedFile Reader :=
  openFile ScriptedFile.file "rows" .standard (.ok mixedDecoded) (raisingAtFirst kind)

/-- A fault of the running program leaves a file open that nobody can close any more.  A fault of the
system at the same call has the file closed. -/
theorem opening_fails_and_leaves_the_file_open :
    let lost := openRaising .runtime
    let refused := openRaising (.system .general)
    lost.result = .error (.fault ⟨.runtime, "lost"⟩) ∧
      lost.state.memory.closed = false ∧ FileCall.close ∉ lost.state.calls ∧
      refused.result = .error (.cannotRead "rows" ⟨.system .general, "lost"⟩) ∧
      refused.state.memory.closed = true :=
  ⟨rfl, rfl, by decide, rfl, rfl⟩

end Reader
end RowReader
