import Mathlib
import RowReader.Proofs.Reader.Lifetime

/-!
# What closing leaves behind

Closing marks the reader as closed and then has two things to do: to close the decoder and to close
the file.  Each of them may raise, and each lets some kinds of fault pass.  A fault that is not of
these kinds comes out of the call.  If it comes from the decoder, the file's turn never comes: the
reader is closed already, so that no later call reaches the file either.
-/

namespace RowReader

open RowReader.Action

namespace Reader

variable {φ : Type}

/-- There is no error but a fault of the harmless kinds. -/
def Passes (harmless : Fault → Bool) (r : Except Error Unit) : Prop :=
  ∀ e, r = .error e → ∃ f, e = .fault f ∧ harmless f = true

theorem passes_ok (harmless : Fault → Bool) : Passes harmless (.ok ()) := by
  intro e raised
  cases raised

theorem tolerated_of_not_passes {harmless : Fault → Bool} {r : Except Error Unit}
    (harmful : ¬ Passes harmless r) : tolerated harmless r = r ∧ r ≠ .ok () := by
  cases r with
  | ok _ => exact absurd (passes_ok harmless) harmful
  | error e =>
    refine ⟨?_, nofun⟩
    cases e with
    | fault f =>
      apply if_neg
      intro allowed
      apply harmful
      rintro _ ⟨⟩
      exact ⟨f, rfl, allowed⟩
    | _ => rfl

section

variable {file : ByteFile φ} {r : Reader} {both : φ × List FileCall}

/-- Once the decoder has been closed, it is for the file to say how closing ends. -/
theorem close_reaches_file (isOpen : r.closed = false)
    (passes : Passes harmlessInDecoder r.decoderClosing) :
    Yields (close file.recorded) (r, both)
      (tolerated Fault.isSystem (file.close both.1).result)
      ({ r with closed := true }.decoderClosed, (file.close both.1).state, both.2 ++ [.close]) := by
  have ends := close_ends file.recorded both isOpen
  have answer : r.closeAnswer = .ok () := tolerated_of_harmless passes
  unfold closing fileAfterClose at ends
  rw [answer] at ends
  exact ends

/-- A decoder that fails in earnest is the end of closing. -/
theorem close_stops_short (isOpen : r.closed = false)
    (harmful : ¬ Passes harmlessInDecoder r.decoderClosing) :
    Yields (close file.recorded) (r, both) r.decoderClosing
      ({ r with closed := true }.decoderClosed, both) := by
  have ends := close_ends file.recorded both isOpen
  rcases tolerated_of_not_passes harmful with ⟨same, failed⟩
  have answer : r.closeAnswer = r.decoderClosing := same
  unfold closing fileAfterClose at ends
  rw [answer] at ends
  cases raised : r.decoderClosing with
  | ok _ => exact absurd raised failed
  | error e =>
    rw [raised] at ends
    exact ends

end

/-- How closing an open reader ends, whatever the decoder and the file do.  The reader is closed in
any case, and closing it again does nothing.  The file is asked to close, with its own fault let
pass if it is one of the system, provided that the decoder has met no fault or a harmless one.
Otherwise the decoder's error comes out and the file is left as it was. -/
theorem close_as_far_as_the_decoder_lets (file : ByteFile φ) {both : Reader × φ × List FileCall}
    (isOpen : both.1.closed = false) :
    let decoder := both.1.decoderClosing
    let ends := close file.recorded both
    ends.state.1.closed = true ∧
    Yields (close file.recorded) ends.state (.ok ()) ends.state ∧
    (Passes harmlessInDecoder decoder →
      ends.state.2 = ((file.close both.2.1).state, both.2.2 ++ [.close]) ∧
      (Passes Fault.isSystem (file.close both.2.1).result → ends.result = .ok ()) ∧
      (¬ Passes Fault.isSystem (file.close both.2.1).result →
        ends.result = (file.close both.2.1).result ∧ ends.result ≠ .ok ())) ∧
    (¬ Passes harmlessInDecoder decoder →
      ends.state.2 = both.2 ∧ ends.result = decoder ∧ ends.result ≠ .ok ()) := by
  intro decoder ends
  rcases both with ⟨r, held⟩
  have isClosed : ends.state.1.closed = true := closed_of_close file.recorded (r, held)
  refine ⟨isClosed, close_closed isClosed, ?_, ?_⟩
  · intro passes
    have reached : Yields (close file.recorded) (r, held) _ _ := close_reaches_file isOpen passes
    refine ⟨congrArg (fun left => left.2) reached.state, ?_, ?_⟩
    · intro quiet
      exact reached.result.trans (tolerated_of_harmless quiet)
    · intro loud
      rcases tolerated_of_not_passes loud with ⟨same, failed⟩
      have raised := reached.result.trans same
      exact ⟨raised, raised ▸ failed⟩
  · intro harmful
    have stopped : Yields (close file.recorded) (r, held) _ _ := close_stops_short isOpen harmful
    refine ⟨congrArg (fun left => left.2) stopped.state, stopped.result, ?_⟩
    rw [show ends.result = decoder from stopped.result]
    exact (tolerated_of_not_passes harmful).2

/-! ## A decoder that cannot be closed -/

/-- A file without fields and rows whose decoder raises this when it is closed. -/
def raisingOnClose (kind : FaultKind) : DecodedFile where
  leaves := .ok []
  fields := []
  rows := 0
  groups := []
  closeError := some (.fault ⟨kind, "still in use"⟩)

/-- A new reader of it. -/
def begun (kind : FaultKind) : Reader × MemoryFile × List FileCall :=
  ({ name := "rows", options := .standard, decoding := .ok (raisingOnClose kind) }, mixedFile, [])

/-- The reader after its footer was read. -/
def counted (kind : FaultKind) : Reader × MemoryFile × List FileCall :=
  (live MemoryFile.file.recorded [.request .numRows] (begun kind)).2

theorem counted_eq (kind : FaultKind) : counted kind =
    ({ (begun kind).1 with footerRead := true }, mixedFile,
      [.seek 0 .stop, .seek 5 .start, .read 8, .seek 0 .start]) := by
  cbv

theorem decoderClosing_counted (kind : FaultKind) :
    (counted kind).1.decoderClosing = .error (.fault ⟨kind, "still in use"⟩) := by
  rw [counted_eq]
  rfl

/-- A fault of the system lets the file be closed. -/
theorem close_as_far_as_the_decoder_lets_in_use :
    let both := counted (.system .general)
    let ends := close MemoryFile.file.recorded both
    both.1.closed = false ∧ ends.state.1.closed = true ∧ ends.result = .ok () ∧
      ends.state.2.1.closed = true ∧ ends.state.2.2 = both.2.2 ++ [.close] := by
  intro both ends
  have isOpen : both.1.closed = false := congrArg (fun both => both.1.closed) (counted_eq _)
  rcases close_as_far_as_the_decoder_lets MemoryFile.file isOpen with ⟨isClosed, -, reaches, -⟩
  have passes : Passes harmlessInDecoder both.1.decoderClosing := by
    intro e raised
    rw [decoderClosing_counted] at raised
    cases raised
    exact ⟨_, rfl, rfl⟩
  rcases reaches passes with ⟨left, quiet, -⟩
  refine ⟨isOpen, isClosed, quiet (passes_ok _), ?_, ?_⟩
  · rw [left]
    rfl
  · rw [left]

/-- A fault of the running program does not: it comes out of the call, and the reader is closed while
its file stays open for good. -/
theorem close_raises_and_leaves_the_file_open :
    let both := counted .runtime
    let ends := close MemoryFile.file.recorded both
    both.1.closed = false ∧ ends.result = .error (.fault ⟨.runtime, "still in use"⟩) ∧
      ends.state.1.closed = true ∧
      ∀ later, (live MemoryFile.file.recorded later ends.state).2.2.1.closed = false ∧
        FileCall.close ∉ (live MemoryFile.file.recorded later ends.state).2.2.2 := by
  intro both ends
  have isOpen : both.1.closed = false := congrArg (fun both => both.1.closed) (counted_eq _)
  have harmful : ¬ Passes harmlessInDecoder both.1.decoderClosing := by
    intro passes
    rcases passes _ (decoderClosing_counted .runtime) with ⟨f, same, harmless⟩
    cases same
    cases harmless
  have stopped : Yields (close MemoryFile.file.recorded) both _ _ :=
    close_stops_short isOpen harmful
  have isClosed : ends.state.1.closed = true := closed_of_close _ both
  have left : ends.state.2 = both.2 := congrArg (fun left => left.2) stopped.state
  refine ⟨isOpen, stopped.result.trans (decoderClosing_counted .runtime), isClosed, fun later => ?_⟩
  rw [live_closed MemoryFile.file.recorded isClosed later, left, show both = _ from counted_eq _]
  exact ⟨rfl, by decide⟩

end Reader
end RowReader
