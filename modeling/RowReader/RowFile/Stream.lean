import RowReader.Pass.Stream
import RowReader.RowFile

/-!
# Streams over row files

A stream opens its file with the first pull and closes it at its end, whether the rows ran out, a
pull failed or the stream was closed.  Several streams over one file know nothing of each other.

Such a stream is an iteration around that of a pass: opening the file and closing it are part of it.
-/

namespace RowReader

/-- A stream over a file that is open. -/
structure OpenStream where
  progress : Progress RowGroup
  pass : Pass
  reader : Reader
  handle : Handle

inductive RowStream where
  | unopened
  | running (stream : OpenStream)
  | ended

namespace OpenStream

variable {ω : Type}

/-- The stream over the reader as its source. -/
def streaming (s : OpenStream) (w : World ω) : Streaming (Reader × Handle × World ω) RowGroup :=
  { progress := s.progress, pass := s.pass, source := (s.reader, s.handle, w) }

def ofStreaming (st : Streaming (Reader × Handle × World ω) RowGroup) : OpenStream × World ω :=
  ({ progress := st.progress, pass := st.pass, reader := st.source.1, handle := st.source.2.1 },
    st.source.2.2)

/-- A stream over a reader that nothing has been asked of. -/
def begin (reader : Reader) (handle : Handle) : OpenStream :=
  { progress := .unstarted, pass := { started := true }, reader, handle }

end OpenStream

namespace RowStream

variable {ω : Type}

abbrev Inner (ω : Type) := Streaming (Reader × Handle × World ω) RowGroup

def source (srv : Server ω) : Source (Reader × Handle × World ω) RowGroup :=
  Reader.source (Handle.file srv)

/-- Leaves an ended stream behind. -/
def finish {α : Type} (out : Outcome (Inner ω) α) : Outcome (RowStream × World ω) α :=
  out.mapState fun st => (.ended, (OpenStream.ofStreaming st).2)

/-- Closes the stream below, again if need be, whatever the action before did. -/
def thenClose {α : Type} (srv : Server ω) (act : Action (Inner ω) α) : Action (Inner ω) α :=
  act.andFinally (Streaming.close (source srv))

/-- Pulls a row from a stream that is open. -/
def pull (srv : Server ω) (s : OpenStream) (w : World ω) :
    Outcome (RowStream × World ω) (Option Row) :=
  match Streaming.next (source srv) (s.streaming w) with
  | { result := .ok (some row), state, log } =>
    let (s, w) := OpenStream.ofStreaming state
    { result := .ok (some row), state := (.running s, w), log }
  | { result := .ok none, state, log } =>
    finish ((thenClose srv (pure none) state).after log)
  | { result := .error e, state, log } =>
    finish ((thenClose srv (Action.fail e) state).after log)

/-- What a pull does inside of the iteration. -/
def advance (srv : Server ω) (pf : RowFile) : Action (RowStream × World ω) (Option Row) :=
  fun (stream, w) =>
    match stream with
    | .ended => { result := .ok none, state := (.ended, w) }
    | .running s => pull srv s w
    | .unopened =>
      match pf.openReader srv w with
      | { result := .ok (reader, handle), state, log } =>
        (pull srv (.begin reader handle) state).after log
      | { result := .error e, state, log } => { result := .error e, state := (.ended, state), log }

/-- The next row, or none at the end. -/
def next (srv : Server ω) (pf : RowFile) : Action (RowStream × World ω) (Option Row) :=
  (advance srv pf).mapError Error.outOfIteration

/-- Ends the stream. -/
def close (srv : Server ω) : Action (RowStream × World ω) Unit := fun (stream, w) =>
  match stream with
  | .running s =>
    let closing := (thenClose srv (Streaming.close (source srv))).mapError Error.outOfIteration
    finish (closing (s.streaming w))
  | _ => { result := .ok (), state := (.ended, w) }

/-- Lets go of a stream: it is closed, and an error of closing is dropped. -/
def release (srv : Server ω) : Action (RowStream × World ω) Unit :=
  (close srv).rescue fun _ => return ()

end RowStream
end RowReader
