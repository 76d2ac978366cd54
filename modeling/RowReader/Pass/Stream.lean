import RowReader.Pass

/-!
# Row streams

A stream makes a pass row by row and owns the source while it does.  It asks the source for nothing
before the first pull, and for nothing after it has ended.  It ends when a pull finds no row or
fails, and when it is closed; each of these closes the source.

All that a pull does is part of an iteration, also the reading of the schema and the closing of the
source, so that any error of it comes out as `Error.outOfIteration` has it.
-/

namespace RowReader

variable {σ γ : Type}

/-- The group a stream stands in: the next row's position and how many rows are left. -/
structure Place (γ : Type) where
  group : γ
  next : Nat
  left : Nat

inductive Progress (γ : Type) where
  | unstarted
  | running (schema : Schema) (place : Place γ)
  | ended

/-- A stream with the pass it makes and the source it owns. -/
structure Streaming (σ γ : Type) where
  progress : Progress γ
  pass : Pass
  source : σ

namespace Source

/-- The row at a place that has rows left. -/
def rowAt (src : Source σ γ) (schema : Schema) (g : γ) (i left : Nat) (s : σ) :
    Outcome σ (Option (Row × Place γ)) :=
  match src.checkedRow schema g i s with
  | { result := .ok (row, g'), state, log } =>
    { result := .ok (some (row, ⟨g', i + 1, left⟩)), state, log }
  | { result := .error e, state, log } => { result := .error e, state, log }

/-- The first row of the next group that has one. -/
def firstRow (src : Source σ γ) (schema : Schema) (s : σ) :
    Outcome σ (Option (Row × Place γ)) :=
  match _asked : src.nextRowGroup s with
  | { result := .error e, state, log } => { result := .error e, state, log }
  | { result := .ok none, state, log } => { result := .ok none, state, log }
  | { result := .ok (some g), state, log } =>
    match src.numRows g with
    | 0 => (src.firstRow schema state).after (log ++ [src.announce g])
    | left + 1 => (src.rowAt schema g 0 left state).after (log ++ [src.announce g])
termination_by src.pending s
decreasing_by
  have fewer := src.pending_nextRowGroup s g (by rw [_asked])
  simpa only [_asked] using fewer

/-- The next row after a place. -/
def rowAfter (src : Source σ γ) (schema : Schema) (place : Place γ) (s : σ) :
    Outcome σ (Option (Row × Place γ)) :=
  match place.left with
  | 0 => src.firstRow schema s
  | left + 1 => src.rowAt schema place.group place.next left s

end Source

namespace Streaming

/-- Acts on the source of a stream. -/
def onSource {α : Type} (act : Action σ α) : Action (Streaming σ γ) α :=
  Action.onPart Streaming.source (fun s st => { st with source := s }) act

/-- Acts on the pass of a stream together with the source. -/
def onPass {α : Type} (act : Action (Pass × σ) α) : Action (Streaming σ γ) α :=
  Action.onPart (fun st => (st.pass, st.source))
    (fun both st => { st with pass := both.1, source := both.2 }) act

def finish : Action (Streaming σ γ) Unit :=
  Action.modifyState fun st => { st with progress := .ended }

/-- Closes the source of a stream that has ended by itself. -/
def shut (src : Source σ γ) : Action (Streaming σ γ) Unit := do
  finish
  onSource src.close

/-- Ends a stream whose source has no row left, or failed. -/
def settle (src : Source σ γ) : Option Error → Action (Streaming σ γ) Unit
  | some e => (Action.fail e).andFinally (shut src)
  | none => do
    let rows := (← Action.getState).pass.rowsRead
    Action.debug .materializer s!"Streamed {rows} rows"
    shut src

/-- Enters what a pull of the source found: a row moves the place on, and everything else ends the
stream. -/
def deliver (src : Source σ γ) (schema : Schema) (pull : Action σ (Option (Row × Place γ))) :
    Action (Streaming σ γ) (Option Row) := fun st =>
  match pull st.source with
  | { result := .ok (some (row, place)), state, log } =>
    let pass := { st.pass with rowsRead := st.pass.rowsRead + 1 }
    { result := .ok (some row), state := ⟨.running schema place, pass, state⟩, log }
  | { result := .ok none, state, log } =>
    ((settle src none { st with source := state }).after log).mapResult fun _ => none
  | { result := .error e, state, log } =>
    ((settle src (some e) { st with source := state }).after log).mapResult fun _ => none

/-- What a pull does inside of the iteration. -/
def advance (src : Source σ γ) : Action (Streaming σ γ) (Option Row) := do
  match (← Action.getState).progress with
  | .ended => return none
  | .running schema place => deliver src schema (src.rowAfter schema place)
  | .unstarted =>
    let schema ← (onPass (Pass.readSchema src)).rescue fun e => do
      settle src (some e)
      Action.fail e
    deliver src schema (src.firstRow schema)

/-- The next row, or none at the end. -/
def next (src : Source σ γ) : Action (Streaming σ γ) (Option Row) :=
  (advance src).mapError Error.outOfIteration

/-- Ends the stream.  A stream that stands in a group closes the source on its way out of the iteration
and once more after that; another one closes it once. -/
def close (src : Source σ γ) : Action (Streaming σ γ) Unit := do
  match (← Action.getState).progress with
  | .running _ _ =>
    (shut src).mapError Error.outOfIteration
    onSource src.close
  | _ => shut src

/-- Lets go of a stream: it is closed, and an error of closing is dropped. -/
def release (src : Source σ γ) : Action (Streaming σ γ) Unit :=
  (close src).rescue fun _ => return ()

/-- Everything a source still delivers after a place. -/
def remainder (src : Source σ γ) (schema : Schema) (place : Place γ) (s : σ) : Batch σ :=
  match src.deliverGroup schema place.left place.group place.next s with
  | { rows, ending := .failed e, state, log } => { rows, ending := .failed e, state, log }
  | { rows, ending := _, state, log } => (src.deliverGroups schema state).behind rows log

end Streaming

/-- Begins a pass as a stream.  Nothing is asked of the source yet. -/
def Pass.stream (p : Pass) (s : σ) : Except Error (Streaming σ γ) :=
  if p.started then .error .passConsumed
  else .ok { progress := .unstarted, pass := { p with started := true }, source := s }

end RowReader
