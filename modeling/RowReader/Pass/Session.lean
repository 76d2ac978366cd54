import RowReader.Pass.Stream

/-!
# Sessions

A session holds a source with the pass made over it and at most one stream at a time.  The stream
either makes that pass, or another pass of its own beside it.  A new stream takes the place of the
one before, which is released once the new one stands.
-/

namespace RowReader

variable {σ γ α : Type}

/-- The stream of a session; it makes the session's pass unless it has its own. -/
structure CurrentStream (γ : Type) where
  progress : Progress γ
  own : Option Pass

structure Session (σ γ : Type) where
  source : σ
  pass : Pass := {}
  stream : Option (CurrentStream γ) := none

namespace Session

/-- Acts on the session's pass together with the source. -/
def onPass (act : Action (Pass × σ) α) : Action (Session σ γ) α :=
  Action.onPart (fun s => (s.pass, s.source))
    (fun both s => { s with pass := both.1, source := both.2 }) act

/-- Acts on the source and a fresh pass, which is dropped afterwards. -/
def besidePass (act : Action (Pass × σ) α) : Action (Session σ γ) α :=
  Action.onPart (fun s => ({}, s.source)) (fun both s => { s with source := both.2 }) act

def onSource (act : Action σ α) : Action (Session σ γ) α :=
  Action.onPart Session.source (fun source s => { s with source }) act

/-- The current stream over the session's source. -/
def streaming (s : Session σ γ) (c : CurrentStream γ) : Streaming σ γ :=
  { progress := c.progress, pass := c.own.getD s.pass, source := s.source }

/-- Enters what became of the current stream. -/
def enter (s : Session σ γ) (c : CurrentStream γ) (st : Streaming σ γ) : Session σ γ :=
  match c.own with
  | some _ => { s with source := st.source, stream := some ⟨st.progress, some st.pass⟩ }
  | none => { source := st.source, pass := st.pass, stream := some ⟨st.progress, none⟩ }

/-- Acts on the current stream; without one nothing happens. -/
def onStream (default : α) (act : Action (Streaming σ γ) α) : Action (Session σ γ) α := fun s =>
  match s.stream with
  | none => { result := .ok default, state := s }
  | some c => (act (s.streaming c)).mapState (s.enter c)

/-- The next row of the current stream. -/
def next (src : Source σ γ) : Action (Session σ γ) (Option Row) :=
  onStream none (Streaming.next src)

def close (src : Source σ γ) : Action (Session σ γ) Unit :=
  onStream () (Streaming.close src)

/-- Lets go of the current stream. -/
def release (src : Source σ γ) : Action (Session σ γ) Unit := do
  onStream () (Streaming.release src)
  Action.modifyState fun s => { s with stream := none }

/-- Begins a stream that makes the session's pass, which must not have begun. -/
def beginStream (src : Source σ γ) : Action (Session σ γ) Unit := do
  let s ← Action.getState
  let st : Streaming σ γ ← Action.ofExcept (s.pass.stream s.source)
  Action.modifyState fun s => { s with pass := st.pass }
  release src
  Action.modifyState fun s => { s with stream := some ⟨st.progress, none⟩ }

/-- Begins a stream that makes a pass of its own. -/
def beginBeside (src : Source σ γ) : Action (Session σ γ) Unit := do
  release src
  Action.modifyState fun s => { s with stream := some ⟨.unstarted, some { started := true }⟩ }

end Session
end RowReader
