import RowReader.Pass.Rank
import RowReader.RowFile.Stream

/-!
# Gathering rows

Pulls the rows of a stream one by one, each taken in before the next is pulled, until the stream
ends or fails, a row is not accepted, or as many rows have come as are wanted.  No row beyond those
is pulled.
-/

namespace RowReader

/-- How gathering ended. -/
inductive GatherEnd (ε : Type) where
  | enough
  | exhausted
  | failed (e : Error)
  | refused (e : ε)

structure Gathered (ω ε α : Type) where
  items : List α
  ending : GatherEnd ε
  state : RowStream × World ω
  log : List LogLine := []

/-- Puts an item and log lines in front. -/
def Gathered.behind {ω ε α : Type} (item : α) (log : List LogLine) (g : Gathered ω ε α) :
    Gathered ω ε α :=
  { g with items := item :: g.items, log := log ++ g.log }

namespace RowStream

variable {ω ε α : Type}

def rank (srv : Server ω) (both : RowStream × World ω) : Rank :=
  match both.1 with
  | .unopened => ⟨2, 0, 0⟩
  | .running s => Streaming.rank (source srv) (s.streaming both.2)
  | .ended => ⟨0, 0, 0⟩

theorem andFinally_ok {σ β : Type} {act : Action σ β} {last : Action σ Unit} {s : σ} {b : β}
    (found : (act.andFinally last s).result = .ok b) : (act s).result = .ok b := by
  revert found
  simp only [Action.andFinally]
  split
  · exact id
  · simp

/-- A pull that delivers a row leaves the stream running, with a lower rank. -/
theorem rank_pull (srv : Server ω) (s : OpenStream) (w : World ω) (row : Row)
    (found : (pull srv s w).result = .ok (some row)) :
    ∃ st : Inner ω, (∃ schema place, st.progress = .running schema place)
      ∧ (pull srv s w).state = (.running (OpenStream.ofStreaming st).1, st.source.2.2)
      ∧ Rank.lt (Streaming.rank (source srv) st) (Streaming.rank (source srv) (s.streaming w)) := by
  revert found
  simp only [pull]
  split
  · next r state log h =>
    intro _
    have lower := Streaming.rank_next_lt (source srv) (s.streaming w) r (by rw [h])
    have stands := Streaming.progress_next (source srv) (s.streaming w) r (by rw [h])
    simp only [h] at lower stands
    exact ⟨state, stands, rfl, lower⟩
  · next h =>
    intro found
    simp only [finish, Outcome.mapState, Outcome.after] at found
    simpa [pure] using andFinally_ok found
  · next h =>
    intro found
    simp only [finish, Outcome.mapState, Outcome.after] at found
    simpa [Action.fail] using andFinally_ok found

/-- Every row lowers the rank. -/
theorem rank_next_lt (srv : Server ω) (pf : RowFile) (both : RowStream × World ω) (row : Row)
    (found : (next srv pf both).result = .ok (some row)) :
    Rank.lt (rank srv (next srv pf both).state) (rank srv both) := by
  have advanced : (advance srv pf both).result = .ok (some row) := Action.mapError_ok_iff.mp found
  rw [next, Action.mapError_apply]
  obtain ⟨stream, w⟩ := both
  cases stream with
  | ended => simp [advance] at advanced
  | running s =>
    obtain ⟨st, _, left, lower⟩ := rank_pull srv s w row advanced
    simp only [advance, left, rank]
    exact lower
  | unopened =>
    revert advanced
    simp only [advance]
    split
    · next reader handle state log h =>
      intro advanced
      obtain ⟨st, ⟨schema, place, stands⟩, left, _⟩ :=
        rank_pull srv (.begin reader handle) state row advanced
      simp only [Outcome.after, left, rank, Streaming.rank, OpenStream.streaming,
        OpenStream.ofStreaming, stands]
      exact Or.inl Nat.zero_lt_two
    · simp

/-- Gathers at most so many rows, or all of them. -/
def gather (srv : Server ω) (pf : RowFile) (accept : Row → Except ε α) (limit : Option Nat)
    (both : RowStream × World ω) : Gathered ω ε α :=
  if limit = some 0 then { items := [], ending := .enough, state := both }
  else
    match _pulled : next srv pf both with
    | { result := .error e, state, log } => { items := [], ending := .failed e, state, log }
    | { result := .ok none, state, log } => { items := [], ending := .exhausted, state, log }
    | { result := .ok (some row), state, log } =>
      match accept row with
      | .error e => { items := [], ending := .refused e, state, log }
      | .ok item =>
        (gather srv pf accept (limit.map fun n => n - 1) state).behind item log
termination_by rank srv both
decreasing_by
  have lower := rank_next_lt srv pf both row (by rw [_pulled])
  simpa only [_pulled] using lower

end RowStream
end RowReader
