import RowReader.Proofs.Pass.Pull

/-!
# What a stream owes

A stream that has not ended still owes the rows its source would deliver if they were all asked for
at once.  A pull takes the first of them and leaves the others owed; when none is left, a pull ends
the stream the way the batch ends, and closes the source.  This is where a stream that is suspended
after each row and a loop over all rows are shown to be the same pass.
-/

namespace RowReader

variable {σ γ : Type}

open RowReader.Action

namespace Streaming

variable (src : Source σ γ) (schema : Schema)

/-! ## One pull against the whole batch -/

/-- Everything that is delivered from a pull on, beginning with the row it found. -/
def fromPull : Outcome σ (Option (Row × Schema × Place γ)) → Batch σ
  | { result := .ok (some (row, schema, place)), state, log } =>
    (remainder src schema place state).behind [row] log
  | { result := .ok none, state, log } => { rows := [], ending := .exhausted, state, log }
  | { result := .error e, state, log } => { rows := [], ending := .failed e, state, log }

theorem fromPull_found_after (log : List LogLine) (o : Outcome σ (Option (Row × Place γ))) :
    fromPull src (pull.found schema (o.after log)) =
      (fromPull src (pull.found schema o)).behind [] log := by
  rcases o with ⟨e | (_ | ⟨row, place⟩), t, more⟩ <;>
    simp [fromPull, pull.found, Outcome.after, Outcome.mapResult, Except.map, Batch.behind]

theorem remainder_zero (g : γ) (i : Nat) (s : σ) :
    remainder src schema ⟨g, i, 0⟩ s = src.deliverGroups schema s := by
  simp [remainder, Source.deliverGroup, Batch.behind]

theorem remainder_succ (g : γ) (i left : Nat) (s : σ) :
    remainder src schema ⟨g, i, left + 1⟩ s =
      fromPull src (pull.found schema (src.rowAt schema g i left s)) := by
  rcases checked : src.checkedRow schema g i s with ⟨e | ⟨row, next⟩, t, log⟩
  · simp [remainder, src.deliverGroup_of_error schema left checked, Source.rowAt, checked, fromPull,
      pull.found, Outcome.mapResult, Except.map]
  · simp only [remainder, src.deliverGroup_of_row schema left checked, Source.rowAt, checked,
      fromPull, pull.found, Outcome.mapResult, Except.map, Option.map]
    rcases src.deliverGroup schema left next (i + 1) t with ⟨rows, _ | _ | e, u, more⟩ <;>
      simp [Batch.behind]

/-- A group that was handed out owes its rows before those of the groups behind it. -/
theorem deliverGroups_of_group {s t : σ} {g : γ} {log : List LogLine}
    (asked : src.nextRowGroup s = ⟨.ok (some g), t, log⟩) :
    src.deliverGroups schema s =
      (remainder src schema ⟨g, 0, src.numRows g⟩ t).behind [] (log ++ [src.announce g]) := by
  have ended := src.deliverGroup_ending schema (src.numRows g) g 0 t
  rcases delivered : src.deliverGroup schema (src.numRows g) g 0 t with ⟨rows, ending, u, more⟩
  simp only [delivered] at ended
  rcases ended with rfl | ⟨e, rfl⟩
  · rw [src.deliverGroups_further schema asked delivered]
    simp [remainder, delivered, Batch.behind]
  · rw [src.deliverGroups_broken schema asked delivered]
    simp [remainder, delivered, Batch.behind]

/-- The rows of all groups are the first row that is found and what is left behind it. -/
theorem deliverGroups_eq_fromPull (s : σ) :
    src.deliverGroups schema s = fromPull src (pull.found schema (src.firstRow schema s)) := by
  induction s using src.groups_induction with
  | refused s e t log asked =>
    rw [src.deliverGroups_refused schema asked, src.firstRow_refused schema asked]
    rfl
  | exhausted s t log asked =>
    rw [src.deliverGroups_exhausted schema asked, src.firstRow_exhausted schema asked]
    rfl
  | handed s g t log asked ih =>
    rw [deliverGroups_of_group src schema asked, src.firstRow_of_group schema asked,
      fromPull_found_after]
    congr 1
    cases declared : src.numRows g with
    | zero =>
      rw [remainder_zero]
      exact ih t (Nat.le_refl _)
    | succ left => exact remainder_succ src schema g 0 left t

theorem remainder_eq_fromPull (place : Place γ) (s : σ) :
    remainder src schema place s =
      fromPull src (pull.found schema (src.rowAfter schema place s)) := by
  rcases place with ⟨g, i, left⟩
  cases left with
  | zero =>
    rw [remainder_zero]
    exact deliverGroups_eq_fromPull src schema s
  | succ left => exact remainder_succ src schema g i left s

/-! ## Owed rows -/

/-- What a stream still gets from its source before it ends. -/
def owed (st : Streaming σ γ) : Batch σ :=
  match st.progress with
  | .unstarted =>
    match (Pass.readSchema src (st.pass, st.source)).result with
    | .error e => { rows := [], ending := .failed e, state := (st.opened src).source }
    | .ok schema => src.deliverGroups schema (st.opened src).source
  | .running schema place => remainder src schema place st.source
  | .ended => { rows := [], ending := .exhausted, state := st.source }

theorem owed_eq_fromPull (st : Streaming σ γ) : st.owed src = fromPull src (st.pull src) := by
  cases stands : st.progress with
  | ended => simp only [owed, pull, stands, fromPull]
  | running schema place =>
    simp only [owed, pull, stands]
    exact remainder_eq_fromPull src schema place st.source
  | unstarted =>
    simp only [owed, pull, stands]
    cases (Pass.readSchema src (st.pass, st.source)).result with
    | error e => rfl
    | ok schema => exact deliverGroups_eq_fromPull src schema (st.opened src).source

/-- A pull hands out the first row that is owed; the others stay owed, with the same end. -/
theorem next_row {st : Streaming σ γ} (live : st.Live) {row : Row} {rest : List Row}
    (owes : (st.owed src).rows = row :: rest) :
    ∃ t, Yields (next src) st (.ok (some row)) t ∧ t.Live ∧ (t.owed src).rows = rest ∧
      (t.owed src).ending = (st.owed src).ending ∧ (t.owed src).state = (st.owed src).state := by
  have pulled := next_yields src live
  rw [owed_eq_fromPull] at owes ⊢
  rcases answer : st.pull src with ⟨e | (_ | ⟨first, schema, place⟩), s, log⟩
  · simp [answer, fromPull] at owes
  · simp [answer, fromPull] at owes
  · simp only [answer, fromPull, Batch.behind, List.singleton_append, List.cons.injEq] at owes ⊢
    rcases owes with ⟨rfl, rfl⟩
    simp only [answer, noted] at pulled
    exact ⟨_, pulled, trivial, rfl, rfl, rfl⟩

/-- The result of the pull that meets the end of a batch. -/
def endResult : Ending → Except Error (Option Row)
  | .failed e => .error e
  | _ => .ok none

/-- When no row is owed, a pull ends the stream and closes the source. -/
theorem next_end {st : Streaming σ γ} (live : st.Live) (owes : (st.owed src).rows = []) :
    let closed := src.close (st.owed src).state
    Yields (next src) st
      ((lastly (endResult (st.owed src).ending) closed.result).mapError Error.outOfIteration)
      ⟨.ended, (st.opened src).pass, closed.state⟩ := by
  have pulled := next_yields src live
  rw [owed_eq_fromPull] at owes ⊢
  rcases answer : st.pull src with ⟨e | (_ | ⟨first, schema, place⟩), s, log⟩
  · simp only [answer, noted] at pulled
    exact pulled
  · simp only [answer, noted] at pulled
    exact pulled
  · simp [answer, fromPull, Batch.behind] at owes

end Streaming
end RowReader
