import RowReader.Proofs.Pass.Owed
import RowReader.Proofs.Source.Listed

/-!
# A stream is the pass, row by row

Pulling a stream to its end delivers the rows of reading everything at once and ends the same way.
On the way it is lazy: after a number of rows the source has received the calls of reading
everything up to the one that added the last of these rows, and not one more.
-/

namespace RowReader

variable {σ γ : Type}

open RowReader.Action

/-! ## Taking rows one by one -/

/-- How a pull that hands out no row ends the rows. -/
def Ending.of {α : Type} : Except Error α → Ending
  | .ok _ => .exhausted
  | .error e => .failed e

theorem Ending.of_mapError {α : Type} (r : Except Error α) :
    Ending.of (r.mapError Error.outOfIteration) = (Ending.of r).outOfIteration := by
  cases r <;> rfl

theorem Ending.of_ne_more {α : Type} (r : Except Error α) : Ending.of r ≠ .more := by
  cases r <;> exact nofun

theorem takeRows_of_row {next : Action σ (Option Row)} {s t : σ} {row : Row}
    (pulled : Yields next s (.ok (some row)) t) (count : Nat) :
    ∃ log, takeRows next (count + 1) s = (takeRows next count t).behind [row] log := by
  rcases pulled with ⟨result, state⟩
  rcases answer : next s with ⟨r, u, log⟩
  simp only [answer] at result state
  subst result state
  exact ⟨log, by simp only [takeRows, answer]⟩

theorem takeRows_of_end {next : Action σ (Option Row)} {s t : σ} {r : Except Error (Option Row)}
    (pulled : Yields next s r t) (ended : ∀ row, r ≠ .ok (some row)) (count : Nat) :
    ∃ log, takeRows next (count + 1) s = ⟨[], .of r, t, log⟩ := by
  rcases pulled with ⟨result, state⟩
  rcases answer : next s with ⟨e | _ | row, u, log⟩
  · simp only [answer] at result state
    subst result state
    exact ⟨log, by simp only [takeRows, answer, Ending.of]⟩
  · simp only [answer] at result state
    subst result state
    exact ⟨log, by simp only [takeRows, answer, Ending.of]⟩
  · simp only [answer] at result
    exact absurd result.symm (ended row)

/-- Rows that are taken in two steps are taken from the same states. -/
theorem takeRows_add {next : Action σ (Option Row)} {first : Nat} {s : σ}
    (more : (takeRows next first s).ending = .more) (second : Nat) :
    (takeRows next (first + second) s).state =
      (takeRows next second (takeRows next first s).state).state := by
  induction first generalizing s with
  | zero => rw [Nat.zero_add, takeRows]
  | succ first ih =>
    rw [Nat.succ_add]
    rcases answer : next s with ⟨e | _ | row, t, log⟩
    · simp [takeRows, answer] at more
    · simp [takeRows, answer] at more
    · simp only [takeRows, answer, Batch.behind] at more ⊢
      exact ih more

namespace Call

/-- No call follows the one that adds the last row. -/
def Stops (calls : List (Call γ)) : Prop := ∀ call ∈ calls.getLast?, call.row?.isSome

theorem stops_nil : Stops ([] : List (Call γ)) := by
  intro call member
  simp at member

theorem stops_concat {before : List (Call γ)} {last : Call γ} {row : Row}
    (adds : last.row? = some row) : Stops (before ++ [last]) := by
  intro call member
  simp only [List.getLast?_append, List.getLast?_singleton, Option.some_or, Option.mem_def,
    Option.some.injEq] at member
  rw [← member, adds]
  rfl

theorem Stops.append {first second : List (Call γ)} (one : Stops first) (other : Stops second) :
    Stops (first ++ second) := by
  intro call member
  rw [List.getLast?_append] at member
  cases last : second.getLast? with
  | none =>
    rw [last] at member
    exact one call member
  | some final =>
    rw [last] at member
    exact other call (last ▸ member)

end Call

namespace Streaming

variable (src : Source σ γ)

theorem endResult_ne_row (ending : Ending) (q : Except Error Unit) (row : Row) :
    (lastly (endResult ending) q).mapError Error.outOfIteration ≠ .ok (some row) := by
  cases ending <;> cases q <;> nofun

/-- Taking rows hands out what is owed, in order, and asking for more than is owed meets the end. -/
theorem takeRows_owed {st : Streaming σ γ} (live : st.Live) (count : Nat) :
    let taken := takeRows (next src) count st
    let batch := st.owed src
    let closed := src.close batch.state
    taken.rows = batch.rows.take count ∧
    (count ≤ batch.rows.length → taken.ending = .more) ∧
    (batch.rows.length < count →
      taken.ending = (Ending.of (lastly (endResult batch.ending) closed.result)).outOfIteration ∧
        taken.state.source = closed.state) := by
  intro taken batch closed
  induction count generalizing st with
  | zero => exact ⟨rfl, fun _ => rfl, nofun⟩
  | succ count ih =>
    cases owes : (st.owed src).rows with
    | nil =>
      rcases takeRows_of_end (next_end src live owes) (endResult_ne_row _ _) count with ⟨log, ended⟩
      simp only [taken, batch, closed, ended, Ending.of_mapError]
      refine ⟨by simp, fun inside => absurd inside (Nat.not_succ_le_zero count), fun _ => ?_⟩
      exact ⟨trivial, trivial⟩
    | cons row rest =>
      rcases next_row src live owes with ⟨t, pulled, onward, left, ending, state⟩
      rcases takeRows_of_row pulled count with ⟨log, further⟩
      rcases ih onward with ⟨rows, within, beyond⟩
      rw [left, ending, state] at *
      simp only [taken, batch, closed, further, Batch.behind, List.length_cons,
        List.take_succ_cons]
      refine ⟨by rw [rows]; rfl, fun inside => within (Nat.le_of_succ_le_succ inside), ?_⟩
      exact fun outside => beyond (Nat.lt_of_succ_lt_succ outside)

/-- The calls made while rows are taken add these rows, and stop with the last of them. -/
theorem takeRows_recorded {st : Streaming σ γ} (live : st.Live) (calls : List (Call γ))
    (count : Nat) :
    let taken := takeRows (next src) count st
    let twin := takeRows (next src.recorded) count (st.recording calls)
    ∃ new, twin.rows = taken.rows ∧ twin.ending = taken.ending ∧
      twin.state = taken.state.recording (calls ++ new) ∧ new.filterMap Call.row? = taken.rows ∧
      (taken.ending = .more → taken.state.Live ∧ Call.Stops new) := by
  intro taken twin
  induction count generalizing st calls with
  | zero => exact ⟨[], rfl, rfl, by simp [taken, twin, takeRows], rfl, fun _ => ⟨live, Call.stops_nil⟩⟩
  | succ count ih =>
    have pulled := yields_self (next src) st
    by_cases found : ∃ row, (next src st).result = .ok (some row)
    · rcases found with ⟨row, answer⟩
      rw [answer] at pulled
      rcases next_recorded src live pulled calls with ⟨new, same, before, last, rfl, quiet, adds⟩
      rcases takeRows_of_row pulled count with ⟨log, further⟩
      rcases takeRows_of_row same count with ⟨log', further'⟩
      rcases ih (live_of_row src live pulled)
          (calls ++ (before ++ [last])) with ⟨later, rows, ending, state, added, stops⟩
      simp only [twin, taken, further, further', Batch.behind]
      refine ⟨before ++ [last] ++ later, by rw [rows], ending, ?_, ?_, ?_⟩
      · rw [state, List.append_assoc]
      · simp [quiet.filterMap_row?, adds, added]
      · intro more
        rcases stops more with ⟨onward, stops⟩
        exact ⟨onward, (Call.stops_concat adds).append stops⟩
    · have ended : ∀ row, (next src st).result ≠ .ok (some row) :=
        fun row answer => found ⟨row, answer⟩
      rcases next_recorded src live pulled calls with ⟨new, same, turn⟩
      rcases turn.of_end ended with ⟨before, t, rfl, quiet⟩
      rcases takeRows_of_end pulled ended count with ⟨log, stop⟩
      rcases takeRows_of_end same ended count with ⟨log', stop'⟩
      simp only [twin, taken, stop, stop']
      refine ⟨before ++ [.close (src.close t).result], trivial, trivial, rfl, ?_, ?_⟩
      · simp [quiet.filterMap_row?, Call.row?]
      · intro more
        cases answer : (next src st).result <;> simp [answer, Ending.of] at more

/-! ## The whole pass -/

/-- A stream that has just begun. -/
def fresh (s : σ) : Streaming σ γ := ⟨.unstarted, { started := true }, s⟩

theorem fresh_live (s : σ) : (fresh s : Streaming σ γ).Live := trivial

/-- A new stream whose schema cannot be read owes no row. -/
theorem owed_of_unread {s : σ} {e : Error} (failed : (src.readSchema s).result = .error e) :
    (fresh s).owed src = ⟨[], .failed e, (src.readSchema s).state, []⟩ := by
  have asked := Pass.readSchema_yields src { started := true } s rfl
  simp only [failed] at asked
  simp only [owed, fresh, opened, asked.result, asked.state]

/-- A new stream owes the rows of all groups. -/
theorem owed_of_read {s : σ} {schema : Schema} (read : (src.readSchema s).result = .ok schema) :
    (fresh s).owed src = src.deliverGroups schema (src.readSchema s).state := by
  have asked := Pass.readSchema_yields src { started := true } s rfl
  simp only [read] at asked
  simp only [owed, fresh, opened, asked.result, asked.state]

/-- Reading everything delivers what a new stream owes, and fails as the stream does but for the border
of the iteration: the schema is not read inside of it. -/
theorem materialize_owed (s : σ) :
    let batch := (fresh s).owed src
    let closed := src.close batch.state
    ∃ schema p r, Yields (Pass.materialize src) ({}, s) r (p, closed.state) ∧
      r.mapError Error.outOfIteration =
        (lastly (batch.dataset schema) closed.result).mapError Error.outOfIteration := by
  intro batch closed
  cases read : (src.readSchema s).result with
  | error e =>
    have ended := Pass.materialize_unread src s read
    simp only [closed, batch, owed_of_unread src read]
    refine ⟨[], _, _, ended, ?_⟩
    cases (src.close (src.readSchema s).state).result with
    | ok _ => exact congrArg Except.error e.outOfIteration_outOfIteration.symm
    | error f => rfl
  | ok schema =>
    have ended := Pass.materialize_read src s read
    simp only [closed, batch, owed_of_read src read]
    exact ⟨schema, _, _, ended, rfl⟩

theorem of_dataset (batch : Batch σ) (schema : Schema) (q : Except Error Unit) :
    (Ending.of (lastly (batch.dataset schema) q)).outOfIteration =
      (Ending.of (lastly (endResult batch.ending) q)).outOfIteration := by
  rcases batch with ⟨rows, _ | _ | e, t, log⟩ <;> cases q
  case failed.ok => exact congrArg Ending.failed e.outOfIteration_outOfIteration
  all_goals rfl

theorem rows_of_dataset {batch : Batch σ} {schema : Schema} {q : Except Error Unit}
    {dataset : Dataset} (read : lastly (batch.dataset schema) q = .ok dataset) :
    dataset.rows = batch.rows := by
  rcases batch with ⟨rows, _ | _ | e, t, log⟩ <;> cases q <;> cases read <;> rfl

/-- The calls a new stream has made after it was pulled `count` times, or to its end. -/
def callsAfter (s : σ) (count : Nat) : List (Call γ) :=
  (takeRows (next src.recorded) count (fresh ⟨s, []⟩)).state.source.calls

theorem fresh_recorded (s : σ) (count : Nat) :
    let taken := takeRows (next src) count (fresh s)
    let twin := takeRows (next src.recorded) count (fresh ⟨s, []⟩)
    twin.rows = taken.rows ∧ twin.ending = taken.ending ∧
      twin.state = taken.state.recording (callsAfter src s count) ∧
      (callsAfter src s count).filterMap Call.row? = taken.rows ∧
      (taken.ending = .more → taken.state.Live ∧ Call.Stops (callsAfter src s count)) := by
  rcases takeRows_recorded src (fresh_live s) [] count with ⟨new, rows, ending, state, added, stops⟩
  have made : callsAfter src s count = new := congrArg (·.source.calls) state
  rw [made]
  exact ⟨rows, ending, state, added, stops⟩

/-- Recording changes nothing about what a new stream owes. -/
theorem owed_rows_recorded (s : σ) :
    ((fresh ⟨s, []⟩).owed src.recorded).rows = ((fresh s).owed src).rows := by
  let owes := ((fresh s).owed src).rows
  let twin : List Row := ((fresh ⟨s, []⟩).owed src.recorded).rows
  have same := (fresh_recorded src s (twin.length + owes.length)).1
  rw [(takeRows_owed src.recorded (fresh_live ⟨s, []⟩) _).1, (takeRows_owed src (fresh_live s) _).1,
    List.take_of_length_le (Nat.le_add_right _ _),
    List.take_of_length_le (Nat.le_add_left _ _)] at same
  exact same

/-- The calls made while a stream is pulled to its end are those of reading everything. -/
theorem callsAfter_end {s : σ} {count : Nat} (beyond : ((fresh s).owed src).rows.length < count) :
    callsAfter src s count = src.materializeCalls s := by
  rcases materialize_owed src.recorded ⟨s, []⟩ with ⟨schema, p, r, whole, -⟩
  have twin := (takeRows_owed src.recorded (fresh_live ⟨s, []⟩) count).2.2
  rw [owed_rows_recorded] at twin
  rw [callsAfter, (twin beyond).2, Source.materializeCalls, whole.state]

end Streaming
end RowReader
