import RowReader.Pass.Stream
import RowReader.Proofs.Pass.Calls

/-!
# Looking for a row

The search for the next row goes over groups that have none and stops at the first row it finds.
On a recorded source it makes the same calls in the same order: those that add no row first, and
the one that adds the row last.
-/

namespace RowReader

variable {σ γ α : Type}

open RowReader.Action

namespace Source

variable (src : Source σ γ) (schema : Schema)

theorem firstRow_refused {s t : σ} {e : Error} {log : List LogLine}
    (asked : src.nextRowGroup s = ⟨.error e, t, log⟩) :
    src.firstRow schema s = ⟨.error e, t, log⟩ := by
  rw [firstRow]
  split <;> simp_all

theorem firstRow_exhausted {s t : σ} {log : List LogLine}
    (asked : src.nextRowGroup s = ⟨.ok none, t, log⟩) :
    src.firstRow schema s = ⟨.ok none, t, log⟩ := by
  rw [firstRow]
  split <;> simp_all

theorem firstRow_of_group {s t : σ} {g : γ} {log : List LogLine}
    (asked : src.nextRowGroup s = ⟨.ok (some g), t, log⟩) :
    src.firstRow schema s =
      (src.rowAfter schema ⟨g, 0, src.numRows g⟩ t).after (log ++ [src.announce g]) := by
  rw [firstRow]
  split
  · simp_all
  · simp_all
  · next answered =>
    rw [asked] at answered
    cases answered
    simp only [rowAfter]
    split <;> simp_all

end Source

namespace Call

/-- Calls that add no row and leave the source open. -/
def Quiet (calls : List (Call γ)) : Prop :=
  ∀ call ∈ calls, call.row? = none ∧ call.closes = false

theorem quiet_nil : Quiet ([] : List (Call γ)) := by
  intro call member
  cases member

theorem Quiet.append {first second : List (Call γ)} (one : Quiet first) (other : Quiet second) :
    Quiet (first ++ second) := by
  intro call member
  rcases List.mem_append.mp member with early | late
  · exact one call early
  · exact other call late

theorem quiet_singleton {call : Call γ} (adds : call.row? = none) (leaves : call.closes = false) :
    Quiet [call] := by
  intro other member
  rw [List.mem_singleton.mp member]
  exact ⟨adds, leaves⟩

theorem Quiet.filterMap_row? {calls : List (Call γ)} (quiet : Quiet calls) :
    calls.filterMap row? = [] :=
  List.filterMap_eq_nil_iff.mpr fun call member => (quiet call member).1

theorem closes_of_row? {call : Call γ} {row : Row} (adds : call.row? = some row) :
    call.closes = false := by
  cases call with
  | close answer => cases adds
  | readSchema answer => rfl
  | nextRowGroup answer => rfl
  | assembleRow g schema i answer => rfl

/-- A call that fails adds no row. -/
theorem row?_of_failure? {src : Source σ γ} {call : Call γ} {e : Error}
    (fails : src.failure? call = some e) : call.row? = none := by
  cases call with
  | assembleRow g schema i answer =>
    cases answer with
    | error e => rfl
    | ok both =>
      by_cases fits : both.1.size = schema.length
      · simp [Source.failure?, fits] at fails
      · simp [row?, fits]
  | readSchema answer => rfl
  | nextRowGroup answer => rfl
  | close answer => rfl

/-- The calls of a pull: the row it finds, if it finds one, is added by the last of them. -/
def Pulled (calls : List (Call γ)) : Except Error (Option (Row × α)) → Prop
  | .ok (some (row, _)) =>
    ∃ before call, calls = before ++ [call] ∧ Quiet before ∧ call.row? = some row
  | _ => Quiet calls

theorem Pulled.behind {calls quiet : List (Call γ)} {answer : Except Error (Option (Row × α))}
    (pulled : Pulled calls answer) (silent : Quiet quiet) : Pulled (quiet ++ calls) answer := by
  rcases answer with e | _ | ⟨row, rest⟩
  · exact silent.append pulled
  · exact silent.append pulled
  · rcases pulled with ⟨before, call, made, calm, adds⟩
    refine ⟨quiet ++ before, call, ?_, silent.append calm, adds⟩
    rw [made, List.append_assoc]

/-- A pull leaves the source open. -/
theorem Pulled.leaves_open {calls : List (Call γ)} {answer : Except Error (Option (Row × α))}
    (pulled : Pulled calls answer) : ∀ call ∈ calls, call.closes = false := by
  rcases answer with e | _ | ⟨row, rest⟩
  · exact fun call member => (pulled call member).2
  · exact fun call member => (pulled call member).2
  · rcases pulled with ⟨before, last, rfl, calm, adds⟩
    intro call member
    rcases List.mem_append.mp member with early | late
    · exact (calm call early).2
    · rw [List.mem_singleton.mp late]
      exact closes_of_row? adds

end Call

namespace Source

variable (src : Source σ γ) (schema : Schema)

theorem rowAt_recorded (g : γ) (i left : Nat) (s : σ) (calls : List (Call γ)) :
    ∃ new, src.recorded.rowAt schema g i left ⟨s, calls⟩ =
        (src.rowAt schema g i left s).mapState (fun t => ⟨t, calls ++ new⟩) ∧
      Call.Pulled new (src.rowAt schema g i left s).result := by
  have answered := src.checkedRow_result schema g i s
  have entered := src.checkedRow_recorded schema g i s calls
  rcases checked : src.checkedRow schema g i s with ⟨e | ⟨row, next⟩, t, log⟩
  · simp only [checked, Outcome.mapState] at answered entered
    refine ⟨[.assembleRow g schema i (src.assembleRow g schema i s).result],
      by simp only [rowAt, checked, entered, Outcome.mapState], ?_⟩
    simp only [rowAt, checked, Call.Pulled]
    exact Call.quiet_singleton (Call.row?_of_failure? answered) rfl
  · simp only [checked, Outcome.mapState] at answered entered
    refine ⟨[.assembleRow g schema i (src.assembleRow g schema i s).result],
      by simp only [rowAt, checked, entered, Outcome.mapState], ?_⟩
    simp only [rowAt, checked, Call.Pulled]
    refine ⟨[], _, rfl, Call.quiet_nil, ?_⟩
    simp only [answered.1, Call.row?, if_pos answered.2]

theorem firstRow_recorded (s : σ) (calls : List (Call γ)) :
    ∃ new, src.recorded.firstRow schema ⟨s, calls⟩ =
        (src.firstRow schema s).mapState (fun t => ⟨t, calls ++ new⟩) ∧
      Call.Pulled new (src.firstRow schema s).result := by
  induction s using groups_induction src generalizing calls with
  | refused s e t log asked =>
    rw [firstRow_refused src schema asked,
      firstRow_refused src.recorded schema (src.nextRowGroup_recorded asked calls)]
    exact ⟨_, rfl, Call.quiet_singleton rfl rfl⟩
  | exhausted s t log asked =>
    rw [firstRow_exhausted src schema asked,
      firstRow_exhausted src.recorded schema (src.nextRowGroup_recorded asked calls)]
    exact ⟨_, rfl, Call.quiet_singleton rfl rfl⟩
  | handed s g t log asked ih =>
    have entered := src.nextRowGroup_recorded asked calls
    have behind : ∃ new, src.recorded.rowAfter schema ⟨g, 0, src.numRows g⟩
          ⟨t, calls ++ [.nextRowGroup (.ok (some g))]⟩ =
        (src.rowAfter schema ⟨g, 0, src.numRows g⟩ t).mapState
          (fun u => ⟨u, calls ++ [.nextRowGroup (.ok (some g))] ++ new⟩) ∧
        Call.Pulled new (src.rowAfter schema ⟨g, 0, src.numRows g⟩ t).result := by
      cases src.numRows g with
      | zero => exact ih t (Nat.le_refl _) _
      | succ left => exact src.rowAt_recorded schema g 0 left t _
    rcases behind with ⟨new, found, pulled⟩
    rw [firstRow_of_group src schema asked, firstRow_of_group src.recorded schema entered]
    refine ⟨[.nextRowGroup (.ok (some g))] ++ new, ?_,
      pulled.behind (Call.quiet_singleton rfl rfl)⟩
    simp only [recorded] at found ⊢
    rw [found]
    simp [Outcome.after, Outcome.mapState, announce]

theorem rowAfter_recorded (place : Place γ) (s : σ) (calls : List (Call γ)) :
    ∃ new, src.recorded.rowAfter schema place ⟨s, calls⟩ =
        (src.rowAfter schema place s).mapState (fun t => ⟨t, calls ++ new⟩) ∧
      Call.Pulled new (src.rowAfter schema place s).result := by
  rcases place with ⟨g, i, left⟩
  cases left with
  | zero => exact src.firstRow_recorded schema s calls
  | succ left => exact src.rowAt_recorded schema g i left s calls

end Source

end RowReader
