import RowReader.Action.Lemmas
import RowReader.Pass.Stream

/-!
# Streams end

Every row a stream delivers lowers its rank, which counts the row groups that are still to come and
then the rows left in the present one.  So whatever a source does, rows can be pulled to the end.
-/

namespace RowReader

variable {σ γ : Type}

/-- How far a pass has to go: whether it has begun, then the row groups, then the rows. -/
structure Rank where
  unbegun : Nat
  groups : Nat
  rows : Nat

namespace Rank

def lt (a b : Rank) : Prop :=
  a.unbegun < b.unbegun
    ∨ (a.unbegun = b.unbegun ∧ (a.groups < b.groups ∨ (a.groups = b.groups ∧ a.rows < b.rows)))

instance : WellFoundedRelation Rank where
  rel := lt
  wf := by
    have lexicographic := (Prod.lex (Nat.lt_wfRel) (Prod.lex Nat.lt_wfRel Nat.lt_wfRel)).wf
    have pulled := InvImage.wf (fun r : Rank => (r.unbegun, r.groups, r.rows)) lexicographic
    refine Subrelation.wf ?_ pulled
    intro a b less
    rcases less with first | ⟨same, second | ⟨alike, third⟩⟩
    · exact Prod.Lex.left _ _ first
    · simp only [InvImage, same]
      exact Prod.Lex.right _ (Prod.Lex.left _ _ second)
    · simp only [InvImage, same, alike]
      exact Prod.Lex.right _ (Prod.Lex.right _ third)

end Rank

namespace Source

/-- A row at a place leaves the groups as they are. -/
theorem rowAt_place (src : Source σ γ) (schema : Schema) (g : γ) (i left : Nat) (s : σ) (row : Row)
    (place : Place γ) (found : (src.rowAt schema g i left s).result = .ok (some (row, place))) :
    place.left = left ∧ src.pending (src.rowAt schema g i left s).state ≤ src.pending s := by
  have kept := src.pending_checkedRow_le schema g i s
  revert found
  simp only [rowAt]
  split
  · next h =>
    simp only [h] at kept ⊢
    intro found
    injection found with found
    injection found with found
    injection found with _ found
    exact ⟨found ▸ rfl, kept⟩
  · simp

/-- The first row of a further group leaves fewer groups. -/
theorem pending_firstRow_lt (src : Source σ γ) (schema : Schema) (s : σ) (row : Row)
    (place : Place γ) (found : (src.firstRow schema s).result = .ok (some (row, place))) :
    src.pending (src.firstRow schema s).state < src.pending s := by
  fun_induction firstRow src schema s with
  | case1 => simp at found
  | case2 => simp at found
  | case3 s g state log asked empty ih =>
    have fewer := src.pending_nextRowGroup s g (by rw [asked])
    simp only [asked] at fewer
    exact Nat.lt_trans (ih found) fewer
  | case4 s g state log asked left _ =>
    have fewer := src.pending_nextRowGroup s g (by rw [asked])
    simp only [asked] at fewer
    exact Nat.lt_of_le_of_lt (src.rowAt_place schema g 0 left state row place found).2 fewer

end Source

namespace Streaming

def rank (src : Source σ γ) (st : Streaming σ γ) : Rank :=
  match st.progress with
  | .unstarted => ⟨1, 0, 0⟩
  | .running _ place => ⟨0, src.pending st.source, place.left⟩
  | .ended => ⟨0, 0, 0⟩

theorem mapResult_none_ne {σ α : Type} (o : Outcome σ α) (row : Row) :
    (o.mapResult fun _ => (none : Option Row)).result ≠ .ok (some row) := by
  cases h : o.result <;> simp [Outcome.mapResult, Except.map, h]

/-- A row that is delivered is where the pull found it. -/
theorem deliver_state (src : Source σ γ) (schema : Schema)
    (pull : Action σ (Option (Row × Place γ))) (st : Streaming σ γ) (row : Row)
    (found : (deliver src schema pull st).result = .ok (some row)) :
    ∃ place, (pull st.source).result = .ok (some (row, place))
      ∧ (deliver src schema pull st).state.progress = .running schema place
      ∧ (deliver src schema pull st).state.source = (pull st.source).state := by
  revert found
  simp only [deliver]
  split
  · next r place state log h =>
    intro found
    injection found with found
    injection found with found
    exact ⟨place, by rw [h, found], rfl, by rw [h]⟩
  · exact fun found => absurd found (mapResult_none_ne _ row)
  · exact fun found => absurd found (mapResult_none_ne _ row)

/-- A stream that delivers a row from within a pass has fewer groups to come, or as many and fewer
rows. -/
theorem rank_deliver_lt (src : Source σ γ) (schema : Schema) (place : Place γ) (st : Streaming σ γ)
    (row : Row) (stands : st.progress = .running schema place)
    (found : (deliver src schema (src.rowAfter schema place) st).result = .ok (some row)) :
    Rank.lt (rank src (deliver src schema (src.rowAfter schema place) st).state) (rank src st) := by
  obtain ⟨after, pulled, running, source⟩ := deliver_state src schema _ st row found
  simp only [rank, running, source, stands]
  refine Or.inr ⟨rfl, ?_⟩
  simp only [Source.rowAfter] at pulled ⊢
  split at pulled
  · next none_left =>
    simp only [none_left]
    exact Or.inl (src.pending_firstRow_lt schema st.source row after pulled)
  · next left some_left =>
    simp only [some_left]
    obtain ⟨fewer, kept⟩ := src.rowAt_place schema _ _ _ st.source row after pulled
    rcases Nat.lt_or_eq_of_le kept with less | same
    · exact Or.inl less
    · exact Or.inr ⟨same, by omega⟩

theorem advance_of_next {src : Source σ γ} {st : Streaming σ γ} {row : Row}
    (found : (next src st).result = .ok (some row)) :
    (advance src st).result = .ok (some row) ∧ (next src st).state = (advance src st).state :=
  ⟨Action.mapError_ok_iff.mp found, by rw [next, Action.mapError_apply]⟩

/-- A stream that delivers a row stands in a group. -/
theorem progress_next (src : Source σ γ) (st : Streaming σ γ) (row : Row)
    (found : (next src st).result = .ok (some row)) :
    ∃ schema place, (next src st).state.progress = .running schema place := by
  have delivers (schema : Schema) (pull : Action σ (Option (Row × Place γ)))
      (s : Streaming σ γ) : Action.Ensures (deliver src schema pull) s fun row? t =>
        ∀ row, row? = some row → ∃ schema place, t.progress = .running schema place := by
    intro row? found row same
    obtain ⟨place, _, running, _⟩ := deliver_state src schema pull s row (same ▸ found)
    exact ⟨schema, place, running⟩
  have ensured : Action.Ensures (next src) st fun row? t =>
      ∀ row, row? = some row → ∃ schema place, t.progress = .running schema place := by
    refine Action.ensures_mapError (Action.ensures_bind_any fun a t => ?_)
    split
    · exact Action.ensures_pure (by simp)
    · exact delivers _ _ t
    · exact Action.ensures_bind_any fun schema u => delivers schema _ u
  exact ensured (some row) found row rfl

/-- Every row lowers the rank. -/
theorem rank_next_lt (src : Source σ γ) (st : Streaming σ γ) (row : Row)
    (found : (next src st).result = .ok (some row)) :
    Rank.lt (rank src (next src st).state) (rank src st) := by
  obtain ⟨advanced, left⟩ := advance_of_next found
  cases stands : st.progress with
  | ended =>
    simp [advance, Action.bind_apply, Action.getState, stands, pure, Outcome.after] at advanced
  | running schema place =>
    have same : advance src st = (deliver src schema (src.rowAfter schema place) st).after [] := by
      simp [advance, Action.bind_apply, Action.getState, stands]
    rw [left]
    rw [same] at advanced ⊢
    exact rank_deliver_lt src schema place st row stands advanced
  | unstarted =>
    obtain ⟨schema, place, running⟩ := progress_next src st row found
    simp only [rank, running, stands]
    exact Or.inl Nat.zero_lt_one

end Streaming
end RowReader
