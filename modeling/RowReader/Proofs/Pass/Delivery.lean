import RowReader.Pass
import RowReader.Proofs.Action.Yields

/-!
# What a pass delivers

The equations of a pass over the groups of a source, one for each answer the source can give, and
the end of a pass that collects every row: the schema is read, the groups are delivered, and the
source is closed whatever came of both.
-/

namespace RowReader

variable {σ γ : Type}

open RowReader.Action

namespace Source

variable (src : Source σ γ) (schema : Schema)

/-! ## By the groups still to come -/

/-- What holds of a source that refuses a group or has none left, and of one that hands out a group
if it holds whenever no more groups are to come than behind this one, holds of every source. -/
theorem groups_induction {motive : σ → Prop}
    (refused : ∀ s e t log, src.nextRowGroup s = ⟨.error e, t, log⟩ → motive s)
    (exhausted : ∀ s t log, src.nextRowGroup s = ⟨.ok none, t, log⟩ → motive s)
    (handed : ∀ s g t log, src.nextRowGroup s = ⟨.ok (some g), t, log⟩ →
      (∀ u, src.pending u ≤ src.pending t → motive u) → motive s) (s : σ) : motive s := by
  induction pending : src.pending s using Nat.strongRecOn generalizing s with
  | ind n ih =>
    subst pending
    rcases asked : src.nextRowGroup s with ⟨e | (_ | g), t, log⟩
    · exact refused s e t log asked
    · exact exhausted s t log asked
    · have fewer := src.pending_nextRowGroup s g (by rw [asked])
      rw [asked] at fewer
      exact handed s g t log asked fun u behind =>
        ih (src.pending u) (Nat.lt_of_le_of_lt behind fewer) u rfl

/-- The rows of a group leave no more groups to come. -/
theorem pending_delivered {left i : Nat} {g : γ} {t u : σ} {rows : List Row} {ending : Ending}
    {log : List LogLine} (delivered : src.deliverGroup schema left g i t = ⟨rows, ending, u, log⟩) :
    src.pending u ≤ src.pending t := by
  have kept := src.pending_deliverGroup_le schema left g i t
  rwa [delivered] at kept

/-! ## One answer, one equation -/

theorem deliverGroup_of_row {g g' : γ} {i : Nat} {s t : σ} {row : Row} {log : List LogLine}
    (left : Nat) (checked : src.checkedRow schema g i s = ⟨.ok (row, g'), t, log⟩) :
    src.deliverGroup schema (left + 1) g i s =
      (src.deliverGroup schema left g' (i + 1) t).behind [row] log := by
  simp only [deliverGroup, checked]

theorem deliverGroup_of_error {g : γ} {i : Nat} {s t : σ} {e : Error} {log : List LogLine}
    (left : Nat) (checked : src.checkedRow schema g i s = ⟨.error e, t, log⟩) :
    src.deliverGroup schema (left + 1) g i s = ⟨[], .failed e, t, log⟩ := by
  simp only [deliverGroup, checked]

theorem deliverGroups_refused {s t : σ} {e : Error} {log : List LogLine}
    (asked : src.nextRowGroup s = ⟨.error e, t, log⟩) :
    src.deliverGroups schema s = ⟨[], .failed e, t, log⟩ := by
  rw [deliverGroups]
  split <;> simp_all

theorem deliverGroups_exhausted {s t : σ} {log : List LogLine}
    (asked : src.nextRowGroup s = ⟨.ok none, t, log⟩) :
    src.deliverGroups schema s = ⟨[], .exhausted, t, log⟩ := by
  rw [deliverGroups]
  split <;> simp_all

theorem deliverGroups_broken {s t u : σ} {g : γ} {e : Error} {rows : List Row}
    {log more : List LogLine} (asked : src.nextRowGroup s = ⟨.ok (some g), t, log⟩)
    (delivered : src.deliverGroup schema (src.numRows g) g 0 t = ⟨rows, .failed e, u, more⟩) :
    src.deliverGroups schema s = ⟨rows, .failed e, u, log ++ src.announce g :: more⟩ := by
  rw [deliverGroups]
  split
  · simp_all
  · simp_all
  · next answered =>
    rw [asked] at answered
    cases answered
    split <;> simp_all

theorem deliverGroups_further {s t u : σ} {g : γ} {rows : List Row} {log more : List LogLine}
    (asked : src.nextRowGroup s = ⟨.ok (some g), t, log⟩)
    (delivered : src.deliverGroup schema (src.numRows g) g 0 t = ⟨rows, .more, u, more⟩) :
    src.deliverGroups schema s =
      (src.deliverGroups schema u).behind rows (log ++ src.announce g :: more) := by
  rw [deliverGroups]
  split
  · simp_all
  · simp_all
  · next answered =>
    rw [asked] at answered
    cases answered
    split <;> simp_all

/-- The rows of one group end with an error or with more to come; only the source knows whether a
group was the last. -/
theorem deliverGroup_ending (left : Nat) (g : γ) (i : Nat) (s : σ) :
    (src.deliverGroup schema left g i s).ending = .more ∨
      ∃ e, (src.deliverGroup schema left g i s).ending = .failed e := by
  induction left generalizing g i s with
  | zero => exact Or.inl rfl
  | succ left ih =>
    rcases checked : src.checkedRow schema g i s with ⟨e | ⟨row, g'⟩, t, log⟩
    · rw [deliverGroup_of_error src schema left checked]
      exact Or.inr ⟨e, rfl⟩
    · rw [deliverGroup_of_row src schema left checked]
      exact ih g' (i + 1) t

end Source

/-! ## The end of a pass that collects every row -/

namespace Batch

/-- The rows of a batch as a dataset, unless it failed.  The error is then the one that comes out of the
iteration over the rows. -/
def dataset (schema : Schema) (batch : Batch σ) : Except Error Dataset :=
  match batch.ending with
  | .failed e => .error e.outOfIteration
  | _ => .ok { rows := batch.rows, schema }

end Batch

namespace Pass

theorem readSchema_known (src : Source σ γ) {p : Pass} (s : σ) {schema : Schema}
    (known : p.schema = some schema) : Yields (readSchema src) (p, s) (.ok schema) (p, s) := by
  apply (yields_getState (p, s)).bind
  simp only [known]
  exact yields_pure schema _

theorem readSchema_yields (src : Source σ γ) (p : Pass) (s : σ) (unknown : p.schema = none) :
    Yields (readSchema src) (p, s) (src.readSchema s).result
      (match (src.readSchema s).result with
        | .ok schema => ({ p with schema := some schema }, (src.readSchema s).state)
        | .error _ => (p, (src.readSchema s).state)) := by
  have asked : Yields (onSource src.readSchema) (p, s) (src.readSchema s).result
      (p, (src.readSchema s).state) :=
    (yields_self src.readSchema s).onPart
  apply (yields_getState (p, s)).bind
  simp only [unknown]
  cases answer : (src.readSchema s).result with
  | error e =>
    rw [answer] at asked
    exact asked.bind_error
  | ok schema =>
    rw [answer] at asked
    exact asked.bind ((yields_modifyState _ _).bind (yields_pure schema _))

theorem collect_yields (src : Source σ γ) (schema : Schema) (p : Pass) (s : σ) :
    let batch := src.deliverGroups schema s
    Yields (collect src schema) (p, s) ((batch.dataset schema).map Dataset.rows)
      ({ p with rowsRead := p.rowsRead + batch.rows.length }, batch.state) := by
  intro batch
  constructor
  · simp only [collect, Batch.dataset, batch]
    cases (src.deliverGroups schema s).ending <;> rfl
  · rfl

/-- What a pass does between its start and the closing of its source. -/
def body (src : Source σ γ) : Action (Pass × σ) Dataset := do
  let schema ← readSchema src
  let rows ← collect src schema
  return { rows, schema }

/-- However its body ends, a pass ends with the source closed. -/
theorem materialize_of_body (src : Source σ γ) {p q : Pass} {s t : σ} {r : Except Error Dataset}
    (fresh : p.started = false) (ends : Yields (body src) ({ p with started := true }, s) r (q, t)) :
    Yields (materialize src) (p, s) (lastly r (src.close t).result) (q, (src.close t).state) := by
  have begun : Yields start (p, s) (.ok ()) ({ p with started := true }, s) := by
    apply (yields_getState _).bind
    simp only [fresh]
    exact yields_modifyState _ _
  have closes : Yields (onSource src.close) (q, t) (src.close t).result (q, (src.close t).state) :=
    (yields_self src.close t).onPart
  have whole := ends.andFinally closes
  apply begun.bind
  cases answer : lastly r (src.close t).result with
  | error e =>
    rw [answer] at whole
    exact whole.bind_error
  | ok dataset =>
    rw [answer] at whole
    exact whole.bind ((yields_note _ _ _ _).bind (yields_pure dataset _))

/-- Without a schema the source is closed at once. -/
theorem materialize_of_error (src : Source σ γ) {p q : Pass} {s t : σ} {e : Error}
    (fresh : p.started = false)
    (asked : Yields (readSchema src) ({ p with started := true }, s) (.error e) (q, t)) :
    Yields (materialize src) (p, s) (lastly (.error e) (src.close t).result)
      (q, (src.close t).state) :=
  materialize_of_body src fresh asked.bind_error

/-- Under a schema every group is delivered, and the rows are counted. -/
theorem materialize_of_schema (src : Source σ γ) {p q : Pass} {s t : σ} {schema : Schema}
    (fresh : p.started = false)
    (asked : Yields (readSchema src) ({ p with started := true }, s) (.ok schema) (q, t)) :
    let batch := src.deliverGroups schema t
    let closed := src.close batch.state
    Yields (materialize src) (p, s) (lastly (batch.dataset schema) closed.result)
      ({ q with rowsRead := q.rowsRead + batch.rows.length }, closed.state) := by
  intro batch closed
  have collected := collect_yields src schema q t
  refine materialize_of_body src fresh (asked.bind ?_)
  change Yields _ _ (Batch.dataset schema (src.deliverGroups schema t)) _
  cases outcome : (src.deliverGroups schema t).ending with
  | failed e =>
    simp only [Batch.dataset, outcome, Except.map] at collected ⊢
    exact collected.bind_error
  | more | exhausted =>
    simp only [Batch.dataset, outcome, Except.map] at collected ⊢
    exact collected.bind (yields_pure _ _)

/-- A source whose schema cannot be read is closed at once. -/
theorem materialize_unread (src : Source σ γ) (s : σ) {e : Error}
    (failed : (src.readSchema s).result = .error e) :
    let closed := src.close (src.readSchema s).state
    Yields (materialize src) ({}, s) (lastly (.error e) closed.result)
      ({ started := true }, closed.state) := by
  have asked := readSchema_yields src { started := true } s rfl
  simp only [failed] at asked
  exact materialize_of_error src rfl asked

/-- Once the schema is read, the result is that of delivering every group, unless closing the
source fails. -/
theorem materialize_read (src : Source σ γ) (s : σ) {schema : Schema}
    (read : (src.readSchema s).result = .ok schema) :
    let batch := src.deliverGroups schema (src.readSchema s).state
    let closed := src.close batch.state
    Yields (materialize src) ({}, s) (lastly (batch.dataset schema) closed.result)
      ({ started := true, schema := some schema, rowsRead := batch.rows.length },
        closed.state) := by
  have asked := readSchema_yields src { started := true } s rfl
  simp only [read] at asked
  have whole := materialize_of_schema src (p := {}) rfl asked
  simp only [Nat.zero_add] at whole
  exact whole

end Pass
end RowReader
