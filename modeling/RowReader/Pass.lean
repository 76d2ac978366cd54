import RowReader.Dataset
import RowReader.Source

/-!
# Passes over a source

A pass reads the schema once and then delivers the rows of every row group in order, checking that
each row is as wide as the schema.  It can be made once; it ends with the source closed, however
it ends.

`Source.deliverGroups` is the pass itself: all rows up to the end or up to the first error.
`Pass.materialize` collects them, and `Pass.Stream` delivers them one by one.  The rows are an
iteration, and an error that is raised in it comes out as `Error.outOfIteration` has it.
-/

namespace RowReader

variable {σ γ : Type}

namespace Source

/-- Assembles a row and checks its width. -/
def checkedRow (src : Source σ γ) (schema : Schema) (g : γ) (i : Nat) : Action σ (Row × γ) := do
  let (row, g') ← src.assembleRow g schema i
  if row.size = schema.length then return (row, g')
  else Action.fail (.rowWidth i (src.index g) row.size schema.length)

/-- The rows of a group from position `i` on; `left` of them are still to come. -/
def deliverGroup (src : Source σ γ) (schema : Schema) : (left : Nat) → γ → (i : Nat) → σ → Batch σ
  | 0, _, _, s => { rows := [], ending := .more, state := s }
  | left + 1, g, i, s =>
    match src.checkedRow schema g i s with
    | { result := .ok (row, g'), state, log } =>
      (src.deliverGroup schema left g' (i + 1) state).behind [row] log
    | { result := .error e, state, log } => { rows := [], ending := .failed e, state, log }

/-- The line that announces a group. -/
def announce (src : Source σ γ) (g : γ) : LogLine :=
  let index := src.index g
  let rows := src.numRows g
  ⟨.debug, .materializer, s!"Materializing row group {index}: {rows} rows"⟩

theorem pending_checkedRow_le (src : Source σ γ) (schema : Schema) (g : γ) (i : Nat) (s : σ) :
    src.pending (src.checkedRow schema g i s).state ≤ src.pending s := by
  have assembled := src.pending_assembleRow g schema i s
  simp only [checkedRow, bind]
  split
  · next a state log h =>
    simp only [h] at assembled
    simp only [Outcome.after]
    split <;> exact assembled
  · next e state log h =>
    simpa only [h] using assembled

theorem pending_deliverGroup_le (src : Source σ γ) (schema : Schema) (left : Nat) (g : γ) (i : Nat)
    (s : σ) : src.pending (src.deliverGroup schema left g i s).state ≤ src.pending s := by
  induction left generalizing g i s with
  | zero => exact Nat.le_refl _
  | succ left ih =>
    have step := src.pending_checkedRow_le schema g i s
    simp only [deliverGroup]
    split
    · next h =>
      simp only [h] at step
      exact Nat.le_trans (ih _ _ _) step
    · next h =>
      simpa only [h] using step

/-- The rows of every remaining group, group after group. -/
def deliverGroups (src : Source σ γ) (schema : Schema) (s : σ) : Batch σ :=
  match _asked : src.nextRowGroup s with
  | { result := .error e, state, log } => { rows := [], ending := .failed e, state, log }
  | { result := .ok none, state, log } => { rows := [], ending := .exhausted, state, log }
  | { result := .ok (some g), state, log } =>
    match _delivered : src.deliverGroup schema (src.numRows g) g 0 state with
    | { rows, ending := .failed e, state, log := more } =>
      { rows, ending := .failed e, state, log := log ++ src.announce g :: more }
    | { rows, ending := _, state, log := more } =>
      (src.deliverGroups schema state).behind rows (log ++ src.announce g :: more)
termination_by src.pending s
decreasing_by
  have fewer := src.pending_nextRowGroup s g (by rw [_asked])
  have kept := src.pending_deliverGroup_le schema (src.numRows g) g 0
    (src.nextRowGroup s).state
  simp only [_asked, _delivered] at fewer kept
  omega

end Source

/-- A single pass over a source: whether it has begun, the schema once it is known, and how many
rows it has delivered. -/
structure Pass where
  started : Bool := false
  schema : Option Schema := none
  rowsRead : Nat := 0

namespace Pass

/-- Acts on the source of a pass. -/
def onSource {α : Type} (act : Action σ α) : Action (Pass × σ) α :=
  Action.onPart Prod.snd (fun s both => (both.1, s)) act

def update (f : Pass → Pass) : Action (Pass × σ) Unit :=
  Action.modifyState fun both => (f both.1, both.2)

/-- The schema of the source, asked for until it is known and then kept. -/
def readSchema (src : Source σ γ) : Action (Pass × σ) Schema := do
  match (← Action.getState).1.schema with
  | some schema => return schema
  | none =>
    let schema ← onSource src.readSchema
    update fun p => { p with schema := some schema }
    return schema

/-- Begins the pass, which can be done once. -/
def start : Action (Pass × σ) Unit := do
  if (← Action.getState).1.started then Action.fail .passConsumed
  else update fun p => { p with started := true }

/-- Every row of the source, or the error that stopped the iteration over them, as it comes out of it;
the rows before it are counted. -/
def collect (src : Source σ γ) (schema : Schema) : Action (Pass × σ) (List Row) := fun (p, s) =>
  let batch := src.deliverGroups schema s
  let p := { p with rowsRead := p.rowsRead + batch.rows.length }
  let result := match batch.ending with
    | .failed e => Except.error e.outOfIteration
    | _ => .ok batch.rows
  { result, state := (p, batch.state), log := batch.log }

/-- Reads every row.  The source is closed before this returns or fails, and rows read before an
error are not returned. -/
def materialize (src : Source σ γ) : Action (Pass × σ) Dataset := do
  start
  let body : Action (Pass × σ) Dataset := do
    let schema ← readSchema src
    let rows ← collect src schema
    return { rows, schema }
  let dataset ← body.andFinally (onSource src.close)
  let rows := dataset.size
  let fields := dataset.schema.length
  Action.debug .materializer s!"Materialized {rows} rows with {fields} fields"
  return dataset

end Pass
end RowReader
