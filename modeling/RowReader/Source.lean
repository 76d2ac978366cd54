import RowReader.Action
import RowReader.Row
import RowReader.Schema

/-!
# Sources of rows

A source hands out a file's row groups in order and assembles single rows of a group.  Nothing is
assumed about its state, and any of its calls may fail.  The one promise is that it has finitely
many row groups: `pending` bounds how many it can still hand out.

Assembling returns the group together with the row, because a group may keep converted columns
for the rows that follow.
-/

namespace RowReader

structure Source (σ γ : Type) where
  readSchema : Action σ Schema
  /-- The next row group, or none after the last. -/
  nextRowGroup : Action σ (Option γ)
  assembleRow : γ → Schema → Nat → Action σ (Row × γ)
  close : Action σ Unit
  /-- The number by which messages name a group. -/
  index : γ → Int
  /-- How many rows a group declares. -/
  numRows : γ → Nat
  pending : σ → Nat
  pending_nextRowGroup : ∀ (s : σ) (g : γ), (nextRowGroup s).result = .ok (some g) →
    pending (nextRowGroup s).state < pending s
  pending_assembleRow : ∀ (g : γ) (schema : Schema) (i : Nat) (s : σ),
    pending (assembleRow g schema i s).state ≤ pending s

/-- How a batch of rows ended. -/
inductive Ending where
  | more
  | exhausted
  | failed (e : Error)

/-- The error of an iteration that failed as it leaves the iteration. -/
def Ending.outOfIteration : Ending → Ending
  | failed e => failed e.outOfIteration
  | ending => ending

/-- Rows delivered by some calls, in order, with what came after the last of them. -/
structure Batch (σ : Type) where
  rows : List Row
  ending : Ending
  state : σ
  log : List LogLine := []

namespace Batch

variable {σ τ : Type}

def mapState (f : σ → τ) (b : Batch σ) : Batch τ :=
  { rows := b.rows, ending := b.ending, state := f b.state, log := b.log }

/-- Puts rows and log lines in front. -/
def behind (rows : List Row) (log : List LogLine) (b : Batch σ) : Batch σ :=
  { b with rows := rows ++ b.rows, log := log ++ b.log }

end Batch

/-- Pulls rows until `count` have come, or none is left, or a pull fails. -/
def takeRows {σ : Type} (next : Action σ (Option Row)) : (count : Nat) → σ → Batch σ
  | 0, s => { rows := [], ending := .more, state := s }
  | count + 1, s =>
    match next s with
    | { result := .ok (some row), state, log } => (takeRows next count state).behind [row] log
    | { result := .ok none, state, log } => { rows := [], ending := .exhausted, state, log }
    | { result := .error e, state, log } => { rows := [], ending := .failed e, state, log }

end RowReader
