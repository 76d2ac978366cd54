import RowReader.Pass.Stream
import RowReader.Proofs.Action.Yields

/-!
# Recorded calls

A recorded source answers as the source below it does, and keeps the calls it receives in order,
each with its answer.  Whatever makes a pass over it makes the same pass as over the source below,
so the list it leaves behind is what that pass asks of the source.

The groups in the list are the groups as they were passed: assembling hands a group back together
with the row, and the next row is assembled from what was handed back.
-/

namespace RowReader

variable {σ γ α : Type}

/-- A call that a source received, with its answer. -/
inductive Call (γ : Type) where
  | readSchema (answer : Except Error Schema)
  | nextRowGroup (answer : Except Error (Option γ))
  | assembleRow (group : γ) (schema : Schema) (position : Nat) (answer : Except Error (Row × γ))
  | close (answer : Except Error Unit)

namespace Call

def assembles : Call γ → Bool
  | assembleRow _ _ _ _ => true
  | _ => false

def closes : Call γ → Bool
  | close _ => true
  | _ => false

/-- The row a call adds to a pass: one that was assembled and is as wide as the schema. -/
def row? : Call γ → Option Row
  | assembleRow _ schema _ (.ok (row, _)) => if row.size = schema.length then some row else none
  | _ => none

end Call

/-- A source's state with the calls made so far. -/
structure Recorded (σ γ : Type) where
  source : σ
  calls : List (Call γ) := []

namespace Recorded

/-- Acts on the source below and enters the call with its answer. -/
def enter (entry : Except Error α → Call γ) (act : Action σ α) : Action (Recorded σ γ) α :=
  fun r => (act r.source).mapState fun s => ⟨s, r.calls ++ [entry (act r.source).result]⟩

end Recorded

/-- The source that records its calls. -/
def Source.recorded (src : Source σ γ) : Source (Recorded σ γ) γ where
  readSchema := Recorded.enter .readSchema src.readSchema
  nextRowGroup := Recorded.enter .nextRowGroup src.nextRowGroup
  assembleRow := fun g schema i =>
    Recorded.enter (.assembleRow g schema i) (src.assembleRow g schema i)
  close := Recorded.enter .close src.close
  index := src.index
  numRows := src.numRows
  pending := fun r => src.pending r.source
  pending_nextRowGroup := fun r => src.pending_nextRowGroup r.source
  pending_assembleRow := fun g schema i r => src.pending_assembleRow g schema i r.source

/-- The calls of reading everything from a source. -/
def Source.materializeCalls (src : Source σ γ) (s : σ) : List (Call γ) :=
  (Pass.materialize src.recorded ({}, ⟨s, []⟩)).state.2.calls

/-- The error with which a call ends a pass: its own, or that of a row that is not as wide as the
schema. -/
def Source.failure? (src : Source σ γ) : Call γ → Option Error
  | .readSchema (.error e) => some e
  | .nextRowGroup (.error e) => some e
  | .assembleRow _ _ _ (.error e) => some e
  | .assembleRow g schema i (.ok (row, _)) =>
    if row.size = schema.length then none
    else some (.rowWidth i (src.index g) row.size schema.length)
  | .close (.error e) => some e
  | _ => none

/-! ## Rows of one group -/

/-- A group with the rows assembled from it so far, each with the group that was handed back. -/
structure GroupRun (γ : Type) where
  group : γ
  assembled : List (Row × γ) := []

namespace GroupRun

/-- The group that was handed back last. -/
def heldAfter : γ → List (Row × γ) → γ
  | g, [] => g
  | _, (_, next) :: rest => heldAfter next rest

/-- The calls that assemble rows from position `i` on. -/
def assembling (schema : Schema) : γ → Nat → List (Row × γ) → List (Call γ)
  | _, _, [] => []
  | g, i, (row, next) :: rest =>
    .assembleRow g schema i (.ok (row, next)) :: assembling schema next (i + 1) rest

def rows (run : GroupRun γ) : List Row := run.assembled.map Prod.fst

/-- The group that the next row is assembled from. -/
def held (run : GroupRun γ) : γ := heldAfter run.group run.assembled

/-- The calls of a run: the group is handed out, and its rows are assembled one after another. -/
def calls (schema : Schema) (run : GroupRun γ) : List (Call γ) :=
  .nextRowGroup (.ok (some run.group)) :: assembling schema run.group 0 run.assembled

end GroupRun
end RowReader
