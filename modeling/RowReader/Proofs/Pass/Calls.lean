import RowReader.Proofs.Pass.Delivery
import RowReader.Proofs.Source.Record

/-!
# The calls of a pass

What a pass asks of its source, in order: the schema, then each group followed by its rows, one
after another, until a group is refused, a row is not assembled or does not fit, or no group is
left.  Recording changes nothing about the pass.
-/

namespace RowReader

variable {σ γ : Type}

open RowReader.Action

namespace Source

variable (src : Source σ γ) (schema : Schema)

/-- A run that assembled every row its group declares, each as wide as the schema. -/
structure Complete (run : GroupRun γ) : Prop where
  whole : run.assembled.length = src.numRows run.group
  fits : ∀ row ∈ run.rows, row.size = schema.length

/-- The last calls of a pass, after the groups it delivered whole, with the rows they add and the
end they come to. -/
inductive Ends : List (Call γ) → List Row → Ending → Prop where
  | exhausted : Ends [.nextRowGroup (.ok none)] [] .exhausted
  | refused (e : Error) : Ends [.nextRowGroup (.error e)] [] (.failed e)
  | broken (run : GroupRun γ) (answer : Except Error (Row × γ)) (e : Error)
      (short : run.assembled.length < src.numRows run.group)
      (fits : ∀ row ∈ run.rows, row.size = schema.length)
      (fails : src.failure? (.assembleRow run.held schema run.assembled.length answer) = some e) :
      Ends (run.calls schema ++ [.assembleRow run.held schema run.assembled.length answer])
        run.rows (.failed e)

/-! ## Recording a pass -/

theorem nextRowGroup_recorded {s t : σ} {answer : Except Error (Option γ)} {log : List LogLine}
    (asked : src.nextRowGroup s = ⟨answer, t, log⟩) (calls : List (Call γ)) :
    src.recorded.nextRowGroup ⟨s, calls⟩ = ⟨answer, ⟨t, calls ++ [.nextRowGroup answer]⟩, log⟩ := by
  simp only [recorded, Recorded.enter, asked, Outcome.mapState]

theorem checkedRow_recorded (g : γ) (i : Nat) (s : σ) (calls : List (Call γ)) :
    src.recorded.checkedRow schema g i ⟨s, calls⟩ =
      (src.checkedRow schema g i s).mapState fun t =>
        ⟨t, calls ++ [.assembleRow g schema i (src.assembleRow g schema i s).result]⟩ := by
  simp only [checkedRow, bind_apply, recorded, Recorded.enter, Outcome.mapState]
  cases (src.assembleRow g schema i s).result with
  | error e => rfl
  | ok both =>
    simp only
    split <;> rfl

/-- A row that is delivered was assembled and fits, and one that is not ends the pass with the
failure of its call. -/
theorem checkedRow_result (g : γ) (i : Nat) (s : σ) :
    match (src.checkedRow schema g i s).result with
    | .ok (row, next) => (src.assembleRow g schema i s).result = .ok (row, next) ∧
        row.size = schema.length
    | .error e =>
        src.failure? (.assembleRow g schema i (src.assembleRow g schema i s).result) = some e := by
  simp only [checkedRow, bind_apply]
  cases (src.assembleRow g schema i s).result with
  | error e => rfl
  | ok both =>
    rcases both with ⟨row, next⟩
    by_cases fits : row.size = schema.length
    · simp [fits, pure]
    · simp [fits, fail, failure?]

/-- The calls for the last `left` rows of a group, from position `i` on, with the rows they add and
the end they come to. -/
inductive AssemblesFrom (left : Nat) (g : γ) (i : Nat) : List (Call γ) → List Row → Ending → Prop where
  | all (assembled : List (Row × γ)) (whole : assembled.length = left)
      (fits : ∀ row ∈ assembled.map Prod.fst, row.size = schema.length) :
      AssemblesFrom left g i (GroupRun.assembling schema g i assembled) (assembled.map Prod.fst) .more
  | some (assembled : List (Row × γ)) (answer : Except Error (Row × γ)) (e : Error)
      (short : assembled.length < left)
      (fits : ∀ row ∈ assembled.map Prod.fst, row.size = schema.length)
      (fails : src.failure? (.assembleRow (GroupRun.heldAfter g assembled) schema
        (i + assembled.length) answer) = some e) :
      AssemblesFrom left g i
        (GroupRun.assembling schema g i assembled ++
          [.assembleRow (GroupRun.heldAfter g assembled) schema (i + assembled.length) answer])
        (assembled.map Prod.fst) (.failed e)

theorem AssemblesFrom.cons {src : Source σ γ} {schema : Schema} {left : Nat} {g next : γ} {i : Nat}
    {row : Row} {new : List (Call γ)} {rows : List Row} {ending : Ending}
    (fit : row.size = schema.length)
    (rest : src.AssemblesFrom schema left next (i + 1) new rows ending) :
    src.AssemblesFrom schema (left + 1) g i (.assembleRow g schema i (.ok (row, next)) :: new)
      (row :: rows) ending := by
  have fitting {others : List Row} (fits : ∀ other ∈ others, other.size = schema.length) :
      ∀ other ∈ row :: others, other.size = schema.length := by
    intro other member
    rcases List.mem_cons.mp member with first | later
    · exact first ▸ fit
    · exact fits other later
  cases rest with
  | all assembled whole fits =>
    exact .all ((row, next) :: assembled) (by simp [whole]) (fitting fits)
  | some assembled answer e short fits fails =>
    have place : i + 1 + assembled.length = i + ((row, next) :: assembled).length := by
      simp only [List.length_cons]
      omega
    rw [place] at fails ⊢
    exact .some ((row, next) :: assembled) answer e (by simpa using short) (fitting fits) fails

/-- The rows of one group, up to its end or to the first that fails. -/
theorem deliverGroup_recorded (left : Nat) (g : γ) (i : Nat) (s : σ) (calls : List (Call γ)) :
    ∃ new, src.AssemblesFrom schema left g i new (src.deliverGroup schema left g i s).rows
        (src.deliverGroup schema left g i s).ending ∧
      src.recorded.deliverGroup schema left g i ⟨s, calls⟩ =
        (src.deliverGroup schema left g i s).mapState fun t => ⟨t, calls ++ new⟩ := by
  induction left generalizing g i s calls with
  | zero =>
    refine ⟨[], .all [] rfl (by simp), ?_⟩
    simp [deliverGroup, Batch.mapState]
  | succ left ih =>
    have answered := src.checkedRow_result schema g i s
    have entered := src.checkedRow_recorded schema g i s calls
    rcases checked : src.checkedRow schema g i s with ⟨e | ⟨row, next⟩, t, log⟩
    · simp only [checked, Outcome.mapState] at answered entered
      rw [deliverGroup_of_error src schema left checked,
        deliverGroup_of_error src.recorded schema left entered]
      exact ⟨_, .some [] _ e (Nat.zero_lt_succ left) (by simp) answered, rfl⟩
    · simp only [checked, Outcome.mapState] at answered entered
      rw [answered.1] at entered
      rw [deliverGroup_of_row src schema left checked,
        deliverGroup_of_row src.recorded schema left entered]
      rcases ih next (i + 1) t
          (calls ++ [.assembleRow g schema i (.ok (row, next))]) with ⟨new, assembles, kept⟩
      refine ⟨_, assembles.cons answered.2, ?_⟩
      rw [kept]
      simp [Batch.behind, Batch.mapState]

/-- The groups of a source: those delivered whole, and how the pass ends after them. -/
theorem deliverGroups_recorded (s : σ) (calls : List (Call γ)) :
    ∃ (runs : List (GroupRun γ)) (tail : List (Call γ)) (rows : List Row),
      (∀ run ∈ runs, src.Complete schema run) ∧
      src.Ends schema tail rows (src.deliverGroups schema s).ending ∧
      (src.deliverGroups schema s).rows = runs.flatMap GroupRun.rows ++ rows ∧
      src.recorded.deliverGroups schema ⟨s, calls⟩ =
        (src.deliverGroups schema s).mapState fun t =>
          ⟨t, calls ++ (runs.flatMap (GroupRun.calls schema) ++ tail)⟩ := by
  induction s using groups_induction src generalizing calls with
  | refused s e t log asked =>
    rw [deliverGroups_refused src schema asked,
      deliverGroups_refused src.recorded schema (src.nextRowGroup_recorded asked calls)]
    exact ⟨[], _, [], by simp, .refused e, rfl, rfl⟩
  | exhausted s t log asked =>
    rw [deliverGroups_exhausted src schema asked,
      deliverGroups_exhausted src.recorded schema (src.nextRowGroup_recorded asked calls)]
    exact ⟨[], _, [], by simp, .exhausted, rfl, rfl⟩
  | handed s g t log asked ih =>
    have entered := src.nextRowGroup_recorded asked calls
    rcases src.deliverGroup_recorded schema (src.numRows g) g 0 t
        (calls ++ [.nextRowGroup (.ok (some g))]) with ⟨new, assembles, mapped⟩
    rcases delivered : src.deliverGroup schema (src.numRows g) g 0 t with ⟨rows, ending, u, more⟩
    simp only [delivered] at assembles mapped
    cases assembles with
    | all assembled whole fits =>
      rw [deliverGroups_further src schema asked delivered,
        deliverGroups_further src.recorded schema entered mapped]
      rcases ih u (src.pending_delivered schema delivered) _
          with ⟨runs, tail, last, complete, ends, rows, after⟩
      refine ⟨⟨g, assembled⟩ :: runs, tail, last, ?_, ends, ?_, ?_⟩
      · exact List.forall_mem_cons.mpr ⟨⟨whole, fits⟩, complete⟩
      · simp [Batch.behind, rows, GroupRun.rows]
      · rw [after]
        simp [Batch.behind, Batch.mapState, GroupRun.calls, announce, recorded]
    | some assembled answer e short fits fails =>
      rw [deliverGroups_broken src schema asked delivered,
        deliverGroups_broken src.recorded schema entered mapped]
      simp only [Nat.zero_add] at fails
      refine ⟨[], _, _, by simp, .broken ⟨g, assembled⟩ answer e short fits fails, rfl, ?_⟩
      simp [Batch.mapState, GroupRun.calls, GroupRun.held, announce, recorded]

end Source
end RowReader
