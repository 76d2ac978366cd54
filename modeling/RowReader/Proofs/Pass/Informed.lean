import RowReader.Proofs.Pass.Pull

/-!
# Calls under a schema

Until a source has told its schema it is only asked for it again, or closed.  Once it has, it is not
asked for it any more, and every row is assembled under the schema it told.  Beside this, the calls
of a pass are counted: they add the rows by which the pass counts on, in the order it delivers them.

Both are said of a few calls at a time and put together, so that they hold of a pass at every moment.
-/

namespace RowReader

variable {σ γ : Type}

open RowReader.Action

namespace Call

/-- A call that does not need the schema: one that asks for it in vain, or a closing. -/
def Trying : Call γ → Prop
  | readSchema (.error _) => True
  | close _ => True
  | _ => False

/-- A call that follows once the schema is told: it does not ask for it, and a row is assembled
under it. -/
def Under (schema : Schema) : Call γ → Prop
  | readSchema _ => False
  | assembleRow _ used _ _ => used = schema
  | _ => True

/-- Calls that lead from what is known of the schema before them to what is known after them. -/
inductive Learns : Option Schema → List (Call γ) → Option Schema → Prop where
  | vain {tries : List (Call γ)} (trying : ∀ call ∈ tries, call.Trying) : Learns none tries none
  | told {tries rest : List (Call γ)} {schema : Schema} (trying : ∀ call ∈ tries, call.Trying)
      (under : ∀ call ∈ rest, call.Under schema) :
      Learns none (tries ++ readSchema (.ok schema) :: rest) (some schema)
  | known {rest : List (Call γ)} {schema : Schema} (under : ∀ call ∈ rest, call.Under schema) :
      Learns (some schema) rest (some schema)

theorem learns_nil (known : Option Schema) : Learns known ([] : List (Call γ)) known := by
  cases known with
  | none => exact .vain (by simp)
  | some schema => exact .known (by simp)

theorem learns_close (known : Option Schema) (answer : Except Error Unit) :
    Learns known ([.close answer] : List (Call γ)) known := by
  cases known with
  | none => exact .vain (by simp [Trying])
  | some schema => exact .known (by simp [Under])

/-- The one call that asks for an unknown schema. -/
theorem learns_readSchema (answer : Except Error Schema) :
    Learns none ([.readSchema answer] : List (Call γ)) answer.toOption := by
  cases answer with
  | error e => exact .vain (by simp [Trying])
  | ok schema =>
    have nothing : ∀ call ∈ ([] : List (Call γ)), call.Trying := by simp
    exact .told nothing (by simp)

theorem Learns.trans {before between after : Option Schema} {first second : List (Call γ)}
    (one : Learns before first between) (other : Learns between second after) :
    Learns before (first ++ second) after := by
  cases one with
  | vain trying =>
    cases other with
    | vain trying' => exact .vain (List.forall_mem_append.mpr ⟨trying, trying'⟩)
    | told trying' under =>
      rw [← List.append_assoc]
      exact .told (List.forall_mem_append.mpr ⟨trying, trying'⟩) under
  | told trying under =>
    cases other with
    | known under' =>
      rw [List.append_assoc, List.cons_append]
      exact .told trying (List.forall_mem_append.mpr ⟨under, under'⟩)
  | known under =>
    cases other with
    | known under' => exact .known (List.forall_mem_append.mpr ⟨under, under'⟩)

/-- What was known stays known. -/
theorem Learns.kept {before after : Option Schema} {calls : List (Call γ)} {schema : Schema}
    (learns : Learns before calls after) (known : before = some schema) : after = some schema := by
  cases learns with
  | vain trying => cases known
  | told trying under => cases known
  | known under => exact known

/-- Calls under a schema that add rows in order. -/
structure Delivers (schema : Schema) (rows : List Row) (calls : List (Call γ)) : Prop where
  adds : calls.filterMap row? = rows
  under : ∀ call ∈ calls, call.Under schema

theorem Delivers.append {schema : Schema} {rows more : List Row} {calls later : List (Call γ)}
    (one : Delivers schema rows calls) (other : Delivers schema more later) :
    Delivers schema (rows ++ more) (calls ++ later) where
  adds := by rw [List.filterMap_append, one.adds, other.adds]
  under := List.forall_mem_append.mpr ⟨one.under, other.under⟩

end Call

/-! ## The groups of a source -/

theorem GroupRun.assembling_delivers {schema : Schema} {g : γ} {i : Nat}
    {assembled : List (Row × γ)}
    (fits : ∀ row ∈ assembled.map Prod.fst, row.size = schema.length) :
    Call.Delivers schema (assembled.map Prod.fst) (assembling schema g i assembled) := by
  induction assembled generalizing g i with
  | nil => exact ⟨rfl, by simp [assembling]⟩
  | cons first rest ih =>
    rcases first with ⟨row, next⟩
    simp only [List.map_cons, List.forall_mem_cons] at fits
    have one : Call.Delivers schema [row] [.assembleRow g schema i (.ok (row, next))] :=
      ⟨by simp [Call.row?, fits.1], by simp [Call.Under]⟩
    exact one.append (ih fits.2)

theorem GroupRun.calls_delivers {schema : Schema} (run : GroupRun γ)
    (fits : ∀ row ∈ run.rows, row.size = schema.length) :
    Call.Delivers schema run.rows (run.calls schema) := by
  have handed : Call.Delivers schema [] [.nextRowGroup (.ok (some run.group))] :=
    ⟨rfl, by simp [Call.Under]⟩
  exact handed.append (assembling_delivers fits)

namespace Source

variable (src : Source σ γ) (schema : Schema)

theorem complete_delivers {runs : List (GroupRun γ)}
    (complete : ∀ run ∈ runs, src.Complete schema run) :
    Call.Delivers schema (runs.flatMap GroupRun.rows) (runs.flatMap (GroupRun.calls schema)) := by
  induction runs with
  | nil => exact ⟨rfl, by simp⟩
  | cons run rest ih =>
    simp only [List.forall_mem_cons] at complete
    exact (run.calls_delivers complete.1.fits).append (ih complete.2)

variable {src schema}

theorem Ends.delivers {tail : List (Call γ)} {rows : List Row} {ending : Ending}
    (ends : src.Ends schema tail rows ending) : Call.Delivers schema rows tail := by
  cases ends with
  | exhausted => exact ⟨rfl, by simp [Call.Under]⟩
  | refused e => exact ⟨rfl, by simp [Call.Under]⟩
  | broken run answer e short fits fails =>
    have last : Call.Delivers schema []
        [.assembleRow run.held schema run.assembled.length answer] :=
      ⟨by simp [Call.row?_of_failure? fails], by simp [Call.Under]⟩
    simpa using (run.calls_delivers fits).append last

variable (src schema)

/-- The calls for all groups add the rows that are delivered. -/
theorem deliverGroups_delivers (s : σ) (calls : List (Call γ)) :
    ∃ new, src.recorded.deliverGroups schema ⟨s, calls⟩ =
        (src.deliverGroups schema s).mapState (fun t => ⟨t, calls ++ new⟩) ∧
      Call.Delivers schema (src.deliverGroups schema s).rows new := by
  rcases src.deliverGroups_recorded schema s calls
    with ⟨runs, tail, last, complete, ends, rows, recorded⟩
  refine ⟨_, recorded, ?_⟩
  rw [rows]
  exact (src.complete_delivers schema complete).append ends.delivers

end Source

/-! ## One pull -/

namespace Recorded

/-- The calls that come to a recorded source are all of one kind. -/
def Adds (kind : Call γ → Prop) (r r' : Recorded σ γ) : Prop :=
  ∃ new, r'.calls = r.calls ++ new ∧ ∀ call ∈ new, kind call

theorem Adds.trans {kind : Call γ → Prop} {first second third : Recorded σ γ}
    (one : Adds kind first second) (other : Adds kind second third) : Adds kind first third := by
  rcases one with ⟨new, calls, all⟩
  rcases other with ⟨more, calls', all'⟩
  exact ⟨new ++ more, by rw [calls', calls, List.append_assoc],
    List.forall_mem_append.mpr ⟨all, all'⟩⟩

end Recorded

namespace Source

variable (src : Source σ γ) (schema : Schema)

theorem rowAt_under (g : γ) (i left : Nat) (r : Recorded σ γ) :
    Recorded.Adds (Call.Under schema) r (src.recorded.rowAt schema g i left r).state := by
  have entered := src.checkedRow_recorded schema g i r.source r.calls
  refine ⟨[.assembleRow g schema i (src.assembleRow g schema i r.source).result], ?_,
    by simp [Call.Under]⟩
  simp only [rowAt, entered, Outcome.mapState]
  cases (src.checkedRow schema g i r.source).result <;> rfl

/-- The search for a row asks for groups and assembles under the schema it is given. -/
theorem firstRow_under (r : Recorded σ γ) :
    Recorded.Adds (Call.Under schema) r (src.recorded.firstRow schema r).state := by
  have asks (r : Recorded σ γ) :
      Recorded.Adds (Call.Under schema) r (src.recorded.nextRowGroup r).state :=
    ⟨[.nextRowGroup (src.nextRowGroup r.source).result], rfl, by simp [Call.Under]⟩
  fun_induction firstRow src.recorded schema r with
  | case1 r e t log asked =>
    have first := asks r
    rw [asked] at first
    exact first
  | case2 r t log asked =>
    have first := asks r
    rw [asked] at first
    exact first
  | case3 r g t log asked empty ih =>
    have first := asks r
    rw [asked] at first
    exact first.trans ih
  | case4 r g t log asked left some_left =>
    have first := asks r
    rw [asked] at first
    exact first.trans (src.rowAt_under schema g 0 left t)

theorem rowAfter_under (place : Place γ) (r : Recorded σ γ) :
    Recorded.Adds (Call.Under schema) r (src.recorded.rowAfter schema place r).state := by
  rcases place with ⟨g, i, left⟩
  cases left with
  | zero => exact src.firstRow_under schema r
  | succ left => exact src.rowAt_under schema g i left r

end Source

/-- What a pass knows of the schema it learned from the calls it made. -/
def Pass.Learned (p : Pass) (r : Recorded σ γ) (q : Pass) (r' : Recorded σ γ) : Prop :=
  ∃ new, r'.calls = r.calls ++ new ∧ Call.Learns p.schema new q.schema

theorem Pass.readSchema_learned (src : Source σ γ) (p : Pass) (r : Recorded σ γ) :
    let asked := readSchema src.recorded (p, r)
    p.Learned r asked.state.1 asked.state.2 ∧
      ∀ schema, asked.result = .ok schema → asked.state.1.schema = some schema := by
  intro asked
  cases known : p.schema with
  | some schema =>
    have told := readSchema_known src.recorded r known
    simp only [asked, told.result, told.state]
    refine ⟨⟨[], by simp, Call.learns_nil p.schema⟩, ?_⟩
    rintro _ ⟨⟩
    exact known
  | none =>
    have told := readSchema_yields src.recorded p r known
    have entered : (src.recorded.readSchema r).state.calls =
        r.calls ++ [.readSchema (src.readSchema r.source).result] := rfl
    have same : (src.recorded.readSchema r).result = (src.readSchema r.source).result := rfl
    simp only [asked, told.result, told.state, same, Learned, known]
    cases answer : (src.readSchema r.source).result with
    | error e =>
      refine ⟨⟨_, entered, ?_⟩, by simp⟩
      rw [answer, known]
      exact Call.learns_readSchema (.error e)
    | ok schema =>
      refine ⟨⟨_, entered, ?_⟩, by simp⟩
      rw [answer]
      exact Call.learns_readSchema (.ok schema)

/-- Asking for the schema leaves everything else of a pass as it is. -/
theorem Pass.readSchema_keeps (src : Source σ γ) :
    Keeps (fun both => (both.1.started, both.1.rowsRead)) (readSchema src) := by
  refine keeps_bind keeps_getState fun both => ?_
  split
  · exact keeps_pure _
  · refine keeps_bind (keeps_onPart _ fun _ _ => rfl) fun schema => ?_
    exact keeps_bind (keeps_modifyState fun _ => rfl) fun _ => keeps_pure _

namespace Streaming

variable (src : Source σ γ)

/-- A stream that stands in a group does so under the schema its pass knows. -/
def Knows (st : Streaming σ γ) : Prop :=
  ∀ schema place, st.progress = .running schema place → st.pass.schema = some schema

theorem knows_of_ended {st : Streaming σ γ} (ended : st.progress = .ended) : st.Knows := by
  intro schema place stands
  rw [ended] at stands
  cases stands

/-- What a pull found, it found under the schema it was given. -/
theorem schema_of_found {schema used : Schema} {o : Outcome σ (Option (Row × Place γ))} {row : Row}
    {place : Place γ} (found : (pull.found schema o).result = .ok (some (row, used, place))) :
    used = schema := by
  rcases o with ⟨e | _ | ⟨first, behind⟩, t, log⟩
  · cases found
  · cases found
  · cases found
    rfl

theorem pull_learned {st : Streaming (Recorded σ γ) γ} (knows : st.Knows) :
    st.pass.Learned st.source (st.opened src.recorded).pass (st.pull src.recorded).state ∧
      ∀ row schema place, (st.pull src.recorded).result = .ok (some (row, schema, place)) →
        (st.opened src.recorded).pass.schema = some schema := by
  cases stands : st.progress with
  | ended =>
    simp only [pull, opened, stands]
    exact ⟨⟨[], by simp, Call.learns_nil st.pass.schema⟩, by simp⟩
  | running schema place =>
    have known := knows schema place stands
    rcases src.rowAfter_under schema place st.source with ⟨new, calls, under⟩
    simp only [pull, opened, stands]
    refine ⟨⟨new, calls, ?_⟩, ?_⟩
    · rw [known]
      exact .known under
    · intro row used behind found
      rw [schema_of_found found]
      exact known
  | unstarted =>
    rcases Pass.readSchema_learned src st.pass st.source with ⟨⟨new, calls, learns⟩, told⟩
    simp only [pull, opened, stands]
    cases asked : (Pass.readSchema src.recorded (st.pass, st.source)).result with
    | error e => exact ⟨⟨new, calls, learns⟩, by simp⟩
    | ok schema =>
      have known := told schema asked
      rcases src.firstRow_under schema
          (Pass.readSchema src.recorded (st.pass, st.source)).state.2 with ⟨more, calls', under⟩
      refine ⟨⟨new ++ more, ?_, ?_⟩, ?_⟩
      · rw [← List.append_assoc, ← calls]
        exact calls'
      · rw [known] at learns ⊢
        exact learns.trans (.known under)
      · intro row used behind found
        rw [schema_of_found found]
        exact known

/-- A pull learns the schema at most once, and leaves the stream under the schema it learned. -/
theorem next_learned {st : Streaming (Recorded σ γ) γ} (live : st.Live) (knows : st.Knows) :
    let after := (next src.recorded st).state
    st.pass.Learned st.source after.pass after.source ∧ after.Knows := by
  intro after
  have pulled := next_yields src.recorded live
  rcases pull_learned src knows with ⟨⟨new, calls, learns⟩, told⟩
  have left : after = _ := pulled.state
  by_cases found : ∃ x, (st.pull src.recorded).result = .ok (some x)
  · rcases found with ⟨⟨row, schema, place⟩, answer⟩
    simp only [noted, answer] at left
    rw [left]
    refine ⟨⟨new, calls, learns⟩, ?_⟩
    rintro _ _ ⟨⟩
    exact told row schema place answer
  · rw [left, (noted_of_end src.recorded _ _ fun x answer => found ⟨x, answer⟩).1]
    refine ⟨⟨new ++ [.close (src.close (st.pull src.recorded).state.source).result], ?_,
      learns.trans (Call.learns_close _ _)⟩, knows_of_ended rfl⟩
    rw [← List.append_assoc, ← calls]
    rfl

/-- The row that a pull handed out, if it did. -/
def handed : Except Error (Option Row) → List Row
  | .ok (some row) => [row]
  | _ => []

theorem handed_of_end {r : Except Error (Option Row)} (ended : ∀ row, r ≠ .ok (some row)) :
    handed r = [] := by
  rcases r with e | _ | row
  · rfl
  · rfl
  · exact absurd rfl (ended row)

/-- A pass counts the rows that are handed out, and stays begun. -/
theorem next_counts {st : Streaming σ γ} (live : st.Live) :
    let pulled := next src st
    pulled.state.pass.rowsRead = st.pass.rowsRead + (handed pulled.result).length ∧
      pulled.state.pass.started = st.pass.started := by
  intro pulled
  have ends := next_yields src live
  have opens : (st.opened src).pass.started = st.pass.started ∧
      (st.opened src).pass.rowsRead = st.pass.rowsRead := by
    cases stands : st.progress with
    | ended => simp only [opened, stands, and_self]
    | running schema place => simp only [opened, stands, and_self]
    | unstarted =>
      have kept := Pass.readSchema_keeps src (st.pass, st.source)
      simpa only [opened, stands, Prod.mk.injEq] using kept
  by_cases found : ∃ x, (st.pull src).result = .ok (some x)
  · rcases found with ⟨⟨row, schema, place⟩, answer⟩
    simp only [noted, answer, ok_mapError] at ends
    simp only [pulled, ends.result, ends.state, handed, List.length_singleton, opens, and_self]
  · have stopped := noted_of_end src (st.opened src).pass (st.pull src) fun x answer =>
      found ⟨x, answer⟩
    have nothing : handed pulled.result = [] := by
      apply handed_of_end
      intro row
      rw [show pulled.result = _ from ends.result]
      exact stopped.2 row
    rw [nothing, show pulled.state = _ from ends.state, stopped.1]
    simp only [opens, List.length_nil, Nat.add_zero, and_self]

theorem Turn.adds {calls : List (Call γ)} {r : Except Error (Option Row)}
    (turn : Turn src calls r) : calls.filterMap Call.row? = handed r := by
  by_cases found : ∃ row, r = .ok (some row)
  · rcases found with ⟨row, rfl⟩
    rcases turn with ⟨before, call, rfl, quiet, adds⟩
    simp [quiet.filterMap_row?, adds, handed]
  · have ended : ∀ row, r ≠ .ok (some row) := fun row answer => found ⟨row, answer⟩
    rcases turn.of_end ended with ⟨before, s, rfl, quiet⟩
    simp [quiet.filterMap_row?, Call.row?, handed_of_end ended]

end Streaming
end RowReader
