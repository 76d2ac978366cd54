import RowReader.Proofs.Pass.Search

/-!
# What a pull asks for

A pull of a stream looks for the next row, and the stream takes note of what was found: a row moves
it on, and anything else ends it and closes the source.  Recording the calls changes nothing about
a pull.
-/

namespace RowReader

variable {σ γ : Type}

open RowReader.Action

/-- The schema is asked for once; a pass that knows it asks for nothing. -/
theorem Pass.readSchema_recorded (src : Source σ γ) (p : Pass) (s : σ) (calls : List (Call γ)) :
    ∃ new, readSchema src.recorded (p, ⟨s, calls⟩) =
        (readSchema src (p, s)).mapState (fun both => (both.1, ⟨both.2, calls ++ new⟩)) ∧
      Call.Quiet new := by
  cases known : p.schema with
  | some schema =>
    refine ⟨[], ?_, Call.quiet_nil⟩
    simp [readSchema, bind_apply, getState, known, pure, Outcome.after, Outcome.mapState]
  | none =>
    refine ⟨[.readSchema (src.readSchema s).result], ?_, Call.quiet_singleton rfl rfl⟩
    simp only [readSchema, bind_apply, getState, known, onSource, onPart, Source.recorded,
      Recorded.enter, Outcome.mapState, Outcome.after]
    cases (src.readSchema s).result <;> rfl

/-! ## A pull of the stream -/

namespace Streaming

variable (src : Source σ γ) (schema : Schema)

/-- A stream that has not ended. -/
def Live (st : Streaming σ γ) : Prop :=
  match st.progress with
  | .ended => False
  | _ => True

theorem live_iff {st : Streaming σ γ} : st.Live ↔ st.progress ≠ .ended := by
  unfold Live
  cases st.progress <;> simp

/-- The stream once the schema is known, which its first pull asks for. -/
def opened (st : Streaming σ γ) : Streaming σ γ :=
  match st.progress with
  | .unstarted =>
    let asked := (Pass.readSchema src (st.pass, st.source)).state
    ⟨st.progress, asked.1, asked.2⟩
  | _ => st

/-- What a pull gets from the source: the next row with its schema and the place behind it. -/
def pull (st : Streaming σ γ) : Outcome σ (Option (Row × Schema × Place γ)) :=
  match st.progress with
  | .unstarted =>
    match (Pass.readSchema src (st.pass, st.source)).result with
    | .error e => { result := .error e, state := (st.opened src).source }
    | .ok schema => found schema (src.firstRow schema (st.opened src).source)
  | .running schema place => found schema (src.rowAfter schema place st.source)
  | .ended => { result := .ok none, state := st.source }
where
  found (schema : Schema) (o : Outcome σ (Option (Row × Place γ))) :
      Outcome σ (Option (Row × Schema × Place γ)) :=
    o.mapResult (Option.map fun found => (found.1, schema, found.2))

/-- What the stream makes of it inside of the iteration: a row moves the stream on, and everything else
ends it with the source closed. -/
def noted (p : Pass) (pulled : Outcome σ (Option (Row × Schema × Place γ))) :
    Outcome (Streaming σ γ) (Option Row) :=
  let closed := src.close pulled.state
  match pulled.result with
  | .ok (some (row, schema, place)) =>
    { result := .ok (some row),
      state := ⟨.running schema place, { p with rowsRead := p.rowsRead + 1 }, pulled.state⟩ }
  | .ok none => { result := lastly (.ok none) closed.result, state := ⟨.ended, p, closed.state⟩ }
  | .error e => { result := lastly (.error e) closed.result, state := ⟨.ended, p, closed.state⟩ }

theorem closeSource_yields (st : Streaming σ γ) :
    Yields (onSource src.close) st (src.close st.source).result
      { st with source := (src.close st.source).state } :=
  ⟨rfl, rfl⟩

theorem shut_yields (st : Streaming σ γ) :
    Yields (shut src) st (src.close st.source).result
      ⟨.ended, st.pass, (src.close st.source).state⟩ :=
  (yields_modifyState _ st).bind (closeSource_yields src { st with progress := .ended })

/-- A stream settles by closing its source; an error of closing takes the place of what there was
to report. -/
theorem settle_yields (failure? : Option Error) (st : Streaming σ γ) :
    Yields (settle src failure?) st
      (lastly (match failure? with | some e => .error e | none => .ok ())
        (src.close st.source).result)
      ⟨.ended, st.pass, (src.close st.source).state⟩ := by
  cases failure? with
  | some e => exact (yields_fail e st).andFinally (shut_yields src st)
  | none =>
    have same : lastly (.ok ()) (src.close st.source).result = (src.close st.source).result := by
      cases (src.close st.source).result <;> rfl
    rw [same]
    exact (yields_getState st).bind ((yields_note _ _ _ st).bind (shut_yields src st))

theorem deliver_yields (find : Action σ (Option (Row × Place γ))) (st : Streaming σ γ) :
    let outcome := noted src st.pass (pull.found schema (find st.source))
    Yields (deliver src schema find) st outcome.result outcome.state := by
  intro outcome
  rcases asked : find st.source with ⟨e | (_ | ⟨row, place⟩), t, log⟩
  · have settled := settle_yields src (some e) { st with source := t }
    simp only [outcome, asked, pull.found, noted, Outcome.mapResult, Except.map]
    constructor
    · simp only [deliver, asked, Outcome.mapResult, Outcome.after_result, settled.result]
      cases (src.close t).result <;> rfl
    · simp only [deliver, asked, Outcome.mapResult, Outcome.after_state, settled.state]
  · have settled := settle_yields src none { st with source := t }
    simp only [outcome, asked, pull.found, noted, Outcome.mapResult, Except.map, Option.map]
    constructor
    · simp only [deliver, asked, Outcome.mapResult, Outcome.after_result, settled.result]
      cases (src.close t).result <;> rfl
    · simp only [deliver, asked, Outcome.mapResult, Outcome.after_state, settled.state]
  · simp only [outcome, asked, pull.found, noted, Outcome.mapResult, Except.map, Option.map]
    constructor <;> simp only [deliver, asked]

theorem next_ended {st : Streaming σ γ} (stands : st.progress = .ended) :
    Yields (next src) st (.ok none) st := by
  have nothing : Yields (advance src) st (.ok none) st := by
    apply (yields_getState st).bind
    simp only [stands]
    exact yields_pure none st
  exact nothing.mapError Error.outOfIteration

/-- The stream is stopped when its schema cannot be read. -/
theorem rescued_yields {st t : Streaming σ γ} {e : Error}
    (asked : Yields (onPass (Pass.readSchema src)) st (.error e) t) :
    let closed := src.close t.source
    Yields ((onPass (Pass.readSchema src)).rescue fun e => do
        settle src (some e)
        Action.fail e) st (lastly (.error e) closed.result) ⟨.ended, t.pass, closed.state⟩ := by
  intro closed
  have settled := settle_yields src (some e) t
  change Yields _ _ (lastly (.error e) closed.result) _ at settled
  cases answer : closed.result with
  | ok _ =>
    rw [answer] at settled
    exact asked.rescue_error settled.bind_error
  | error f =>
    rw [answer] at settled
    exact asked.rescue_error settled.bind_error

/-- Without a row, the stream ends with its source closed and hands out none. -/
theorem noted_of_end (p : Pass) (pulled : Outcome σ (Option (Row × Schema × Place γ)))
    (nothing : ∀ found, pulled.result ≠ .ok (some found)) :
    (noted src p pulled).state = ⟨.ended, p, (src.close pulled.state).state⟩ ∧
      ∀ row, (noted src p pulled).result.mapError Error.outOfIteration ≠ .ok (some row) := by
  rcases answer : pulled.result with e | _ | found
  · simp only [noted, answer]
    refine ⟨trivial, fun row => ?_⟩
    cases (src.close pulled.state).result <;> simp [lastly]
  · simp only [noted, answer]
    refine ⟨trivial, fun row => ?_⟩
    cases (src.close pulled.state).result <;> simp [lastly]
  · exact absurd answer (nothing found)

/-- A pull is what the stream makes of what it gets from the source. -/
theorem advance_yields {st : Streaming σ γ} (live : st.Live) :
    let outcome := noted src (st.opened src).pass (st.pull src)
    Yields (advance src) st outcome.result outcome.state := by
  cases stands : st.progress with
  | ended => simp [Live, stands] at live
  | running schema place =>
    apply (yields_getState st).bind
    simp only [stands, opened, pull]
    exact deliver_yields src schema (src.rowAfter schema place) st
  | unstarted =>
    have asked : Yields (onPass (Pass.readSchema src)) st
        (Pass.readSchema src (st.pass, st.source)).result (st.opened src) := by
      rcases st with ⟨progress, p, s⟩
      subst stands
      exact ⟨rfl, rfl⟩
    apply (yields_getState st).bind
    simp only [stands, pull]
    cases read : (Pass.readSchema src (st.pass, st.source)).result with
    | ok schema =>
      rw [read] at asked
      exact asked.rescue_ok.bind (deliver_yields src schema (src.firstRow schema) (st.opened src))
    | error e =>
      rw [read] at asked
      have ended := rescued_yields src asked
      simp only [noted]
      cases answer : (src.close (st.opened src).source).result with
      | ok _ =>
        simp only [answer] at ended
        exact ended.bind_error
      | error f =>
        simp only [answer] at ended
        exact ended.bind_error

/-- An error of a pull comes out of the iteration. -/
theorem next_yields {st : Streaming σ γ} (live : st.Live) :
    let outcome := noted src (st.opened src).pass (st.pull src)
    Yields (next src) st (outcome.result.mapError Error.outOfIteration) outcome.state :=
  (advance_yields src live).mapError Error.outOfIteration

/-- What came out of one iteration comes out of another one around it as it is. -/
theorem next_reworded (st : Streaming σ γ) :
    (next src st).result.mapError Error.outOfIteration = (next src st).result := by
  rw [next, mapError_apply]
  cases (advance src st).result with
  | ok row? => rfl
  | error e => exact congrArg Except.error e.outOfIteration_outOfIteration

/-! ## A pull on a recorded source -/

/-- The stream over a recorded source that was called before. -/
def recording (calls : List (Call γ)) (st : Streaming σ γ) : Streaming (Recorded σ γ) γ :=
  ⟨st.progress, st.pass, ⟨st.source, calls⟩⟩

theorem recording_live (st : Streaming σ γ) (calls : List (Call γ)) (live : st.Live) :
    (st.recording calls).Live :=
  live

theorem pull_recorded (st : Streaming σ γ) (calls : List (Call γ)) :
    ∃ new, (st.recording calls).pull src.recorded =
        (st.pull src).mapState (fun t => ⟨t, calls ++ new⟩) ∧
      Call.Pulled new (st.pull src).result := by
  rcases st with ⟨progress, p, s⟩
  have along {schema : Schema} {o : Outcome σ (Option (Row × Place γ))} {new : List (Call γ)}
      (pulled : Call.Pulled new o.result) : Call.Pulled new (pull.found schema o).result := by
    rcases o with ⟨e | _ | ⟨row, place⟩, t, log⟩ <;> exact pulled
  cases progress with
  | ended => exact ⟨[], by simp [pull, recording, Outcome.mapState], Call.quiet_nil⟩
  | running schema place =>
    rcases src.rowAfter_recorded schema place s calls with ⟨new, found, pulled⟩
    refine ⟨new, ?_, along pulled⟩
    simp only [pull, recording, found]
    rfl
  | unstarted =>
    rcases Pass.readSchema_recorded src p s calls with ⟨quiet, asked, silent⟩
    simp only [pull, recording, opened, asked, Outcome.mapState_result, Outcome.mapState_state]
    cases read : (Pass.readSchema src (p, s)).result with
    | error e => exact ⟨quiet, rfl, silent⟩
    | ok schema =>
      rcases src.firstRow_recorded schema
          (Pass.readSchema src (p, s)).state.2 (calls ++ quiet) with ⟨new, found, pulled⟩
      refine ⟨quiet ++ new, ?_, along (pulled.behind silent)⟩
      simp only [found, List.append_assoc]
      rfl

theorem opened_recorded (st : Streaming σ γ) (calls : List (Call γ)) :
    ((st.recording calls).opened src.recorded).pass = (st.opened src).pass := by
  rcases st with ⟨progress, p, s⟩
  cases progress with
  | unstarted =>
    rcases Pass.readSchema_recorded src p s calls with ⟨quiet, asked, -⟩
    simp only [opened, recording, asked, Outcome.mapState_state]
  | running schema place => rfl
  | ended => rfl

/-- A pull that hands out a row calls the source up to that row; one that does not ends with the
closing of the source. -/
def Turn (calls : List (Call γ)) : Except Error (Option Row) → Prop
  | .ok (some row) => ∃ before call, calls = before ++ [call] ∧ Call.Quiet before ∧
      call.row? = some row
  | _ => ∃ before s, calls = before ++ [.close (src.close s).result] ∧ Call.Quiet before

variable {src}

theorem Turn.of_end {calls : List (Call γ)} {r : Except Error (Option Row)}
    (turn : Turn src calls r) (ended : ∀ row, r ≠ .ok (some row)) :
    ∃ before s, calls = before ++ [.close (src.close s).result] ∧ Call.Quiet before := by
  rcases r with e | _ | row
  · exact turn
  · exact turn
  · exact absurd rfl (ended row)

theorem turn_end {before : List (Call γ)} {s : σ} {r : Except Error (Option Row)}
    (quiet : Call.Quiet before) (ended : ∀ row, r ≠ .ok (some row)) :
    Turn src (before ++ [.close (src.close s).result]) r := by
  rcases r with e | _ | row
  · exact ⟨before, s, rfl, quiet⟩
  · exact ⟨before, s, rfl, quiet⟩
  · exact absurd rfl (ended row)

variable (src)

/-- Recording changes nothing about a pull. -/
theorem next_recorded {st t : Streaming σ γ} {r : Except Error (Option Row)} (live : st.Live)
    (pulled : Yields (next src) st r t) (calls : List (Call γ)) :
    ∃ new, Yields (next src.recorded) (st.recording calls) r (t.recording (calls ++ new)) ∧
      Turn src new r := by
  rcases pull_recorded src st calls with ⟨new, found, shape⟩
  rcases pulled.unique (next_yields src live) with ⟨rfl, rfl⟩
  have followed := next_yields src.recorded (recording_live st calls live)
  simp only [opened_recorded, found] at followed
  have ended := noted_of_end src (st.opened src).pass (st.pull src)
  rcases answer : (st.pull src).result with e | _ | ⟨row, schema, place⟩
  · refine ⟨new ++ [.close (src.close (st.pull src).state).result], ?_, ?_⟩
    · simp only [noted, answer, Outcome.mapState] at followed ⊢
      rw [← List.append_assoc]
      exact followed
    · rw [answer] at shape ended
      exact turn_end shape (ended (by simp)).2
  · refine ⟨new ++ [.close (src.close (st.pull src).state).result], ?_, ?_⟩
    · simp only [noted, answer, Outcome.mapState] at followed ⊢
      rw [← List.append_assoc]
      exact followed
    · rw [answer] at shape ended
      exact turn_end shape (ended (by simp)).2
  · simp only [noted, answer, Outcome.mapState] at followed shape ⊢
    exact ⟨new, followed, shape⟩

/-- A pull that hands out a row leaves the stream live. -/
theorem live_of_row {st t : Streaming σ γ} {row : Row} (live : st.Live)
    (pulled : Yields (next src) st (.ok (some row)) t) : t.Live := by
  rcases pulled.unique (next_yields src live) with ⟨result, state⟩
  by_cases found : ∃ x, (st.pull src).result = .ok (some x)
  · rcases found with ⟨x, answer⟩
    simp only [noted, answer] at state
    rw [state]
    trivial
  · have ended := noted_of_end src (st.opened src).pass (st.pull src) fun x answer =>
      found ⟨x, answer⟩
    exact absurd result.symm (ended.2 row)

/-- A pull that hands out no row leaves the stream ended and its source closed. -/
theorem shut_of_end {st t : Streaming σ γ} {r : Except Error (Option Row)} (live : st.Live)
    (pulled : Yields (next src) st r t) (ended : ∀ row, r ≠ .ok (some row)) :
    t.progress = .ended ∧ ∃ s, t.source = (src.close s).state := by
  rcases pulled.unique (next_yields src live) with ⟨result, state⟩
  by_cases found : ∃ x, (st.pull src).result = .ok (some x)
  · rcases found with ⟨x, answer⟩
    simp only [noted, answer] at result
    exact absurd result (ended x.1)
  · rw [state, (noted_of_end src _ _ fun x answer => found ⟨x, answer⟩).1]
    exact ⟨rfl, _, rfl⟩

end Streaming
end RowReader
