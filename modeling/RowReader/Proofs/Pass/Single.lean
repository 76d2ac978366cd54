import RowReader.Pass.Session
import RowReader.Proofs.Pass.Informed
import RowReader.Proofs.Pass.Lazy

/-!
# A pass is made once

The schema of a pass may be asked for at any time, and the pass itself is made by reading everything
or by a stream, whichever is asked for first.  Here a session is followed through any sequence of
these requests, with pulls and closings of the stream among them, over a source of which nothing is
assumed: any of its calls may fail, closing it included.

What one request comes to is said once for each kind: refused, accepted, or neither.  From this an
invariant of the whole conversation follows by induction.
-/

namespace RowReader

variable {σ γ : Type}

open RowReader.Action

namespace Session

/-! ## Conversations -/

inductive Request where
  | readSchema
  | materialize
  | stream
  | next
  | close
  deriving DecidableEq

inductive Answer where
  | schema (schema : Schema)
  | dataset (dataset : Dataset)
  | row (row : Option Row)
  | done

/-- The requests that make the pass. -/
def Request.begins : Request → Bool
  | materialize | stream => true
  | _ => false

def Request.act (src : Source σ γ) : Request → Action (Session σ γ) Answer
  | readSchema => .schema <$> onPass (Pass.readSchema src)
  | materialize => .dataset <$> onPass (Pass.materialize src)
  | stream => (fun _ => .done) <$> beginStream src
  | next => .row <$> Session.next src
  | close => (fun _ => .done) <$> Session.close src

/-- A request with what it came to. -/
abbrev Turn := Request × Except Error Answer

/-- The schema that an answer tells. -/
def told : Except Error Answer → Option Schema
  | .ok (.schema schema) => some schema
  | .ok (.dataset dataset) => some dataset.schema
  | _ => none

/-- The rows that an answer hands out. -/
def delivered : Except Error Answer → List Row
  | .ok (.dataset dataset) => dataset.rows
  | .ok (.row (some row)) => [row]
  | _ => []

/-- The first request to make the pass, which is the one that is accepted. -/
def accepted (turns : List Turn) : Option Turn := turns.find? fun turn => turn.1.begins

/-- What comes out of the rows that a pass has added: they are handed out one by one or all at once,
unless reading everything has failed. -/
def released : Option Turn → List Row → List Row
  | some (_, .error _), _ => []
  | _, rows => rows

/-- All rows that were handed out, in order. -/
def handed (turns : List Turn) : List Row := turns.flatMap fun turn => delivered turn.2

/-- The turns of a sequence of requests, and the session they leave. -/
def converse (src : Source σ γ) : List Request → Session σ γ → List Turn × Session σ γ
  | [], s => ([], s)
  | request :: rest, s =>
    let outcome := request.act src s
    let later := converse src rest outcome.state
    ((request, outcome.result) :: later.1, later.2)

/-- The session over a recorded source that was called before. -/
def recording (calls : List (Call γ)) (s : Session σ γ) : Session (Recorded σ γ) γ where
  source := ⟨s.source, calls⟩
  pass := s.pass
  stream := s.stream

/-- What holds of a session between any two requests: a stream makes the pass of the session, and it
stands in a group only under the schema that the pass knows. -/
structure Standing (s : Session σ γ) : Prop where
  idle : s.pass.started = false → s.stream = none
  shared : ∀ c ∈ s.stream, c.own = none
  knows : ∀ c ∈ s.stream, (s.streaming c).Knows

/-- What some calls do for a pass: they tell the schema at most once, and they add rows, which the
pass counts. -/
structure Advances (p : Pass) (rows : List Row) (calls : List (Call γ)) (q : Pass) : Prop where
  learns : Call.Learns p.schema calls q.schema
  adds : calls.filterMap Call.row? = rows
  counts : q.rowsRead = p.rowsRead + rows.length

theorem advances_nil (p : Pass) : Advances p [] ([] : List (Call γ)) p :=
  ⟨Call.learns_nil p.schema, rfl, rfl⟩

theorem Advances.trans {p q u : Pass} {rows more : List Row} {calls later : List (Call γ)}
    (one : Advances p rows calls q) (other : Advances q more later u) :
    Advances p (rows ++ more) (calls ++ later) u where
  learns := one.learns.trans other.learns
  adds := by rw [List.filterMap_append, one.adds, other.adds]
  counts := by rw [other.counts, one.counts, List.length_append, Nat.add_assoc]

/-- What a request comes to, over the source and over the recorded source alike. -/
structure Comes (src : Source σ γ) (request : Request) (s : Session σ γ) (calls : List (Call γ))
    (r : Except Error Answer) (t : Session σ γ) (rows : List Row) (new : List (Call γ)) : Prop where
  plain : Yields (request.act src) s r t
  recorded : Yields (request.act src.recorded) (s.recording calls) r (t.recording (calls ++ new))
  advances : Advances s.pass rows new t.pass
  standing : t.Standing
  tells : ∀ schema ∈ told r, t.pass.schema = some schema

variable {src : Source σ γ} {s : Session σ γ}

/-! ## Parts of a request -/

/-- Asking for the schema adds no row, and what was told is known afterwards. -/
theorem readSchema_advances (src : Source σ γ) (p : Pass) (s : σ) (calls : List (Call γ)) :
    ∃ r q t new, Yields (Pass.readSchema src) (p, s) r (q, t) ∧
      Yields (Pass.readSchema src.recorded) (p, ⟨s, calls⟩) r (q, ⟨t, calls ++ new⟩) ∧
      Advances p [] new q ∧ q.started = p.started ∧
      ∀ schema, r = .ok schema → q.schema = some schema := by
  rcases Pass.readSchema_recorded src p s calls with ⟨new, same, quiet⟩
  rcases Pass.readSchema_learned src p ⟨s, calls⟩ with ⟨⟨others, entered, learns⟩, knows⟩
  have kept := Pass.readSchema_keeps src (p, s)
  rcases asked : Pass.readSchema src (p, s) with ⟨r, ⟨q, t⟩, log⟩
  simp only [asked, Outcome.mapState] at same kept
  simp only [same] at entered learns knows
  rcases Prod.mk.inj kept with ⟨started, counted⟩
  have known : Call.Learns p.schema new q.schema := List.append_cancel_left entered ▸ learns
  refine ⟨r, q, t, new, ⟨by rw [asked], by rw [asked]⟩, ⟨by rw [same], by rw [same]⟩,
    ⟨known, quiet.filterMap_row?, counted⟩, started, knows⟩

/-- A pull adds the row it hands out. -/
theorem next_advances (src : Source σ γ) {st : Streaming σ γ} (knows : st.Knows)
    (calls : List (Call γ)) :
    ∃ r st' new, Yields (Streaming.next src) st r st' ∧
      Yields (Streaming.next src.recorded) (st.recording calls) r (st'.recording (calls ++ new)) ∧
      Advances st.pass (Streaming.handed r) new st'.pass ∧ st'.Knows ∧
      st'.pass.started = st.pass.started := by
  by_cases ended : st.progress = .ended
  · have twin : Yields (Streaming.next src.recorded) (st.recording calls) (.ok none)
        (st.recording calls) := Streaming.next_ended src.recorded ended
    refine ⟨.ok none, st, [], Streaming.next_ended src ended, ?_, advances_nil st.pass, knows, rfl⟩
    rwa [List.append_nil]
  · have live : st.Live := Streaming.live_iff.mpr ended
    have pulled := yields_self (Streaming.next src) st
    rcases Streaming.next_recorded src live pulled calls with ⟨new, twin, turn⟩
    have learned := Streaming.next_learned src (Streaming.recording_live st calls live) knows
    rcases Streaming.next_counts src live with ⟨counted, started⟩
    simp only [twin.state] at learned
    rcases learned with ⟨⟨others, entered, learns⟩, onward⟩
    have known : Call.Learns st.pass.schema new (Streaming.next src st).state.pass.schema :=
      List.append_cancel_left entered ▸ learns
    exact ⟨_, _, new, pulled, twin, ⟨known, turn.adds, counted⟩, onward, started⟩

theorem advances_close (p : Pass) (answer : Except Error Unit) :
    Advances p [] ([.close answer] : List (Call γ)) p :=
  ⟨Call.learns_close p.schema answer, rfl, rfl⟩

/-- A stream that does not stand in a group closes its source once. -/
theorem close_apart (src : Source σ γ) {st : Streaming σ γ}
    (apart : ∀ schema place, st.progress ≠ .running schema place) :
    Yields (Streaming.close src) st (src.close st.source).result
      ⟨.ended, st.pass, (src.close st.source).state⟩ := by
  have shuts := Streaming.shut_yields src st
  apply (yields_getState st).bind
  cases stands : st.progress with
  | running schema place => exact absurd stands (apart schema place)
  | unstarted => exact shuts
  | ended => exact shuts

/-- A stream that stands in a group closes its source twice, unless the first time fails. -/
theorem close_within (src : Source σ γ) {st : Streaming σ γ} {schema : Schema} {place : Place γ}
    (stands : st.progress = .running schema place) (answered : (src.close st.source).result = .ok ()) :
    let closed := src.close (src.close st.source).state
    Yields (Streaming.close src) st closed.result ⟨.ended, st.pass, closed.state⟩ := by
  have shuts := Streaming.shut_yields src st
  rw [answered] at shuts
  apply (yields_getState st).bind
  simp only [stands]
  exact (shuts.mapError Error.outOfIteration).bind
    (Streaming.closeSource_yields src ⟨.ended, st.pass, (src.close st.source).state⟩)

theorem close_within_error (src : Source σ γ) {st : Streaming σ γ} {schema : Schema}
    {place : Place γ} {e : Error} (stands : st.progress = .running schema place)
    (failed : (src.close st.source).result = .error e) :
    Yields (Streaming.close src) st (.error e.outOfIteration)
      ⟨.ended, st.pass, (src.close st.source).state⟩ := by
  have shuts := Streaming.shut_yields src st
  rw [failed] at shuts
  apply (yields_getState st).bind
  simp only [stands]
  exact (shuts.mapError Error.outOfIteration).bind_error

/-- Closing a stream ends it, and nothing but closings reaches the source. -/
theorem close_advances (src : Source σ γ) (st : Streaming σ γ) (calls : List (Call γ)) :
    ∃ r st' new, Yields (Streaming.close src) st r st' ∧
      Yields (Streaming.close src.recorded) (st.recording calls) r (st'.recording (calls ++ new)) ∧
      Advances st.pass [] new st'.pass ∧ st'.Knows ∧ st'.pass.started = st.pass.started := by
  by_cases within : ∃ schema place, st.progress = .running schema place
  · rcases within with ⟨schema, place, stands⟩
    cases answer : (src.close st.source).result with
    | error e =>
      have twin : Yields (Streaming.close src.recorded) (st.recording calls) _ _ :=
        close_within_error src.recorded stands answer
      refine ⟨_, _, [.close (src.close st.source).result], close_within_error src stands answer,
        twin, advances_close st.pass _, Streaming.knows_of_ended rfl, rfl⟩
    | ok done =>
      let again := src.close (src.close st.source).state
      have twin : Yields (Streaming.close src.recorded) (st.recording calls) again.result
          ⟨.ended, st.pass, ⟨again.state, calls ++ [.close (src.close st.source).result] ++
            [.close again.result]⟩⟩ :=
        close_within src.recorded stands answer
      rw [List.append_assoc] at twin
      refine ⟨_, _, _, close_within src stands answer, twin, ?_, Streaming.knows_of_ended rfl, rfl⟩
      exact (advances_close st.pass _).trans (advances_close st.pass _)
  · have apart : ∀ schema place, st.progress ≠ .running schema place :=
      fun schema place stands => within ⟨schema, place, stands⟩
    have twin : Yields (Streaming.close src.recorded) (st.recording calls) _ _ :=
      close_apart src.recorded apart
    exact ⟨_, _, [.close (src.close st.source).result], close_apart src apart, twin,
      advances_close st.pass _, Streaming.knows_of_ended rfl, rfl⟩

theorem schema_of_dataset {batch : Batch σ} {schema : Schema} {q : Except Error Unit}
    {dataset : Dataset} (read : lastly (batch.dataset schema) q = .ok dataset) :
    dataset.schema = schema := by
  rcases batch with ⟨rows, _ | _ | e, t, log⟩ <;> cases q <;> cases read <;> rfl

/-- Making the pass at once begins it, adds the rows of its dataset and closes the source last. -/
theorem materialize_advances (src : Source σ γ) {p : Pass} (unbegun : p.started = false) (s : σ)
    (calls : List (Call γ)) :
    ∃ r q t rows work answer, Yields (Pass.materialize src) (p, s) r (q, t) ∧
      Yields (Pass.materialize src.recorded) (p, ⟨s, calls⟩) r
        (q, ⟨t, calls ++ (work ++ [.close answer])⟩) ∧
      Advances p rows (work ++ [.close answer]) q ∧ q.started = true ∧
      ∀ dataset, r = .ok dataset → q.schema = some dataset.schema ∧ dataset.rows = rows := by
  rcases readSchema_advances src { p with started := true } s calls
    with ⟨asked, q, t, new, plain, twin, advances, started, knows⟩
  cases asked with
  | error e =>
    rcases lastly_error (α := Dataset) e (src.close t).result with ⟨f, failed⟩
    have ends := Pass.materialize_of_error src unbegun plain
    have twinned : Yields (Pass.materialize src.recorded) (p, ⟨s, calls⟩)
        (lastly (.error e) (src.close t).result)
        (q, ⟨(src.close t).state, calls ++ new ++ [.close (src.close t).result]⟩) :=
      Pass.materialize_of_error src.recorded unbegun twin
    rw [failed] at ends twinned
    rw [List.append_assoc] at twinned
    have whole := advances.trans (advances_close q (src.close t).result)
    exact ⟨.error f, _, _, [], new, _, ends, twinned, ⟨whole.learns, whole.adds, whole.counts⟩,
      started, nofun⟩
  | ok schema =>
    let batch := src.deliverGroups schema t
    let closed := src.close batch.state
    have ends := Pass.materialize_of_schema src unbegun plain
    have twinned := Pass.materialize_of_schema src.recorded unbegun twin
    rcases src.deliverGroups_delivers schema t (calls ++ new) with ⟨more, same, delivers⟩
    rw [same] at twinned
    have recorded : Yields (Pass.materialize src.recorded) (p, ⟨s, calls⟩)
        (lastly (batch.dataset schema) closed.result)
        ({ q with rowsRead := q.rowsRead + batch.rows.length },
          ⟨closed.state, calls ++ new ++ more ++ [.close closed.result]⟩) := twinned
    rw [List.append_assoc, List.append_assoc, ← List.append_assoc new] at recorded
    have counted : Advances q batch.rows (more ++ [.close closed.result])
        { q with rowsRead := q.rowsRead + batch.rows.length } := by
      have known := knows schema rfl
      refine ⟨?_, by simp [delivers.adds, Call.row?, batch], rfl⟩
      rw [known]
      exact (Call.Learns.known delivers.under).trans (Call.learns_close _ closed.result)
    have whole := advances.trans counted
    rw [← List.append_assoc] at whole
    refine ⟨_, _, _, batch.rows, new ++ more, closed.result, ends, recorded,
      ⟨whole.learns, whole.adds, whole.counts⟩, started, fun dataset read => ?_⟩
    rw [schema_of_dataset read]
    exact ⟨knows schema rfl, Streaming.rows_of_dataset read⟩

/-! ## One request -/

/-- Acts on the pass of a session and leaves its stream alone. -/
theorem onPass_yields {α : Type} {act : Action (Pass × σ) α} {r : Except Error α} {p : Pass} {t : σ}
    (ends : Yields act (s.pass, s.source) r (p, t)) :
    Yields (onPass act) s r { s with pass := p, source := t } :=
  ⟨ends.result, by simp only [onPass, onPart, Outcome.mapState_state, ends.state]⟩

/-- A request to make a pass that has begun is refused, and changes nothing. -/
theorem act_refused (src : Source σ γ) {request : Request} (begins : request.begins = true)
    (started : s.pass.started = true) :
    Yields (request.act src) s (.error .passConsumed) s := by
  cases request with
  | readSchema => cases begins
  | next => cases begins
  | close => cases begins
  | materialize =>
    have refused : Yields Pass.start (s.pass, s.source) (.error .passConsumed)
        (s.pass, s.source) := by
      apply (yields_getState _).bind
      simp only [started]
      exact yields_fail _ _
    have whole : Yields (onPass (Pass.materialize src)) s (.error .passConsumed) s :=
      onPass_yields refused.bind_error
    exact whole.map _
  | stream =>
    have refused : (s.pass.stream s.source : Except Error (Streaming σ γ)) =
        .error .passConsumed := by
      simp only [Pass.stream, started, if_true]
    have whole : Yields (beginStream src) s (.error .passConsumed) s :=
      (yields_getState s).bind (yields_ofExcept_of_eq refused s).bind_error
    exact whole.map _

/-- Without a stream there is nothing to pull or to close. -/
theorem onStream_absent {α : Type} (default : α) (act : Action (Streaming σ γ) α)
    (absent : s.stream = none) : Yields (onStream default act) s (.ok default) s := by
  constructor
  · simp only [onStream, absent]
  · simp only [onStream, absent]

theorem onStream_present {α : Type} {act : Action (Streaming σ γ) α} {c : CurrentStream γ}
    {r : Except Error α} {st : Streaming σ γ} (present : s.stream = some c) (default : α)
    (ends : Yields act (s.streaming c) r st) :
    Yields (onStream default act) s r (s.enter c st) := by
  constructor
  · simp only [onStream, present, Outcome.mapState_result, ends.result]
  · simp only [onStream, present, Outcome.mapState_state, ends.state]

theorem release_absent (src : Source σ γ) (absent : s.stream = none) :
    Yields (release src) s (.ok ()) { s with stream := none } :=
  (onStream_absent () _ absent).bind (yields_modifyState _ s)

/-- A pass that has not begun is granted to a stream. -/
theorem beginStream_yields (src : Source σ γ) (unbegun : s.pass.started = false)
    (absent : s.stream = none) :
    Yields (beginStream src) s (.ok ())
      { s with pass := { s.pass with started := true }, stream := some ⟨.unstarted, none⟩ } := by
  have granted : s.pass.stream s.source =
      .ok (⟨.unstarted, { s.pass with started := true }, s.source⟩ : Streaming σ γ) := by
    simp [Pass.stream, unbegun]
  let begun : Session σ γ := { s with pass := { s.pass with started := true } }
  have lets : Yields (release src) begun (.ok ()) { begun with stream := none } :=
    release_absent src absent
  apply (yields_getState s).bind
  apply (yields_ofExcept_of_eq granted s).bind
  apply (yields_modifyState _ s).bind
  exact lets.bind (yields_modifyState _ _)

/-- What a request comes to that changes nothing. -/
theorem Comes.idle {request : Request} {r : Except Error Answer} {calls : List (Call γ)}
    (standing : s.Standing) (plain : Yields (request.act src) s r s)
    (recorded : Yields (request.act src.recorded) (s.recording calls) r (s.recording calls))
    (tells : ∀ schema ∈ told r, s.pass.schema = some schema) :
    Comes src request s calls r s [] [] where
  plain := plain
  recorded := by rwa [List.append_nil]
  advances := advances_nil s.pass
  standing := standing
  tells := tells

variable (src) (calls : List (Call γ))

theorem readSchema_comes (standing : s.Standing) :
    ∃ r t new, Comes src .readSchema s calls r t [] new ∧ delivered r = [] ∧
      t.pass.started = s.pass.started ∧ t.stream = s.stream := by
  rcases readSchema_advances src s.pass s.source calls
    with ⟨r, q, t, new, plain, twin, advances, started, knows⟩
  have recorded : Yields (onPass (Pass.readSchema src.recorded)) (s.recording calls) r
      (recording (calls ++ new) { s with pass := q, source := t }) := onPass_yields twin
  refine ⟨r.map .schema, { s with pass := q, source := t }, new,
    ⟨(onPass_yields plain).map _, recorded.map _, advances, ?_, ?_⟩, ?_, started, rfl⟩
  · refine ⟨fun idle => standing.idle (started ▸ idle), standing.shared, ?_⟩
    intro c present schema place stands
    have known := standing.knows c present schema place stands
    simp only [streaming, standing.shared c present, Option.getD_none] at known ⊢
    exact advances.learns.kept known
  · intro schema found
    cases r with
    | error e => cases found
    | ok answer =>
      cases found
      exact knows schema rfl
  · cases r <;> rfl

/-- The first request to stream begins the pass; nothing is asked of the source yet. -/
theorem stream_comes (standing : s.Standing) (unbegun : s.pass.started = false) :
    ∃ t, Comes src .stream s calls (.ok .done) t [] [] ∧ t.pass.started = true := by
  have absent := standing.idle unbegun
  refine ⟨_, ⟨(beginStream_yields src unbegun absent).map _, ?_, ?_, ?_, by simp [told]⟩, rfl⟩
  · have twin : Yields (beginStream src.recorded) (s.recording calls) _ _ :=
      beginStream_yields src.recorded unbegun absent
    rw [List.append_nil]
    exact twin.map _
  · exact ⟨Call.learns_nil s.pass.schema, rfl, rfl⟩
  · refine ⟨by simp, by simp, ?_⟩
    intro c present schema place stands
    cases present
    cases stands

theorem standing_of_absent (absent : s.stream = none) : s.Standing where
  idle := fun _ => absent
  shared := by simp [absent]
  knows := by simp [absent]

/-- The first request to read everything begins the pass and ends it with the source closed. -/
theorem materialize_comes (unbegun : s.pass.started = false) (absent : s.stream = none) :
    ∃ r t rows new, Comes src .materialize s calls r t rows new ∧ t.pass.started = true ∧
      t.stream = none ∧ (∀ answer, r = .ok answer → delivered r = rows) ∧
      ∃ work answer, new = work ++ [.close answer] := by
  rcases materialize_advances src unbegun s.source calls
    with ⟨r, q, t, rows, work, answer, plain, twin, advances, started, knows⟩
  have recorded : Yields (onPass (Pass.materialize src.recorded)) (s.recording calls) r
      (recording (calls ++ (work ++ [.close answer])) { s with pass := q, source := t }) :=
    onPass_yields twin
  refine ⟨r.map .dataset, { s with pass := q, source := t }, rows, _,
    ⟨(onPass_yields plain).map _, recorded.map _, advances, standing_of_absent absent, ?_⟩,
    started, absent, ?_, work, answer, rfl⟩
  · intro schema found
    cases r with
    | error e => cases found
    | ok dataset =>
      cases found
      exact (knows dataset rfl).1
  · intro answer returned
    cases r with
    | error e => cases returned
    | ok dataset => exact (knows dataset rfl).2

/-- A session goes on with what became of its stream. -/
theorem standing_enter {c : CurrentStream γ} (standing : s.Standing) (present : s.stream = some c)
    {st : Streaming σ γ} (knows : st.Knows) (started : st.pass.started = s.pass.started) :
    (s.enter c st).Standing ∧ (s.enter c st).pass = st.pass := by
  have shared := standing.shared c present
  simp only [enter, shared]
  refine ⟨⟨?_, by simp, ?_⟩, trivial⟩
  · intro idle
    rw [standing.idle (started ▸ idle)] at present
    cases present
  · rintro _ ⟨⟩
    exact knows

/-- What becomes of its stream becomes of a session. -/
theorem comes_of_stream (request : Request) {c : CurrentStream γ} {r : Except Error Answer}
    {st : Streaming σ γ} {rows : List Row} {new : List (Call γ)} (standing : s.Standing)
    (present : s.stream = some c) (plain : Yields (request.act src) s r (s.enter c st))
    (recorded : Yields (request.act src.recorded) (s.recording calls) r
      ((s.recording calls).enter c (st.recording (calls ++ new))))
    (advances : Advances (s.streaming c).pass rows new st.pass) (knows : st.Knows)
    (started : st.pass.started = (s.streaming c).pass.started) (silent : told r = none) :
    Comes src request s calls r (s.enter c st) rows new ∧
      (s.enter c st).pass.started = s.pass.started := by
  have shared := standing.shared c present
  have same : (s.streaming c).pass = s.pass := by simp only [streaming, shared, Option.getD_none]
  rw [same] at advances started
  rcases standing_enter standing present knows started with ⟨onward, pass⟩
  have entered : (s.recording calls).enter c (st.recording (calls ++ new)) =
      (s.enter c st).recording (calls ++ new) := by
    simp only [enter, shared]
    rfl
  rw [entered] at recorded
  refine ⟨⟨plain, recorded, ?_, onward, by simp [silent]⟩, by rw [pass, started]⟩
  rw [pass]
  exact advances

theorem next_comes (standing : s.Standing) :
    ∃ r t new, Comes src .next s calls r t (delivered r) new ∧
      t.pass.started = s.pass.started ∧ (s.stream = none → t.stream = none ∧ delivered r = []) := by
  cases present : s.stream with
  | none =>
    have absent : (s.recording calls).stream = none := present
    refine ⟨.ok (.row none), s, [], ?_, rfl, fun _ => ⟨present, rfl⟩⟩
    exact .idle standing ((onStream_absent none _ present).map _)
      ((onStream_absent none _ absent).map _) (by simp [told])
  | some c =>
    have knows := standing.knows c present
    rcases next_advances src knows calls with ⟨r, st, new, plain, twin, advances, onward, started⟩
    have handed : Streaming.handed r = delivered (r.map .row) := by
      rcases r with e | _ | row <;> rfl
    have silent : told (r.map .row) = none := by
      cases r <;> rfl
    rw [handed] at advances
    have pulls := (onStream_present present none plain).map Answer.row
    have here : (s.recording calls).stream = some c := present
    have twinned := (onStream_present here none twin).map Answer.row
    rcases comes_of_stream src calls .next standing present pulls twinned advances onward started
      silent with ⟨comes, still⟩
    exact ⟨_, _, _, comes, still, nofun⟩

theorem close_comes (standing : s.Standing) :
    ∃ r t new, Comes src .close s calls r t [] new ∧ delivered r = [] ∧
      t.pass.started = s.pass.started ∧ (s.stream = none → t.stream = none) := by
  cases present : s.stream with
  | none =>
    have absent : (s.recording calls).stream = none := present
    refine ⟨.ok .done, s, [], ?_, rfl, rfl, fun _ => present⟩
    exact .idle standing ((onStream_absent () _ present).map _)
      ((onStream_absent () _ absent).map _) (by simp [told])
  | some c =>
    rcases close_advances src (s.streaming c) calls
      with ⟨r, st, new, plain, twin, advances, onward, started⟩
    have silent : told (r.map fun _ => .done) = none ∧ delivered (r.map fun _ => .done) = [] := by
      cases r <;> exact ⟨rfl, rfl⟩
    have closes := (onStream_present present () plain).map fun _ => Answer.done
    have here : (s.recording calls).stream = some c := present
    have twinned := (onStream_present here () twin).map fun _ => Answer.done
    rcases comes_of_stream src calls .close standing present closes twinned advances onward started
      silent.1 with ⟨comes, still⟩
    exact ⟨_, _, _, comes, silent.2, still, nofun⟩

/-! ## The whole conversation -/

theorem accepted_concat_of_some {turns : List Turn} {first : Turn}
    (known : accepted turns = some first) (turn : Turn) :
    accepted (turns ++ [turn]) = some first := by
  unfold accepted at known ⊢
  rw [List.find?_append, known, Option.some_or]

theorem accepted_concat_of_none {turns : List Turn} (unknown : accepted turns = none) {turn : Turn}
    (begins : turn.1.begins = true) : accepted (turns ++ [turn]) = some turn := by
  unfold accepted at unknown ⊢
  simp [List.find?_append, unknown, begins]

theorem accepted_concat_of_other (turns : List Turn) {turn : Turn}
    (other : turn.1.begins = false) : accepted (turns ++ [turn]) = accepted turns := by
  unfold accepted
  rw [List.find?_append, List.find?_cons_of_neg (by simp [other]), List.find?_nil, Option.or_none]

/-- The rows handed out, against the rows that the calls have added, by the turn that was accepted.
Only a session that was asked for a stream has one. -/
inductive Hands (s : Session σ γ) (added shown : List Row) : Option Turn → Prop where
  | idle (unbegun : s.pass.started = false) (nothing : added = []) (none_shown : shown = []) :
      Hands s added shown none
  | streaming (begun : s.pass.started = true) (same : shown = added) :
      Hands s added shown (some (.stream, .ok .done))
  | collected (answer : Answer) (begun : s.pass.started = true) (absent : s.stream = none)
      (same : shown = added) : Hands s added shown (some (.materialize, .ok answer))
  | broken (e : Error) (begun : s.pass.started = true) (absent : s.stream = none)
      (none_shown : shown = []) : Hands s added shown (some (.materialize, .error e))

theorem Hands.shown_eq {added shown : List Row} {first : Option Turn}
    (hands : Hands s added shown first) : shown = released first added := by
  cases hands with
  | idle unbegun nothing none_shown => exact none_shown.trans nothing.symm
  | streaming begun same => exact same
  | collected answer begun absent same => exact same
  | broken e begun absent none_shown => exact none_shown

/-- A request that does not make the pass hands out what it adds, which takes a stream. -/
theorem Hands.further {t : Session σ γ} {added shown rows : List Row} {first : Option Turn}
    (hands : Hands s added shown first) (idle : s.pass.started = false → s.stream = none)
    (started : t.pass.started = s.pass.started)
    (still : s.stream = none → t.stream = none ∧ rows = []) :
    Hands t (added ++ rows) (shown ++ rows) first := by
  cases hands with
  | idle unbegun nothing none_shown =>
    rcases still (idle unbegun) with ⟨absent, none_added⟩
    exact .idle (started.trans unbegun) (by simp [nothing, none_added])
      (by simp [none_shown, none_added])
  | streaming begun same => exact .streaming (started.trans begun) (by rw [same])
  | collected answer begun absent same =>
    exact .collected answer (started.trans begun) (still absent).1 (by rw [same])
  | broken e begun absent none_shown =>
    exact .broken e (started.trans begun) (still absent).1 (by simp [none_shown, (still absent).2])

/-- What the turns so far, the session and the calls have to do with each other. -/
structure Kept (turns : List Turn) (s : Session σ γ) (calls : List (Call γ)) : Prop where
  standing : s.Standing
  advances : Advances {} (calls.filterMap Call.row?) calls s.pass
  tells : ∀ turn ∈ turns, ∀ schema ∈ told turn.2, s.pass.schema = some schema
  hands : Hands s (calls.filterMap Call.row?) (handed turns) (accepted turns)

theorem kept_start (s : σ) : Kept [] ({ source := s } : Session σ γ) [] where
  standing := standing_of_absent rfl
  advances := advances_nil {}
  tells := by simp
  hands := .idle rfl rfl rfl

variable {src calls} {turns : List Turn}

/-- One more turn. -/
theorem Kept.comes {request : Request} {r : Except Error Answer} {t : Session σ γ}
    {rows : List Row} {new : List (Call γ)} (kept : Kept turns s calls)
    (comes : Comes src request s calls r t rows new)
    (hands : Hands t (calls.filterMap Call.row? ++ rows) (handed turns ++ delivered r)
      (accepted (turns ++ [(request, r)]))) :
    Kept (turns ++ [(request, r)]) t (calls ++ new) := by
  have added : (calls ++ new).filterMap Call.row? = calls.filterMap Call.row? ++ rows := by
    rw [List.filterMap_append, comes.advances.adds]
  have shown : handed (turns ++ [(request, r)]) = handed turns ++ delivered r := by
    simp [handed]
  refine ⟨comes.standing, ?_, ?_, ?_⟩
  · rw [added]
    exact kept.advances.trans comes.advances
  · intro turn member schema found
    rcases List.mem_append.mp member with early | late
    · exact comes.advances.learns.kept (kept.tells turn early schema found)
    · rw [List.mem_singleton.mp late] at found
      exact comes.tells schema found
  · rw [added, shown]
    exact hands

theorem Kept.refused (src : Source σ γ) (kept : Kept turns s calls) {request : Request}
    (begins : request.begins = true) (started : s.pass.started = true) :
    Kept (turns ++ [(request, .error .passConsumed)]) s calls := by
  have refused : Comes src request s calls (.error .passConsumed) s [] [] :=
    .idle kept.standing (act_refused src begins started)
      (act_refused src.recorded begins started) (by simp [told])
  have hands := kept.hands
  rw [← List.append_nil calls]
  apply kept.comes refused
  cases first : accepted turns with
  | none =>
    rw [first] at hands
    cases hands with
    | idle unbegun nothing none_shown =>
      rw [started] at unbegun
      cases unbegun
  | some turn =>
    rw [accepted_concat_of_some first]
    simpa [delivered, first] using hands

/-- A pass that has not begun was asked for by nobody, and has handed out nothing. -/
theorem Kept.unbegun (kept : Kept turns s calls) (unbegun : s.pass.started = false) :
    accepted turns = none ∧ calls.filterMap Call.row? = [] ∧ handed turns = [] := by
  have hands := kept.hands
  cases first : accepted turns with
  | none =>
    rw [first] at hands
    cases hands with
    | idle still nothing none_shown => exact ⟨rfl, nothing, none_shown⟩
  | some turn =>
    rw [first] at hands
    have begun : s.pass.started = true := by cases hands <;> assumption
    rw [unbegun] at begun
    cases begun

/-- Every request leaves things as they should be, whatever it comes to. -/
theorem Kept.act (src : Source σ γ) (kept : Kept turns s calls) (request : Request) :
    ∃ r t new, Yields (request.act src) s r t ∧
      Yields (request.act src.recorded) (s.recording calls) r (t.recording (calls ++ new)) ∧
      Kept (turns ++ [(request, r)]) t (calls ++ new) := by
  by_cases refused : request.begins = true ∧ s.pass.started = true
  · rcases refused with ⟨begins, started⟩
    have twin : Yields (request.act src.recorded) (s.recording calls) _ _ :=
      act_refused src.recorded begins started
    refine ⟨_, s, [], act_refused src begins started, ?_, ?_⟩
    · rwa [List.append_nil]
    · rw [List.append_nil]
      exact kept.refused src begins started
  have idle := kept.standing.idle
  cases request with
  | readSchema =>
    rcases readSchema_comes src calls kept.standing
      with ⟨r, t, new, comes, silent, started, stream⟩
    refine ⟨r, t, new, comes.plain, comes.recorded, kept.comes comes ?_⟩
    rw [accepted_concat_of_other turns rfl, silent]
    exact kept.hands.further idle started fun absent => ⟨stream.trans absent, rfl⟩
  | next =>
    rcases next_comes src calls kept.standing with ⟨r, t, new, comes, started, still⟩
    refine ⟨r, t, new, comes.plain, comes.recorded, kept.comes comes ?_⟩
    rw [accepted_concat_of_other turns rfl]
    exact kept.hands.further idle started still
  | close =>
    rcases close_comes src calls kept.standing with ⟨r, t, new, comes, silent, started, still⟩
    refine ⟨r, t, new, comes.plain, comes.recorded, kept.comes comes ?_⟩
    rw [accepted_concat_of_other turns rfl, silent]
    exact kept.hands.further idle started fun absent => ⟨still absent, rfl⟩
  | stream =>
    have unbegun : s.pass.started = false := by simpa [Request.begins] using refused
    rcases kept.unbegun unbegun with ⟨first, nothing, none_shown⟩
    rcases stream_comes src calls kept.standing unbegun with ⟨t, comes, started⟩
    refine ⟨_, t, [], comes.plain, comes.recorded, kept.comes comes ?_⟩
    rw [accepted_concat_of_none first rfl, nothing, none_shown]
    exact .streaming started rfl
  | materialize =>
    have unbegun : s.pass.started = false := by simpa [Request.begins] using refused
    rcases kept.unbegun unbegun with ⟨first, nothing, none_shown⟩
    rcases materialize_comes src calls unbegun (idle unbegun)
      with ⟨r, t, rows, new, comes, started, absent, shown, -⟩
    refine ⟨r, t, new, comes.plain, comes.recorded, kept.comes comes ?_⟩
    rw [accepted_concat_of_none first rfl, nothing, none_shown]
    cases r with
    | error e => exact .broken e started absent rfl
    | ok answer => exact .collected answer started absent (by simp [shown answer rfl])

/-- Through any number of requests. -/
theorem Kept.converse (src : Source σ γ) (requests : List Request) (kept : Kept turns s calls) :
    let talk := Session.converse src requests s
    ∃ new, Session.converse src.recorded requests (s.recording calls) =
        (talk.1, talk.2.recording (calls ++ new)) ∧
      Kept (turns ++ talk.1) talk.2 (calls ++ new) := by
  induction requests generalizing turns s calls with
  | nil => exact ⟨[], by simp [Session.converse], by simpa [Session.converse] using kept⟩
  | cons request rest ih =>
    rcases kept.act src request with ⟨r, t, new, plain, twin, onward⟩
    rcases ih onward with ⟨more, same, further⟩
    refine ⟨new ++ more, ?_, ?_⟩
    · simp only [Session.converse, plain.result, plain.state, twin.result, twin.state, same,
        List.append_assoc]
    · simp only [Session.converse, plain.result, plain.state]
      rw [← List.append_assoc]
      simpa using further

/-- Whatever is asked in whatever order, and whatever fails, a pass is made once.  The first request
to read everything or to stream is accepted, even if it fails afterwards.  Every later one is refused
as closed: it makes no call and changes nothing, so that a stream which is still running goes on as
it would have.  The source is not asked for its schema once it has told it, rows are assembled under
the schema it told and no other, and no other is returned.  At every moment the pass has counted the
rows that its calls added, and these are the rows that were handed out, in order; only if reading
everything has failed were none handed out. -/
theorem made_once (src : Source σ γ) (s : σ) (requests : List Request) :
    let talk := converse src requests { source := s }
    let recorded := converse src.recorded requests { source := ⟨s, []⟩ }
    let calls := recorded.2.source.calls
    let rows := calls.filterMap Call.row?
    recorded = (talk.1, talk.2.recording calls) ∧
    (accepted talk.1 = none →
      (∃ t, Yields (Request.stream.act src.recorded) recorded.2 (.ok .done) t) ∧
      ∃ r t work answer, Yields (Request.materialize.act src.recorded) recorded.2 r t ∧
        t.source.calls = calls ++ (work ++ [.close answer])) ∧
    (∀ first ∈ accepted talk.1, ∀ request : Request, request.begins = true →
      Error.passConsumed.kind? = some .closed ∧
      Yields (request.act src.recorded) recorded.2 (.error .passConsumed) recorded.2) ∧
    Call.Learns none calls talk.2.pass.schema ∧
    (∀ turn ∈ talk.1, ∀ schema ∈ told turn.2, talk.2.pass.schema = some schema) ∧
    talk.2.pass.rowsRead = rows.length ∧
    handed talk.1 = released (accepted talk.1) rows := by
  intro talk recorded calls rows
  rcases (kept_start s).converse src requests with ⟨new, same, kept⟩
  change recorded = (talk.1, talk.2.recording new) at same
  change Kept talk.1 talk.2 new at kept
  have made : calls = new := congrArg (·.2.source.calls) same
  rw [← made] at same kept
  have whole : recorded.2 = talk.2.recording calls := congrArg Prod.snd same
  rw [whole]
  have hands := kept.hands
  refine ⟨same, ?_, ?_, kept.advances.learns, kept.tells, ?_, ?_⟩
  · intro nobody
    rw [nobody] at hands
    cases hands with
    | idle unbegun nothing none_shown =>
      have absent := kept.standing.idle unbegun
      rcases stream_comes src calls kept.standing unbegun with ⟨t, streams, -⟩
      rcases materialize_comes src calls unbegun absent
        with ⟨r, u, added, others, reads, -, -, -, work, answer, rfl⟩
      exact ⟨⟨_, streams.recorded⟩, r, _, work, answer, reads.recorded, rfl⟩
  · intro first known request begins
    rw [Option.mem_def.mp known] at hands
    have begun : talk.2.pass.started = true := by cases hands <;> assumption
    exact ⟨rfl, act_refused src.recorded begins begun⟩
  · rw [kept.advances.counts, Nat.zero_add]
  · exact hands.shown_eq

end Session
end RowReader
