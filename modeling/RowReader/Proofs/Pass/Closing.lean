import RowReader.Proofs.Pass.Lazy
import RowReader.Proofs.Pass.Materialize

/-!
# When a source is closed

A pass that reads everything closes its source once, at its very end.  A stream closes its source
at the first event that ends it: a pull that hands out no row, or its being closed, whether it was
pulled before or not.  From then on it answers every pull with the end, and only closings reach the
source, which leave it as it is.
-/

namespace RowReader

variable {σ γ : Type}

open RowReader.Action

/-! ## Reading everything -/

theorem GroupRun.assembling_open (schema : Schema) (g : γ) (i : Nat) (assembled : List (Row × γ)) :
    ∀ call ∈ assembling schema g i assembled, call.closes = false := by
  induction assembled generalizing g i with
  | nil => simp [assembling]
  | cons first rest ih =>
    rcases first with ⟨row, next⟩
    intro call member
    rcases List.mem_cons.mp member with same | later
    · rw [same]
      rfl
    · exact ih next (i + 1) call later

theorem GroupRun.calls_open (schema : Schema) (run : GroupRun γ) :
    ∀ call ∈ run.calls schema, call.closes = false := by
  intro call member
  rcases List.mem_cons.mp member with same | assembled
  · rw [same]
    rfl
  · exact assembling_open schema run.group 0 run.assembled call assembled

theorem Source.Ends.leaves_open {src : Source σ γ} {schema : Schema} {tail : List (Call γ)}
    {rows : List Row} {ending : Ending} (ends : src.Ends schema tail rows ending) :
    ∀ call ∈ tail, call.closes = false := by
  intro call member
  cases ends with
  | exhausted =>
    rw [List.mem_singleton.mp member]
    rfl
  | refused e =>
    rw [List.mem_singleton.mp member]
    rfl
  | broken run answer e short fits fails =>
    rcases List.mem_append.mp member with early | late
    · exact run.calls_open schema call early
    · rw [List.mem_singleton.mp late]
      rfl

/-- Whatever comes of reading everything, the source is closed once, by the last call. -/
theorem Source.materializeCalls_closes (src : Source σ γ)
    (closes : ∀ s, (src.close s).result = .ok ()) (s : σ) :
    ∃ work, src.materializeCalls s = work ++ [.close (.ok ())] ∧
      ∀ call ∈ work, call.closes = false := by
  cases read : (src.readSchema s).result with
  | error e =>
    refine ⟨[.readSchema (.error e)], ?_, ?_⟩
    · rw [src.materializeCalls_unread read, closes]
      rfl
    · intro call member
      rw [List.mem_singleton.mp member]
      rfl
  | ok schema =>
    rcases src.deliverGroups_recorded schema (src.readSchema s).state [.readSchema (.ok schema)]
        with ⟨runs, tail, rows, -, ends, -, kept⟩
    refine ⟨.readSchema (.ok schema) :: (runs.flatMap (GroupRun.calls schema) ++ tail), ?_, ?_⟩
    · rw [src.materializeCalls_read read, kept, closes]
      rfl
    · intro call member
      rcases List.mem_cons.mp member with first | later
      · rw [first]
        rfl
      · rcases List.mem_append.mp later with delivered | last
        · rcases List.mem_flatMap.mp delivered with ⟨run, -, made⟩
          exact run.calls_open schema call made
        · exact ends.leaves_open call last

namespace Streaming

variable (src : Source σ γ)

/-! ## Events -/

/-- What a caller does with a stream; leaving the block it was opened for closes it. -/
inductive Event where
  | next
  | close
  | exit
  deriving DecidableEq

namespace Event

def act : Event → Action (Streaming σ γ) (Option Row)
  | next => Streaming.next src
  | close | exit => do
    Streaming.close src
    return none

/-- An event ends a stream unless it is a pull that hands out a row. -/
def Ends : Event → Except Error (Option Row) → Prop
  | next, .ok (some _) => False
  | _, _ => True

end Event

/-- The answers to a sequence of events, and the stream they leave. -/
def play : List Event → Streaming σ γ → List (Event × Except Error (Option Row)) × Streaming σ γ
  | [], st => ([], st)
  | event :: rest, st =>
    let outcome := event.act src st
    let later := play rest outcome.state
    ((event, outcome.result) :: later.1, later.2)

theorem play_append (first second : List Event) (st : Streaming σ γ) :
    play src (first ++ second) st =
      ((play src first st).1 ++ (play src second (play src first st).2).1,
        (play src second (play src first st).2).2) := by
  induction first generalizing st with
  | nil => rfl
  | cons event rest ih => simp only [List.cons_append, play, ih]

/-! ## Closing a stream -/

/-- The source as it is closed for the last time when its stream is: one that stands in a group has
closed it before. -/
def closing (st : Streaming σ γ) : σ :=
  match st.progress with
  | .running _ _ => (src.close st.source).state
  | _ => st.source

variable {src}

theorem close_yields (closes : ∀ s, (src.close s).result = .ok ()) (st : Streaming σ γ) :
    Yields (close src) st (.ok ()) ⟨.ended, st.pass, (src.close (st.closing src)).state⟩ := by
  have shuts := shut_yields src st
  rw [closes] at shuts
  apply (yields_getState st).bind
  simp only [closing]
  cases st.progress with
  | running schema place =>
    have again := closeSource_yields src ⟨.ended, st.pass, (src.close st.source).state⟩
    rw [closes] at again
    exact (shuts.mapError Error.outOfIteration).bind again
  | unstarted => exact shuts
  | ended => exact shuts

theorem act_closing (closes : ∀ s, (src.close s).result = .ok ()) {event : Event}
    (closing : event ≠ .next) (st : Streaming σ γ) :
    Yields (event.act src) st (.ok none)
      ⟨.ended, st.pass, (src.close (st.closing src)).state⟩ := by
  have closed := close_yields closes st
  cases event with
  | next => exact absurd rfl closing
  | close => exact closed.bind (yields_pure none _)
  | exit => exact closed.bind (yields_pure none _)

/-- Calls that close the source and do nothing else. -/
def Closings (calls : List (Call γ)) : Prop := ∀ call ∈ calls, call = .close (.ok ())

/-- Only closings reach the source when its stream is closed. -/
theorem act_closing_recorded (closes : ∀ s, (src.close s).result = .ok ()) {event : Event}
    (closing : event ≠ .next) (st : Streaming σ γ) (calls : List (Call γ)) :
    ∃ earlier, Closings earlier ∧
      Yields (event.act src.recorded) (st.recording calls) (event.act src st).result
        ((event.act src st).state.recording (calls ++ (earlier ++ [.close (.ok ())]))) := by
  have plain := act_closing closes closing st
  have twin : Yields (event.act src.recorded) (st.recording calls) _ _ :=
    act_closing (fun r => closes r.source) closing (st.recording calls)
  rw [plain.result, plain.state]
  rcases st with ⟨progress, p, s⟩
  cases progress with
  | running schema place =>
    refine ⟨[.close (.ok ())], by simp [Closings], ?_⟩
    simpa [recording, Streaming.closing, Source.recorded, Recorded.enter, Outcome.mapState, closes]
      using twin
  | unstarted =>
    refine ⟨[], by simp [Closings], ?_⟩
    simpa [recording, Streaming.closing, Source.recorded, Recorded.enter, Outcome.mapState, closes]
      using twin
  | ended =>
    refine ⟨[], by simp [Closings], ?_⟩
    simpa [recording, Streaming.closing, Source.recorded, Recorded.enter, Outcome.mapState, closes]
      using twin

/-- An event that hands out a row is a pull. -/
theorem Event.of_not_ends {event : Event} {r : Except Error (Option Row)}
    (answered : ¬ event.Ends r) : event = .next ∧ ∃ row, r = .ok (some row) := by
  cases event with
  | close => exact absurd trivial answered
  | exit => exact absurd trivial answered
  | next =>
    rcases r with e | _ | row
    · exact absurd trivial answered
    · exact absurd trivial answered
    · exact ⟨rfl, row, rfl⟩

/-- As long as rows are handed out, nothing closes the source. -/
theorem act_row {event : Event} {st : Streaming σ γ} (live : st.Live)
    (answered : ¬ event.Ends (event.act src st).result) (calls : List (Call γ)) :
    (event.act src st).state.Live ∧
    ∃ new, Yields (event.act src.recorded) (st.recording calls) (event.act src st).result
        ((event.act src st).state.recording (calls ++ new)) ∧ ∀ call ∈ new, call.closes = false := by
  rcases Event.of_not_ends answered with ⟨rfl, row, result⟩
  have pulled := yields_self (next src) st
  change (next src st).result = _ at result
  rw [result] at pulled
  rcases next_recorded src live pulled calls with ⟨new, same, before, last, rfl, quiet, adds⟩
  refine ⟨live_of_row src live pulled, before ++ [last], result ▸ same, ?_⟩
  intro call member
  rcases List.mem_append.mp member with early | late
  · exact (quiet call early).2
  · rw [List.mem_singleton.mp late]
    exact Call.closes_of_row? adds

/-- The event that ends a stream ends with the closing of the source. -/
theorem act_end (closes : ∀ s, (src.close s).result = .ok ()) {event : Event}
    {st : Streaming σ γ} (live : st.Live) (ends : event.Ends (event.act src st).result)
    (calls : List (Call γ)) :
    (event.act src st).state.progress = .ended ∧
    (∃ s, (event.act src st).state.source = (src.close s).state) ∧
    ∃ work, Yields (event.act src.recorded) (st.recording calls) (event.act src st).result
      ((event.act src st).state.recording (calls ++ (work ++ [.close (.ok ())]))) := by
  by_cases closing : event = .next
  · subst closing
    have pulled := yields_self (next src) st
    have nothing : ∀ row, (next src st).result ≠ .ok (some row) := by
      intro row result
      change Event.Ends .next (next src st).result at ends
      rw [result] at ends
      exact ends
    rcases shut_of_end src live pulled nothing with ⟨ended, shut⟩
    rcases next_recorded src live pulled calls with ⟨new, same, turn⟩
    rcases turn.of_end nothing with ⟨before, s, rfl, -⟩
    rw [closes] at same
    exact ⟨ended, shut, before, same⟩
  · rcases act_closing_recorded closes closing st calls with ⟨earlier, -, same⟩
    refine ⟨?_, ?_, earlier, same⟩
    · rw [(act_closing closes closing st).state]
    · rw [(act_closing closes closing st).state]
      exact ⟨_, rfl⟩

/-- After the end, every event answers with the end and leaves the source as it is. -/
theorem act_ended (closes : ∀ s, (src.close s).result = .ok ())
    (idempotent : ∀ s, (src.close (src.close s).state).state = (src.close s).state) (event : Event)
    {st : Streaming σ γ} (ended : st.progress = .ended)
    (shut : ∃ s, st.source = (src.close s).state) (calls : List (Call γ)) :
    (event.act src st).result = .ok none ∧ (event.act src st).state.progress = .ended ∧
    (event.act src st).state.source = st.source ∧
    ∃ closings, Closings closings ∧
      Yields (event.act src.recorded) (st.recording calls) (event.act src st).result
        ((event.act src st).state.recording (calls ++ closings)) := by
  by_cases closing : event = .next
  · subst closing
    have pulled := next_ended src ended
    have twin : Yields (next src.recorded) (st.recording calls) _ _ := next_ended src.recorded ended
    simp only [Event.act]
    rw [pulled.result, pulled.state]
    refine ⟨rfl, ended, rfl, [], by simp [Closings], ?_⟩
    rw [List.append_nil]
    exact twin
  · rcases act_closing_recorded closes closing st calls with ⟨earlier, closings, same⟩
    have closed := act_closing closes closing st
    refine ⟨closed.result, ?_, ?_, _, ?_, same⟩
    · rw [closed.state]
    · rcases shut with ⟨s, source⟩
      rw [closed.state]
      simp only [Streaming.closing, ended, source, idempotent]
    · intro call member
      rcases List.mem_append.mp member with early | late
      · exact closings call early
      · exact List.mem_singleton.mp late

/-! ## Sequences of events -/

theorem play_open (events : List Event) {st : Streaming σ γ} (live : st.Live)
    (answered : ∀ turn ∈ (play src events st).1, ¬ turn.1.Ends turn.2) (calls : List (Call γ)) :
    (play src events st).2.Live ∧
    ∃ new, play src.recorded events (st.recording calls) =
        ((play src events st).1, (play src events st).2.recording (calls ++ new)) ∧
      ∀ call ∈ new, call.closes = false := by
  induction events generalizing st calls with
  | nil => exact ⟨live, [], by simp [play], by simp⟩
  | cons event rest ih =>
    simp only [play, List.mem_cons, forall_eq_or_imp] at answered
    rcases answered with ⟨first, later⟩
    rcases act_row live first calls with ⟨onward, new, same, leave⟩
    rcases ih onward later (calls ++ new) with ⟨still, further, played, leave'⟩
    refine ⟨still, new ++ further, ?_, ?_⟩
    · simp only [play, same.result, same.state, played, List.append_assoc]
    · intro call member
      rcases List.mem_append.mp member with early | late
      · exact leave call early
      · exact leave' call late

theorem play_ended (closes : ∀ s, (src.close s).result = .ok ())
    (idempotent : ∀ s, (src.close (src.close s).state).state = (src.close s).state)
    (events : List Event) {st : Streaming σ γ} (ended : st.progress = .ended)
    (shut : ∃ s, st.source = (src.close s).state) (calls : List (Call γ)) :
    (play src events st).1 = events.map (fun event => (event, .ok none)) ∧
    (play src events st).2.source = st.source ∧
    ∃ closings, Closings closings ∧ play src.recorded events (st.recording calls) =
      ((play src events st).1, (play src events st).2.recording (calls ++ closings)) := by
  induction events generalizing st calls with
  | nil => exact ⟨rfl, rfl, [], by simp [Closings], by simp [play]⟩
  | cons event rest ih =>
    rcases act_ended closes idempotent event ended shut calls
        with ⟨result, still, source, new, closings, same⟩
    rcases ih still (source ▸ shut) (calls ++ new) with ⟨answers, kept, further, closings', played⟩
    refine ⟨?_, ?_, new ++ further, ?_, ?_⟩
    · simp only [play, result, answers, List.map_cons]
    · simp only [play, kept, source]
    · intro call member
      rcases List.mem_append.mp member with early | late
      · exact closings call early
      · exact closings' call late
    · simp only [play, same.result, same.state, played, List.append_assoc]

/-- Reading everything closes the source once, last of all.  A stream leaves its source open as
long as its events are pulls that hand out rows; the first other event closes it, and from then on
every event answers with the end, only closings reach the source, and they change nothing. -/
theorem closed_from_the_end_on (src : Source σ γ) (closes : ∀ s, (src.close s).result = .ok ())
    (idempotent : ∀ s, (src.close (src.close s).state).state = (src.close s).state) (s : σ) :
    let played := fun events => play src events (fresh s)
    let calls := fun events => (play src.recorded events (fresh ⟨s, []⟩)).2.source.calls
    (∃ work, src.materializeCalls s = work ++ [.close (.ok ())] ∧
      ∀ call ∈ work, call.closes = false) ∧
    ∀ events, (∀ turn ∈ (played events).1, ¬ turn.1.Ends turn.2) →
      (∀ call ∈ calls events, call.closes = false) ∧
      ∀ event : Event, event.Ends (event.act src (played events).2).result →
        let ended := events ++ [event]
        (∃ work, calls ended = work ++ [.close (.ok ())]) ∧
        (∃ t, (played ended).2.source = (src.close t).state) ∧
        ∀ more, (played (ended ++ more)).1 =
            (played ended).1 ++ more.map (fun event => (event, .ok none)) ∧
          (played (ended ++ more)).2.source = (played ended).2.source ∧
          ∃ closings, Closings closings ∧ calls (ended ++ more) = calls ended ++ closings := by
  intro played calls
  refine ⟨src.materializeCalls_closes closes s, ?_⟩
  intro events answered
  rcases play_open events (fresh_live s) answered [] with ⟨live, new, same, leave⟩
  have made : calls events = new := congrArg (·.2.source.calls) same
  have recorded : play src.recorded events (fresh ⟨s, []⟩) =
      ((played events).1, (played events).2.recording (calls events)) := made ▸ same
  refine ⟨made ▸ leave, ?_⟩
  intro event ends ended
  rcases act_end closes live ends (calls events) with ⟨stopped, shut, work, turn⟩
  have after : (played ended).2 = (event.act src (played events).2).state := by
    simp only [played, ended, play_append, play]
  rw [← after] at stopped shut turn
  have twin : play src.recorded ended (fresh ⟨s, []⟩) = ((played ended).1,
      (played ended).2.recording (calls events ++ (work ++ [.close (.ok ())]))) := by
    simp only [played, ended, play_append, recorded, play]
    rw [turn.result, turn.state, after]
  have entered : calls ended = calls events ++ (work ++ [.close (.ok ())]) :=
    congrArg (·.2.source.calls) twin
  rw [← entered] at twin
  refine ⟨⟨calls events ++ work, by rw [entered, List.append_assoc]⟩, shut, ?_⟩
  intro more
  rcases play_ended closes idempotent more stopped shut (calls ended)
      with ⟨answers, kept, closings, only, later⟩
  have onward : played (ended ++ more) = _ := play_append src ended more (fresh s)
  have further : play src.recorded (ended ++ more) (fresh ⟨s, []⟩) = _ :=
    play_append src.recorded ended more (fresh ⟨s, []⟩)
  rw [twin, later] at further
  refine ⟨?_, ?_, closings, only, congrArg (·.2.source.calls) further⟩
  · rw [onward]
    exact congrArg _ answers
  · rw [onward]
    exact kept

/-- A stream that is closed after its first row. -/
theorem closed_from_the_end_on_after_one_row :
    let src := Source.listed Source.ids
    let groups := [.ok [Source.idRow 1, Source.idRow 2]]
    (∀ s, (src.close s).result = .ok ()) ∧
    (∀ s, (src.close (src.close s).state).state = (src.close s).state) ∧
    (play src [.next] (fresh groups)).1 = [(.next, .ok (some (Source.idRow 1)))] ∧
    (play src [.next, .close, .next, .exit] (fresh groups)).1 =
      [(.next, .ok (some (Source.idRow 1))), (.close, .ok none), (.next, .ok none),
        (.exit, .ok none)] := by
  intro src groups
  have closes : ∀ s, (src.close s).result = .ok () := fun _ => rfl
  have whole := closed_from_the_end_on src closes (fun _ => rfl) groups
  have found : (src.firstRow Source.ids groups).result =
      .ok (some (Source.idRow 1, ⟨[Source.idRow 1, Source.idRow 2], 1, 1⟩)) := by
    rw [src.firstRow_of_group Source.ids rfl]
    rfl
  have pulled : ((fresh groups).pull src).result =
      .ok (some (Source.idRow 1, Source.ids, ⟨[Source.idRow 1, Source.idRow 2], 1, 1⟩)) := by
    change (pull.found Source.ids (src.firstRow Source.ids groups)).result = _
    simp only [pull.found, Outcome.mapResult, found]
    rfl
  have moved := (next_yields src (fresh_live groups)).result
  simp only [noted, pulled, ok_mapError] at moved
  have first : (play src [.next] (fresh groups)).1 = [(.next, .ok (some (Source.idRow 1)))] := by
    simp only [play, Event.act, moved]
  have second : (play src ([.next] ++ [.close]) (fresh groups)).1 =
      [(.next, .ok (some (Source.idRow 1))), (.close, .ok none)] := by
    have closed := (act_closing closes (by decide : Event.close ≠ .next)
      (Event.next.act src (fresh groups)).state).result
    rw [play_append, first]
    simp only [play, closed, List.singleton_append]
  refine ⟨closes, fun _ => rfl, first, ?_⟩
  have running := whole.2 [.next] (by simp [first, Event.Ends])
  have shut := (running.2 .close trivial).2.2 [.next, .exit]
  apply shut.1.trans
  rw [second]
  rfl

end Streaming
end RowReader
