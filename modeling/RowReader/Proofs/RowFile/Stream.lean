import RowReader.Proofs.Pass.Lazy
import RowReader.Proofs.Reader.Ready
import RowReader.RowFile.Stream

/-!
# Streams over row files as streams over readers

A stream over a row file is the stream over the reader that its first pull opens.  When that stream
has ended it is closed again, but then its reader is closed already, so this changes nothing.
-/

namespace RowReader

open RowReader.Action

variable {σ τ ω : Type}

/-- All of a batch but its log. -/
def Batch.told (b : Batch σ) : List Row × Ending × σ :=
  (b.rows, b.ending, b.state)

/-- Everything that is taken, given what the first pull came to. -/
def afterPull (next : Action σ (Option Row)) (count : Nat) (r : Except Error (Option Row)) (t : σ) :
    List Row × Ending × σ :=
  match r with
  | .ok (some row) => (row :: (takeRows next count t).told.1, (takeRows next count t).told.2)
  | r => ([], .of r, t)

theorem takeRows_succ {next : Action σ (Option Row)} {s t : σ} {r : Except Error (Option Row)}
    (pulled : Yields next s r t) (count : Nat) :
    (takeRows next (count + 1) s).told = afterPull next count r t := by
  rcases r with e | _ | row
  · rcases takeRows_of_end pulled nofun count with ⟨log, stop⟩
    rw [stop]
    rfl
  · rcases takeRows_of_end pulled nofun count with ⟨log, stop⟩
    rw [stop]
    rfl
  · rcases takeRows_of_row pulled count with ⟨log, further⟩
    rw [further]
    rfl

/-- Pulls that correspond to pulls on other states take the same rows. -/
theorem takeRows_image {next : Action σ (Option Row)} {next' : Action τ (Option Row)} {f : σ → τ}
    (follows : ∀ s, Yields next' (f s) (next s).result (f (next s).state)) (count : Nat) (s : σ) :
    (takeRows next' count (f s)).told = ((takeRows next count s).mapState f).told := by
  induction count generalizing s with
  | zero => rfl
  | succ count ih =>
    have taken : ((takeRows next (count + 1) s).mapState f).told =
        Prod.map id (Prod.map id f) (takeRows next (count + 1) s).told := rfl
    rw [takeRows_succ (follows s) count, taken, takeRows_succ (yields_self next s) count]
    rcases (next s).result with e | _ | row
    · rfl
    · rfl
    · simp only [afterPull, ih]
      rfl

namespace RowStream

/-- The stream over a row file that has this stream over its reader. -/
def shown (st : Inner ω) : RowStream × World ω :=
  match st.progress with
  | .ended => (.ended, st.source.2.2)
  | _ => (.running (OpenStream.ofStreaming st).1, st.source.2.2)

theorem shown_of_ended {st : Inner ω} (ended : st.progress = .ended) :
    shown st = (.ended, st.source.2.2) := by
  rw [shown, ended]

theorem shown_of_live {st : Inner ω} (live : st.Live) :
    shown st = (.running (OpenStream.ofStreaming st).1, st.source.2.2) := by
  unfold shown
  cases stands : st.progress with
  | ended => simp [Streaming.Live, stands] at live
  | unstarted => rfl
  | running schema place => rfl

variable (srv : Server ω) (pf : RowFile)

/-- A stream that has ended, and with it its reader, can be closed once more without effect. -/
theorem thenClose_yields {α : Type} {act : Action (Inner ω) α} {s t : Inner ω} {r : Except Error α}
    (ends : Yields act s r t) (ended : t.progress = .ended) (isClosed : t.source.1.closed = true) :
    Yields (thenClose srv act) s r t := by
  have shuts := Streaming.shut_yields (source srv) t
  have still : Yields (source srv).close t.source (.ok ()) t.source := Reader.close_closed isClosed
  have same : (⟨.ended, t.pass, t.source⟩ : Inner ω) = t := by rw [← ended]
  rw [still.result, still.state, same] at shuts
  have closes : Yields (Streaming.close (source srv)) t (.ok ()) t := by
    apply (yields_getState t).bind
    simp only [ended]
    exact shuts
  exact ends.andFinally closes

/-- A pull of an open stream is a pull of the stream below. -/
theorem pull_yields {st t : Inner ω} {r : Except Error (Option Row)} (live : st.Live)
    (pulled : Yields (Streaming.next (source srv)) st r t) :
    (pull srv (OpenStream.ofStreaming st).1 st.source.2.2).result = r ∧
      (pull srv (OpenStream.ofStreaming st).1 st.source.2.2).state = shown t := by
  have whole : (OpenStream.ofStreaming st).1.streaming st.source.2.2 = st := rfl
  have shut := Streaming.shut_of_end (source srv) live pulled
  have onward {row : Row} (answer : r = .ok (some row)) : t.Live :=
    Streaming.live_of_row (source srv) live (answer ▸ pulled)
  unfold pull
  rw [whole]
  rcases pulled.outcome with ⟨log, answered⟩
  rw [answered]
  have finish {last : Action (Inner ω) (Option Row)} (ends : Yields last t r t)
      (no_row : ∀ row, r ≠ .ok (some row)) :
      (thenClose srv last t).result = r ∧
        (RowStream.ended, (thenClose srv last t).state.source.2.2) = shown t := by
    rcases shut no_row with ⟨ended, s, closed⟩
    have isClosed : t.source.1.closed = true := closed ▸ Reader.closed_of_close _ _
    have again := thenClose_yields srv ends ended isClosed
    rw [shown_of_ended ended, again.state]
    exact ⟨again.result, rfl⟩
  rcases r with e | _ | row
  · exact finish (yields_fail e t) nofun
  · exact finish (yields_pure none t) nofun
  · exact ⟨rfl, (shown_of_live (onward rfl)).symm⟩

/-- Every pull is a pull of the stream below. -/
theorem next_shown (st : Inner ω) :
    Yields (next srv pf) (shown st) (Streaming.next (source srv) st).result
      (shown (Streaming.next (source srv) st).state) := by
  have inside : Yields (advance srv pf) (shown st) (Streaming.next (source srv) st).result
      (shown (Streaming.next (source srv) st).state) := by
    have pulled := yields_self (Streaming.next (source srv)) st
    by_cases ended : st.progress = .ended
    · have nothing := Streaming.next_ended (source srv) ended
      rw [nothing.result, nothing.state, shown_of_ended ended]
      exact ⟨rfl, rfl⟩
    · have live : st.Live := Streaming.live_iff.mpr ended
      rcases pull_yields srv live pulled with ⟨result, state⟩
      rw [shown_of_live live]
      exact ⟨result, state⟩
  have outside := inside.mapError Error.outOfIteration
  rw [Streaming.next_reworded] at outside
  exact outside

/-- An open stream is closed together with its reader, if this can be closed. -/
theorem close_live {st : Inner ω} (live : st.Live)
    (closes : ((source srv).close st.source).result = .ok ()) :
    Yields (close srv) (shown st) (.ok ()) (.ended, ((source srv).close st.source).state.2.2) := by
  let t : Inner ω := ⟨.ended, st.pass, ((source srv).close st.source).state⟩
  have shuts : Yields (Streaming.shut (source srv)) st (.ok ()) t :=
    closes ▸ Streaming.shut_yields (source srv) st
  have isClosed : t.source.1.closed = true := Reader.closed_of_close _ _
  have still : Yields (Streaming.onSource (source srv).close) t (.ok ()) t :=
    (Reader.close_closed isClosed).onPart
  have ends : Yields (Streaming.close (source srv)) st (.ok ()) t := by
    apply (yields_getState st).bind
    cases st.progress with
    | running schema place => exact (shuts.mapError Error.outOfIteration).bind still
    | unstarted => exact shuts
    | ended => exact shuts
  have whole := (thenClose_yields srv ends rfl isClosed).mapError Error.outOfIteration
  rw [shown_of_live live]
  exact ⟨whole.result, congrArg (fun st => (RowStream.ended, st.source.2.2)) whole.state⟩

/-! ## From the first pull on -/

/-- A row file that does not open ends its stream at once. -/
theorem next_unopened {w w' : World ω} {e : Error}
    (failed : Yields (pf.openReader srv) w (.error e) w') :
    Yields (next srv pf) (.unopened, w) (.error e.outOfIteration) (.ended, w') := by
  rcases failed.outcome with ⟨log, answered⟩
  have inside : Yields (advance srv pf) (.unopened, w) (.error e) (.ended, w') := by
    constructor <;> simp only [advance, answered]
  exact inside.mapError Error.outOfIteration

/-- The first pull opens a reader and is then a pull of the stream that begins with it. -/
theorem next_begun {w w' : World ω} {reader : Reader} {handle : Handle}
    (opened : Yields (pf.openReader srv) w (.ok (reader, handle)) w') :
    let first := next srv pf (.running (.begin reader handle), w')
    Yields (next srv pf) (.unopened, w) first.result first.state := by
  intro first
  rcases opened.outcome with ⟨log, answered⟩
  have pulled := yields_self (advance srv pf) (.running (.begin reader handle), w')
  have inside : Yields (advance srv pf) (.unopened, w)
      (advance srv pf (.running (.begin reader handle), w')).result
      (advance srv pf (.running (.begin reader handle), w')).state := by
    constructor <;> simp only [advance, answered] <;> rfl
  have same := pulled.mapError Error.outOfIteration
  have ends := inside.mapError Error.outOfIteration
  rw [← same.result, ← same.state] at ends
  exact ends

/-- The first pull opens a reader and is then the first pull from it. -/
theorem next_opened {w w' : World ω} {reader : Reader} {handle : Handle}
    (opened : Yields (pf.openReader srv) w (.ok (reader, handle)) w') :
    let first := Streaming.next (source srv) (Streaming.fresh (reader, handle, w'))
    Yields (next srv pf) (.unopened, w) first.result (shown first.state) := by
  intro first
  have pulled := next_shown srv pf (Streaming.fresh (reader, handle, w'))
  rw [← pulled.result, ← pulled.state]
  exact next_begun srv pf opened

/-- Rows that are pulled from a row file are those pulled from the reader that opens. -/
theorem takeRows_opened {w w' : World ω} {reader : Reader} {handle : Handle}
    (opened : Yields (pf.openReader srv) w (.ok (reader, handle)) w') (count : Nat) :
    (takeRows (next srv pf) (count + 1) (.unopened, w)).told =
      ((takeRows (Streaming.next (source srv)) (count + 1)
        (Streaming.fresh (reader, handle, w'))).mapState shown).told := by
  have first := next_shown srv pf (Streaming.fresh (reader, handle, w'))
  rw [← takeRows_image (next_shown srv pf), takeRows_succ (next_opened srv pf opened),
    takeRows_succ first]

/-- A row file that does not open has no row and ends its stream at once. -/
theorem takeRows_unopened {w w' : World ω} {e : Error}
    (failed : Yields (pf.openReader srv) w (.error e) w') (count : Nat) :
    let outer := takeRows (next srv pf) (count + 1) (.unopened, w)
    outer.rows = [] ∧ outer.ending = .failed e.outOfIteration ∧ outer.state = (.ended, w') := by
  rcases takeRows_of_end (next_unopened srv pf failed) nofun count with ⟨log, stop⟩
  rw [stop]
  exact ⟨rfl, rfl, rfl⟩

/-- Every stream ends after finitely many pulls. -/
theorem takeRows_ends (w : World ω) :
    ∃ count, (takeRows (next srv pf) count (.unopened, w)).ending ≠ .more := by
  have opening := yields_self (pf.openReader srv) w
  generalize (pf.openReader srv w).result = r at opening
  rcases r with e | ⟨reader, handle⟩
  · refine ⟨1, ?_⟩
    rw [(takeRows_unopened srv pf opening 0).2.1]
    rintro ⟨⟩
  · let first : Inner ω := Streaming.fresh (reader, handle, (pf.openReader srv w).state)
    refine ⟨(first.owed (source srv)).rows.length + 1, ?_⟩
    have outer := takeRows_opened srv pf opening (first.owed (source srv)).rows.length
    have ends := (Streaming.takeRows_owed (source srv) (Streaming.fresh_live _) _).2.2
      (Nat.lt_succ_self (first.owed (source srv)).rows.length)
    simp only [Batch.told, Batch.mapState, Prod.mk.injEq] at outer
    rw [outer.2.1, ends.1, ← Ending.of_mapError]
    exact Ending.of_ne_more _

end RowStream
end RowReader
