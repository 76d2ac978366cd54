import RowReader.Proofs.RowFile.Opening
import RowReader.Proofs.World.Counted

/-!
# Local files apart from each other

What is done with a local row file does not depend on what else is open, as long as the files stay
as they are: a call that closes what it opens leaves no trace in the world, and a stream leaves no
more than that one file is counted while it is running.  So each statement here is about every
number of other open files at once, with one result for all of them.
-/

namespace RowReader

open RowReader.Action

variable {ω α : Type}

/-- Whatever else is open, the action has the result that it has in this world, and leaves the world
as it was. -/
def World.Aside (w : World ω) (act : Action (World ω) α) : Prop :=
  ∀ n, Yields act (w.counting n) (act w).result (w.counting n)

theorem World.aside_of_yields {w : World ω} {act : Action (World ω) α} {r : Except Error α}
    (ends : ∀ n, Yields act (w.counting n) r (w.counting n)) : w.Aside act := by
  intro n
  have here : Yields act w r w := ends w.openFiles
  rw [here.result]
  exact ends n

namespace RowFile

section

variable (srv : Server ω) {pf : RowFile} {w : World ω} (isLocal : pf.location.url? = none)

include isLocal

/-- A local row file fails to open, or opens one file, whatever else is open. -/
theorem openReader_counted :
    (∃ e, ∀ n, Yields (pf.openReader srv) (w.counting n) (.error e) (w.counting n)) ∨
    ∃ content f, w.files.read pf.location.name = .ok content ∧ f.closed = false ∧
      ∀ n, Yields (pf.openReader srv) (w.counting n) (.ok (pf.freshReader content, .stored f))
        (w.counting (n + 1)) := by
  cases found : w.files.read pf.location.name with
  | error e =>
    left
    refine ⟨World.openingError pf.location.name e, fun n => ?_⟩
    have missing : (w.counting n).files.read pf.location.name = .error e := found
    exact (yields_note _ _ _ _).bind (World.acquire_missing srv isLocal missing).bind_error
  | ok content =>
    let start : MemoryFile := { bytes := content.bytes }
    rcases (MemoryFile.honest content.bytes).checkMagic (rfl : MemoryFile.At content.bytes 0 start)
      with ⟨q, f, checked, rfl⟩
    have acquired (n : Nat) := World.acquire_stored (w := w.counting n) srv isLocal found
    have alike (n : Nat) : ∃ both, Yields (Handle.file srv).checkMagic
        (.stored start, w.counting (n + 1)) (magicCheck content.bytes) both ∧
        Handle.Counted w n { bytes := content.bytes, position := q } both :=
      (Handle.alongside srv w n).checkMagic.yields ⟨rfl, rfl⟩ checked
    cases judged : magicCheck content.bytes with
    | error e =>
      left
      refine ⟨e, fun n => ?_⟩
      rcases alike n with ⟨both, checked', there⟩
      rw [judged] at checked'
      have failed := Reader.openFile_reported pf.options content.decoding checked'
        ((magicCheck_error judged).2 pf.location.name)
      rw [((Handle.alongside srv w n).close _ _ there).2] at failed
      have ends : Yields (pf.openReader srv) (w.counting n) (.error e)
          ((Handle.file srv).close both).state.2 :=
        (yields_note _ _ _ _).bind ((acquired n).bind (Yields.holding (k := _) failed))
      rwa [there.close srv] at ends
    | ok size =>
      right
      refine ⟨content, { bytes := content.bytes, position := q }, rfl, rfl, fun n => ?_⟩
      rcases alike n with ⟨both, checked', -, rfl⟩
      rw [judged] at checked'
      have opened : Yields (Reader.openFile (Handle.file srv) pf.location.name _ _) _ _ _ :=
        Reader.openFile_framed pf.options content.decoding checked'
      exact (yields_note _ _ _ _).bind ((acquired n).bind opened.holding)

/-! ## Calls -/

variable (closable : ∀ content, w.files.read pf.location.name = .ok content →
  Reader.Closable content.decoding)

include closable

omit isLocal in
/-- A reader that has just been opened, over the file in memory and over the local file. -/
theorem freshReader_alongside {content : Content} {f : MemoryFile}
    (stored : w.files.read pf.location.name = .ok content) (isOpen : f.closed = false) (n : Nat) :
    Reader.Alongside (Handle.Counted w n) (pf.freshReader content, f)
      (pf.freshReader content, .stored f, w.counting (n + 1)) :=
  ⟨rfl, rfl, closable content stored, isOpen, rfl⟩

/-- A call that uses a reader and closes it. -/
theorem withReader_aside {use : Action (Reader × MemoryFile) α}
    {use' : Action (Reader × Handle × World ω) α}
    (alike : ∀ n, InStep (Reader.Alongside (Handle.Counted w n)) use use') :
    w.Aside (pf.withReader srv use') := by
  rcases openReader_counted srv (w := w) isLocal with ⟨e, failed⟩ | ⟨content, f, stored, isOpen, opened⟩
  · exact World.aside_of_yields fun n => withReader_unopened (failed n)
  · have used := yields_self use (pf.freshReader content, f)
    apply World.aside_of_yields (r := (use (pf.freshReader content, f)).result)
    intro n
    have here := freshReader_alongside closable stored isOpen n
    rcases (alike n).yields here used with ⟨both, used', there⟩
    rcases there.close_counted srv with ⟨r, h, closed⟩
    exact withReader_opened (opened n) used' closed

theorem numRows_aside : w.Aside (pf.numRows srv) :=
  withReader_aside srv isLocal closable fun n => Reader.inStep_numRows (Handle.alongside srv w n)

theorem numRowGroups_aside : w.Aside (pf.numRowGroups srv) :=
  withReader_aside srv isLocal closable fun n =>
    Reader.inStep_numRowGroups (Handle.alongside srv w n)

theorem read_aside : w.Aside (pf.read srv) := by
  rcases openReader_counted srv (w := w) isLocal with ⟨e, failed⟩ | ⟨content, f, stored, isOpen, opened⟩
  · exact World.aside_of_yields fun n => read_unopened (failed n)
  · apply World.aside_of_yields (r := (Pass.materialize (Reader.source MemoryFile.file)
      ({}, pf.freshReader content, f)).result)
    intro n
    have here := freshReader_alongside closable stored isOpen n
    rcases (Reader.source_alongside (Handle.alongside srv w n)).materialize here
      with ⟨results, u, v, there, -, closed⟩
    rcases there.close_counted srv with ⟨r, h, left⟩
    have left : ((Reader.source (Handle.file srv)).close v).state = (r, h, w.counting n) := left.state
    have pass := yields_self (Pass.materialize (Reader.source (Handle.file srv)))
      ({}, pf.freshReader content, .stored f, w.counting (n + 1))
    rw [left] at closed
    have ends := read_opened (opened n) pass
    rw [closed] at ends
    rw [results.eq]
    exact ends

/-- What is left of a row file once it was asked for its schema: the schema is kept, if it could be
found. -/
inductive Kept (srv : Server ω) (pf : RowFile) (w : World ω) : RowFile → Prop where
  | unasked : Kept srv pf w pf
  | asked {schema : Schema} (found : (readSchema srv (pf, w)).result = .ok schema) :
    Kept srv pf w { pf with schema := some schema }

/-- The schema is the same whether it is kept or not, and whatever else is open. -/
theorem readSchema_aside {kept : RowFile} (known : Kept srv pf w kept) :
    ∃ next, Kept srv pf w next ∧ ∀ n, Yields (readSchema srv) (kept, w.counting n)
      (readSchema srv (pf, w)).result (next, w.counting n) := by
  cases known with
  | @asked schema found =>
    refine ⟨_, .asked found, fun n => ?_⟩
    rw [found]
    exact readSchema_known rfl _
  | unasked =>
    cases unknown : pf.schema with
    | some schema =>
      refine ⟨pf, .unasked, fun n => ?_⟩
      rw [(readSchema_known unknown w).result]
      exact readSchema_known unknown _
    | none =>
      have ends : w.Aside (pf.withReader srv (Reader.readSchema (Handle.file srv))) :=
        withReader_aside srv isLocal closable fun n =>
          Reader.inStep_readSchema (Handle.alongside srv w n)
      have same := (readSchema_learned unknown (ends w.openFiles)).result
      change (readSchema srv (pf, w)).result = _ at same
      unfold World.Aside at ends
      generalize (pf.withReader srv (Reader.readSchema (Handle.file srv)) w).result = r at ends same
      rw [same]
      refine ⟨pf.learned r, ?_, fun n => readSchema_learned unknown (ends n)⟩
      cases r with
      | error e => exact .unasked
      | ok schema => exact .asked same

end

end RowFile

/-! ## Streams -/

/-- What can be done with a stream. -/
inductive StreamCall where
  | next
  | close

/-- The call is a pull, and a row came of it. -/
def StreamCall.handsOut : StreamCall → Except Error (Option Row) → Bool
  | .next, .ok (some _) => true
  | _, _ => false

namespace RowStream

/-- Makes a call; closing a stream gives no row. -/
def call (srv : Server ω) (pf : RowFile) : StreamCall → Action (RowStream × World ω) (Option Row)
  | .next => next srv pf
  | .close => do
    close srv
    return none

def isRunning : RowStream → Bool
  | running _ => true
  | _ => false

/-- How many files a stream keeps open. -/
def holds (stream : RowStream) : Nat :=
  stream.isRunning.toNat

/-- A stream that is running has an open local file under it, and both it and its reader can be
closed. -/
inductive Grounded : RowStream → Prop where
  | unopened : Grounded .unopened
  | running {progress : Progress RowGroup} {pass : Pass} {reader : Reader} {f : MemoryFile}
      (live : progress ≠ .ended) (isOpen : reader.closed = false)
      (closable : Reader.Closable reader.decoding) (fileOpen : f.closed = false) :
      Grounded (.running ⟨progress, pass, reader, .stored f⟩)
  | ended : Grounded .ended

/-- What a call of a stream comes to, whatever else is open: the answer, and the stream after it,
which is running if the call handed out a row. -/
structure Turns (srv : Server ω) (pf : RowFile) (w : World ω) (stream : RowStream) (c : StreamCall)
    (r : Except Error (Option Row)) (next : RowStream) : Prop where
  grounded : next.Grounded
  begun : next ≠ .unopened
  runs : next.isRunning = c.handsOut r
  yields : ∀ n, Yields (call srv pf c) (stream, w.counting (n + stream.holds)) r
    (next, w.counting (n + next.holds))

/-- A stream over a local file that is alike one over the file in memory. -/
theorem eq_of_alike {w : World ω} {n : Nat} {u : Streaming (Reader × MemoryFile) RowGroup}
    {v : Inner ω}
    (alike : Streaming.Alike (Reader.Alongside (Handle.Counted w n)) (fun _ => True) u v) :
    v = ⟨u.progress, u.pass, u.source.1, .stored u.source.2, w.counting (n + 1)⟩ := by
  rcases v with ⟨progress, pass, reader, both⟩
  rcases alike with ⟨progressed, passed, ⟨same, -, -, -, stored⟩, -⟩
  dsimp only at progressed passed same stored
  rw [← progressed, ← passed, same, stored]

section

variable (srv : Server ω) (pf : RowFile) {w : World ω} {progress : Progress RowGroup} {pass : Pass}
  {reader : Reader} {f : MemoryFile} (live : progress ≠ .ended)
  (here : ∀ n, Reader.Alongside (Handle.Counted w n) (reader, f)
    (reader, .stored f, w.counting (n + 1)))

include live here

/-- A pull of a running stream is a pull of the same stream over the file in memory. -/
theorem next_counted :
    let s : OpenStream := ⟨progress, pass, reader, .stored f⟩
    ∃ r after, after.Grounded ∧ after ≠ .unopened ∧
      after.isRunning = StreamCall.next.handsOut r ∧
      ∀ n, Yields (next srv pf) (.running s, w.counting (n + 1)) r
        (after, w.counting (n + after.holds)) := by
  intro s
  let m : Streaming (Reader × MemoryFile) RowGroup := ⟨progress, pass, reader, f⟩
  have mLive : m.Live := Streaming.live_iff.mpr live
  have sLive (n : Nat) : (s.streaming (w.counting (n + 1))).Live := mLive
  have alike (n : Nat) : Streaming.Alike (Reader.Alongside (Handle.Counted w n)) (fun _ => True) m
      (s.streaming (w.counting (n + 1))) := ⟨rfl, rfl, here n, fun _ _ _ => trivial⟩
  have both (n : Nat) :=
    (alike n).next (Reader.source_alongside (Handle.alongside srv w n)) mLive
  have outer {n : Nat} {r : Except Error (Option Row)} {v : Inner ω}
      (own : Yields (Streaming.next (source srv)) (s.streaming (w.counting (n + 1))) r v) :
      Yields (next srv pf) (.running s, w.counting (n + 1)) r (shown v) := by
    have shows := next_shown srv pf (s.streaming (w.counting (n + 1)))
    rw [own.result, own.state, shown_of_live (sLive n)] at shows
    exact shows
  -- The pull over the file in memory does not know how many files are open: it is the same for all.
  have pulled := yields_self (Streaming.next (Reader.source MemoryFile.file)) m
  generalize (Streaming.next (Reader.source MemoryFile.file) m).result = r at pulled
  generalize (Streaming.next (Reader.source MemoryFile.file) m).state = u at pulled
  by_cases found : ∃ row, r = .ok (some row)
  · rcases found with ⟨row, rfl⟩
    have uLive := Streaming.live_of_row _ mLive pulled
    rcases u with ⟨progress', pass', reader', f'⟩
    have live' : progress' ≠ .ended := Streaming.live_iff.mp uLive
    have after (n : Nat) : ∃ v, Yields (Streaming.next (source srv))
        (s.streaming (w.counting (n + 1))) (.ok (some row)) v ∧
        Streaming.Alike (Reader.Alongside (Handle.Counted w n)) (fun _ => True)
          ⟨progress', pass', reader', f'⟩ v := by
      cases both n with
      | row own own' onward =>
        rcases pulled.unique own with ⟨same, rfl⟩
        cases same
        exact ⟨_, own', onward⟩
      | ended own _ _ none_left => exact absurd (pulled.unique own).1.symm (none_left row)
    rcases after 0 with ⟨-, -, -, -, ⟨-, isOpen, closable, fileOpen, -⟩, -⟩
    refine ⟨.ok (some row), .running ⟨progress', pass', reader', .stored f'⟩,
      .running live' isOpen closable fileOpen, nofun, rfl, fun n => ?_⟩
    rcases after n with ⟨v, own, alongside⟩
    have shows := outer own
    rw [shown_of_live (Streaming.live_of_row _ (sLive n) own), eq_of_alike alongside] at shows
    exact shows
  · have none_left (row : Row) (same : r = .ok (some row)) : False := found ⟨row, same⟩
    refine ⟨r, .ended, .ended, nofun, ?_, fun n => ?_⟩
    · cases r with
      | error e => rfl
      | ok row? =>
        cases row? with
        | none => rfl
        | some row => exact absurd rfl (none_left row)
    · cases both n with
      | row own => exact absurd (pulled.unique own).1 (none_left _)
      | ended own own' results _ there _ _ closed =>
        rcases pulled.unique own with ⟨rfl, rfl⟩
        cases results.eq
        have shows := outer own'
        rcases there.close_counted srv with ⟨reader', h, left⟩
        have state : ((Reader.source (Handle.file srv)).close _).state = (reader', h, w.counting n) :=
          left.state
        rw [shown_of_ended (Streaming.shut_of_end _ (sLive n) own' none_left).1, closed, state]
          at shows
        exact shows

omit pf in
theorem close_counted (n : Nat) :
    Yields (close srv) (.running ⟨progress, pass, reader, .stored f⟩, w.counting (n + 1)) (.ok ())
      (.ended, w.counting n) := by
  let st : Inner ω := ⟨progress, pass, reader, .stored f, w.counting (n + 1)⟩
  have stLive : st.Live := Streaming.live_iff.mpr live
  rcases (here n).close_counted srv with ⟨reader', h, left⟩
  have closed := close_live srv stLive left.result
  rw [shown_of_live stLive] at closed
  have state : ((source srv).close st.source).state = (reader', h, w.counting n) := left.state
  rw [state] at closed
  exact closed

end

section

variable (srv : Server ω) {pf : RowFile} {w : World ω}

/-- A grounded stream can be closed, and its file with it. -/
theorem Grounded.close_yields (w : World ω) {stream : RowStream} (grounded : stream.Grounded)
    (n : Nat) :
    Yields (close srv) (stream, w.counting (n + stream.holds)) (.ok ()) (.ended, w.counting n) := by
  cases grounded with
  | unopened => exact ⟨rfl, rfl⟩
  | @running _ _ reader f live isOpen closable fileOpen =>
    have here (n : Nat) : Reader.Alongside (Handle.Counted w n) (reader, f)
        (reader, .stored f, w.counting (n + 1)) := ⟨rfl, isOpen, closable, fileOpen, rfl⟩
    exact close_counted srv live here n
  | ended => exact ⟨rfl, rfl⟩

variable (isLocal : pf.location.url? = none)
  (closable : ∀ content, w.files.read pf.location.name = .ok content →
    Reader.Closable content.decoding)

include isLocal closable

/-- Every call of a grounded stream has one answer and leaves one stream, whatever else is open. -/
theorem Grounded.turns {stream : RowStream} (grounded : stream.Grounded) (c : StreamCall) :
    ∃ r next, Turns srv pf w stream c r next := by
  cases c with
  | close =>
    have closed := grounded.close_yields srv w
    exact ⟨.ok none, .ended, .ended, nofun, rfl, fun n => (closed n).bind (yields_pure none _)⟩
  | next =>
    cases grounded with
    | running live isOpen closable fileOpen =>
      rcases next_counted srv pf live fun n => ⟨rfl, isOpen, closable, fileOpen, rfl⟩
        with ⟨r, next, after, begun, runs, pulled⟩
      exact ⟨r, next, after, begun, runs, pulled⟩
    | ended => exact ⟨.ok none, .ended, .ended, nofun, rfl, fun n => ⟨rfl, rfl⟩⟩
    | unopened =>
      rcases RowFile.openReader_counted srv (w := w) isLocal
        with ⟨e, failed⟩ | ⟨content, f, stored, isOpen, opened⟩
      · exact ⟨.error e.outOfIteration, .ended, .ended, nofun, rfl,
          fun n => next_unopened srv pf (failed n)⟩
      · have here := RowFile.freshReader_alongside closable stored isOpen
        have fresh : Progress.unstarted ≠ (.ended : Progress RowGroup) := nofun
        rcases next_counted srv pf fresh here with ⟨r, next, after, begun, runs, pulled⟩
        refine ⟨r, next, after, begun, runs, fun n => ?_⟩
        have first := next_begun srv pf (opened n)
        have second : Yields (RowStream.next srv pf)
            (.running (.begin (pf.freshReader content) (.stored f)), w.counting (n + 1)) _ _ :=
          pulled n
        dsimp only at first
        rw [second.result, second.state] at first
        exact first

end

end RowStream
end RowReader
