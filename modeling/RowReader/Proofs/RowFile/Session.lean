import Mathlib.Data.List.Dedup
import RowReader.Proofs.RowFile.Apart
import RowReader.Proofs.RowFile.Failures
import RowReader.Proofs.RowFile.Read
import RowReader.RowFile.Session

/-!
# Sessions with many streams

Streams over one row file are begun, pulled and closed in any order, between questions about the
file itself.  Each stream answers as it does alone, each question has the answer that it has before
anything else was done, and the files that are open are those of the streams in use.

What happens in a session is kept as a list of events.  The events of one stream are those under its
name since the name was begun last.
-/

namespace RowReader

open RowReader.Action

variable {ω : Type}

/-! ## One stream -/

namespace RowStream

/-- Calls of a stream one after another: their answers, and what they leave. -/
def play (srv : Server ω) (pf : RowFile) : List StreamCall → RowStream × World ω →
    List (Except Error (Option Row)) × RowStream × World ω
  | [], both => ([], both)
  | c :: rest, both =>
    let out := call srv pf c both
    let (answers, last) := play srv pf rest out.state
    (out.result :: answers, last)

/-- Calls of a stream with their answers. -/
abbrev Trace : Type := List (StreamCall × Except Error (Option Row))

/-- The stream was pulled, and neither has it ended nor has it been closed. -/
def inUse (trace : Trace) : Bool :=
  !trace.isEmpty && trace.all fun turn => turn.1.handsOut turn.2

theorem inUse_concat (trace : Trace) (c : StreamCall) (r : Except Error (Option Row)) :
    inUse (trace ++ [(c, r)]) = ((trace.isEmpty || inUse trace) && c.handsOut r) := by
  cases trace <;> simp [inUse, Bool.and_assoc]

section

variable {srv : Server ω} {pf : RowFile} {w : World ω}

theorem play_concat (calls : List StreamCall) {c : StreamCall} {both middle last : RowStream × World ω}
    {answers : List (Except Error (Option Row))} {r : Except Error (Option Row)}
    (played : play srv pf calls both = (answers, middle))
    (ends : Yields (call srv pf c) middle r last) :
    play srv pf (calls ++ [c]) both = (answers ++ [r], last) := by
  induction calls generalizing both answers with
  | nil =>
    cases played
    simp only [List.nil_append, play, ends.result, ends.state]
  | cons first rest ih =>
    simp only [play] at played
    cases played
    simp only [List.cons_append, play, ih rfl]

theorem close_of_call {both last : RowStream × World ω} {r : Except Error (Option Row)}
    (ends : Yields (call srv pf .close) both r last) :
    ∃ q, Yields (close srv) both q last ∧ q.map (fun _ => none) = r := by
  have closed := yields_self (close srv) both
  generalize (close srv both).result = q at closed
  refine ⟨q, ?_⟩
  cases q with
  | ok done =>
    rcases ends.unique (closed.bind (yields_pure none _)) with ⟨rfl, rfl⟩
    exact ⟨closed, rfl⟩
  | error e =>
    rcases ends.unique closed.bind_error with ⟨rfl, rfl⟩
    exact ⟨closed, rfl⟩

/-- The trace is that of a stream alone, which is now this one. -/
structure Lone (srv : Server ω) (pf : RowFile) (w : World ω) (trace : Trace) (stream : RowStream) :
    Prop where
  grounded : stream.Grounded
  untouched : trace = [] → stream = .unopened
  begun : trace ≠ [] → stream ≠ .unopened
  runs : stream.isRunning = inUse trace
  played : play srv pf (trace.map Prod.fst) (.unopened, w) =
    (trace.map Prod.snd, stream, w.counting (w.openFiles + stream.holds))

theorem lone_unopened : Lone srv pf w [] .unopened :=
  ⟨.unopened, fun _ => rfl, fun some => absurd rfl some, rfl, rfl⟩

/-- One call more. -/
theorem Lone.turn {trace : Trace} {stream next : RowStream} {c : StreamCall}
    {r : Except Error (Option Row)} (lone : Lone srv pf w trace stream)
    (turns : Turns srv pf w stream c r next) : Lone srv pf w (trace ++ [(c, r)]) next := by
  refine ⟨turns.grounded, fun none => absurd none (by simp), fun _ => turns.begun, ?_, ?_⟩
  · rw [turns.runs, inUse_concat]
    rcases trace with _ | ⟨first, rest⟩
    · simp
    · -- A stream that is not in use any more hands out nothing.
      have idle (spent : stream.isRunning = false) : c.handsOut r = false := by
        cases stream with
        | unopened => exact absurd rfl (lone.begun nofun)
        | running s => cases spent
        | ended =>
          cases c with
          | close => rfl
          | next =>
            have nothing : r = .ok none := (turns.yields 0).result.symm
            rw [nothing]
            rfl
      cases used : inUse (first :: rest) with
      | true => simp
      | false => simp [idle (lone.runs.trans used)]
  · rw [List.map_append, List.map_append]
    exact play_concat _ lone.played (turns.yields w.openFiles)

end

end RowStream

/-! ## Questions about the file -/

/-- What a row file can be asked. -/
inductive Question where
  | schema
  | dataset
  | numRows
  | numRowGroups

def Question.Answer : Question → Type
  | schema => Schema
  | dataset => Dataset
  | numRows => Int
  | numRowGroups => Nat

namespace RowFile

/-- Makes a call that does not change the row file. -/
def unchanged {α : Type} (act : RowFile → Action (World ω) α) : Action (RowFile × World ω) α :=
  fun both => Action.onPart Prod.snd (fun w both => (both.1, w)) (act both.1) both

/-- Answers a question. -/
def ask (srv : Server ω) : (q : Question) → Action (RowFile × World ω) q.Answer
  | .schema => readSchema srv
  | .dataset => unchanged fun pf => pf.read srv
  | .numRows => unchanged fun pf => pf.numRows srv
  | .numRowGroups => unchanged fun pf => pf.numRowGroups srv

section

variable (srv : Server ω) {pf : RowFile} {w : World ω}

/-- A call that ignores the schema does so whether it is kept or not. -/
theorem unchanged_aside {α : Type} {act : RowFile → Action (World ω) α}
    (blind : ∀ pf schema, act { pf with schema } = act pf) (aside : w.Aside (act pf))
    {kept : RowFile} (known : Kept srv pf w kept) (n : Nat) :
    Yields (unchanged act) (kept, w.counting n) (unchanged act (pf, w)).result
      (kept, w.counting n) := by
  have same : act kept = act pf := by
    cases known with
    | unasked => rfl
    | asked found => exact blind pf _
  have ends : Yields (act kept) (w.counting n) (act pf w).result (w.counting n) := same ▸ aside n
  exact ⟨ends.result, congrArg (Prod.mk kept) ends.state⟩

variable (isLocal : pf.location.url? = none)
  (closable : ∀ content, w.files.read pf.location.name = .ok content →
    Reader.Closable content.decoding)

include isLocal closable

/-- Every question has one answer, whatever was asked before and whatever else is open. -/
theorem ask_aside {kept : RowFile} (known : Kept srv pf w kept) (q : Question) :
    ∃ next, Kept srv pf w next ∧ ∀ n, Yields (ask srv q) (kept, w.counting n)
      (ask srv q (pf, w)).result (next, w.counting n) := by
  cases q with
  | schema => exact readSchema_aside srv isLocal closable known
  | dataset =>
    exact ⟨kept, known, unchanged_aside srv (fun _ _ => rfl) (read_aside srv isLocal closable) known⟩
  | numRows =>
    exact ⟨kept, known,
      unchanged_aside srv (fun _ _ => rfl) (numRows_aside srv isLocal closable) known⟩
  | numRowGroups =>
    exact ⟨kept, known,
      unchanged_aside srv (fun _ _ => rfl) (numRowGroups_aside srv isLocal closable) known⟩

end

end RowFile

/-! ## Sessions -/

/-- What can be done in a session. -/
inductive SessionCall where
  | begin (name : String)
  | stream (name : String) (c : StreamCall)
  | ask (q : Question)

/-- What happens in a session. -/
inductive SessionEvent where
  | begun (name : String)
  | streamed (name : String) (c : StreamCall) (answer : Except Error (Option Row))
  | asked (q : Question) (answer : Except Error q.Answer)

namespace SessionEvent

/-- The name that is begun. -/
def begun? : SessionEvent → Option String
  | begun name => some name
  | _ => none

/-- Enters an event in the trace of the stream of a name. -/
def enter (name : String) (trace : RowStream.Trace) : SessionEvent → RowStream.Trace
  | begun other => if other = name then [] else trace
  | streamed other c answer => if other = name then trace ++ [(c, answer)] else trace
  | asked _ _ => trace

/-- What happened to the stream of a name since it was begun last. -/
def since (name : String) (events : List SessionEvent) : RowStream.Trace :=
  events.foldl (enter name) []

theorem since_concat (name : String) (events : List SessionEvent) (e : SessionEvent) :
    since name (events ++ [e]) = enter name (since name events) e := by
  rw [since, List.foldl_append]
  rfl

end SessionEvent

namespace FileSession

open SessionEvent

/-- Makes a call, and says what happens. -/
def perform (srv : Server ω) (s : FileSession ω) : SessionCall → SessionEvent × FileSession ω
  | .begin name => (.begun name, (beginStream srv name s).state)
  | .stream name .next =>
    (.streamed name .next (next srv name s).result, (next srv name s).state)
  | .stream name .close =>
    (.streamed name .close ((close srv name s).result.map fun _ => none), (close srv name s).state)
  | .ask q => (.asked q (onFile (RowFile.ask srv q) s).result, (onFile (RowFile.ask srv q) s).state)

/-- Calls one after another: what happens, and the session they leave. -/
def play (srv : Server ω) : List SessionCall → FileSession ω → List SessionEvent × FileSession ω
  | [], s => ([], s)
  | c :: rest, s =>
    let (event, left) := perform srv s c
    let (events, last) := play srv rest left
    (event :: events, last)

/-! ## Streams by name -/

theorem runningStreams_eq (s : FileSession ω) :
    s.runningStreams = s.streams.countP fun entry => entry.2.isRunning := by
  unfold runningStreams RowStream.isRunning
  rfl

/-- How many files the streams of other names keep open. -/
def otherFiles (s : FileSession ω) (name : String) : Nat :=
  (s.streams.filter fun entry => entry.1 != name).countP fun entry => entry.2.isRunning

theorem runningStreams_put (s : FileSession ω) (name : String) (stream : RowStream) :
    (s.put name stream).runningStreams = s.otherFiles name + stream.holds := by
  rw [runningStreams_eq, put, List.countP_append, otherFiles, List.countP_singleton,
    RowStream.holds]
  cases stream.isRunning <;> rfl

theorem put_put (s : FileSession ω) (name : String) (stream other : RowStream) (w : World ω) :
    ({ s.put name stream with world := w } : FileSession ω).put name other =
      { s.put name other with world := w } := by
  simp [put, List.filter_append, List.filter_filter]

theorem mem_put {s : FileSession ω} {name : String} {stream : RowStream}
    {entry : String × RowStream} :
    entry ∈ (s.put name stream).streams ↔
      (entry ∈ s.streams ∧ entry.1 ≠ name) ∨ entry = (name, stream) := by
  simp [put]

theorem mem_names_put {s : FileSession ω} {name : String} {stream : RowStream} {other : String} :
    other ∈ (s.put name stream).streams.map Prod.fst ↔
      other ∈ s.streams.map Prod.fst ∨ other = name := by
  by_cases same : other = name
  · subst same
    simp [put]
  · simp [put, same]

theorem nodup_names_put {s : FileSession ω} (nodup : (s.streams.map Prod.fst).Nodup) (name : String)
    (stream : RowStream) : ((s.put name stream).streams.map Prod.fst).Nodup := by
  have kept := nodup.sublist ((List.filter_sublist (p := fun entry => entry.1 != name)).map Prod.fst)
  rw [put, List.map_append]
  refine List.nodup_append.mpr ⟨kept, List.nodup_singleton name, ?_⟩
  intro other member
  simp at member
  simp [member.2]

theorem mem_of_stream? {s : FileSession ω} {name : String} {stream : RowStream}
    (found : s.stream? name = some stream) : (name, stream) ∈ s.streams := by
  rcases Option.map_eq_some_iff.mp found with ⟨⟨other, _⟩, entry, rfl⟩
  have same : other = name := by simpa using List.find?_some entry
  exact same ▸ List.mem_of_find?_eq_some entry

theorem stream?_eq_none {s : FileSession ω} {name : String} :
    s.stream? name = none ↔ name ∉ s.streams.map Prod.fst := by
  rw [stream?, Option.map_eq_none_iff, List.find?_eq_none]
  constructor
  · intro unnamed named
    rcases List.mem_map.mp named with ⟨entry, member, rfl⟩
    exact unnamed entry member (beq_self_eq_true _)
  · intro fresh entry member same
    exact fresh (eq_of_beq same ▸ List.mem_map_of_mem member)

theorem filter_of_fresh {streams : List (String × RowStream)} {name : String}
    (fresh : name ∉ streams.map Prod.fst) :
    streams.filter (fun entry => entry.1 != name) = streams := by
  rw [List.filter_eq_self]
  rintro ⟨other, stream⟩ there
  have apart : other ≠ name := fun same => fresh (same ▸ List.mem_map_of_mem there)
  simpa using apart

/-- A stream stands beside those of the other names. -/
theorem perm_filter {streams : List (String × RowStream)} (nodup : (streams.map Prod.fst).Nodup)
    {name : String} {stream : RowStream} (member : (name, stream) ∈ streams) :
    streams.Perm ((name, stream) :: streams.filter fun entry => entry.1 != name) := by
  induction streams with
  | nil => cases member
  | cons entry rest ih =>
    rw [List.map_cons, List.nodup_cons] at nodup
    rcases List.mem_cons.mp member with rfl | later
    · rw [List.filter_cons_of_neg (by simp), filter_of_fresh nodup.1]
    · have apart : entry.1 ≠ name := fun same => nodup.1 (same ▸ List.mem_map_of_mem later)
      rw [List.filter_cons_of_pos (by simpa using apart)]
      exact ((ih nodup.2 later).cons entry).trans (List.Perm.swap _ _ _)

theorem runningStreams_of_mem {s : FileSession ω} (nodup : (s.streams.map Prod.fst).Nodup)
    {name : String} {stream : RowStream} (member : (name, stream) ∈ s.streams) :
    s.runningStreams = s.otherFiles name + stream.holds := by
  rw [runningStreams_eq, (perm_filter nodup member).countP_eq, List.countP_cons, RowStream.holds]
  cases stream.isRunning <;> rfl

theorem runningStreams_of_fresh {s : FileSession ω} {name : String}
    (fresh : name ∉ s.streams.map Prod.fst) : s.runningStreams = s.otherFiles name := by
  rw [runningStreams_eq, otherFiles, filter_of_fresh fresh]

theorem onStream_absent {α : Type} {s : FileSession ω} {name : String} (absent : s.stream? name = none)
    (default : α) (act : Action (RowStream × World ω) α) :
    Yields (onStream name default act) s (.ok default) s := by
  constructor <;> simp only [onStream, absent]

theorem onStream_present {α : Type} {s : FileSession ω} {name : String} {stream next : RowStream}
    {w : World ω} {r : Except Error α} (found : s.stream? name = some stream) (default : α)
    {act : Action (RowStream × World ω) α} (ends : Yields act (stream, s.world) r (next, w)) :
    Yields (onStream name default act) s r { s.put name next with world := w } := by
  constructor
  · simp only [onStream, found, Outcome.mapState_result, ends.result]
  · simp only [onStream, found, Outcome.mapState_state, ends.state]

/-! ## What holds all along a session -/

section

variable (srv : Server ω) {pf : RowFile} {w : World ω} {history : List SessionEvent}
  {s : FileSession ω}

/-- The session is what this history makes of it: nothing but the running streams is open, each
stream is what it would be alone, and every question had the answer it has at the beginning. -/
structure Sound (pf : RowFile) (w : World ω) (history : List SessionEvent) (s : FileSession ω) :
    Prop where
  file : RowFile.Kept srv pf w s.file
  world : s.world = w.counting (w.openFiles + s.runningStreams)
  names : (s.streams.map Prod.fst).Nodup
  begun : ∀ name, name ∈ s.streams.map Prod.fst ↔ SessionEvent.begun name ∈ history
  lone : ∀ name stream, (name, stream) ∈ s.streams →
    RowStream.Lone srv pf w (since name history) stream
  told : ∀ q answer, SessionEvent.asked q answer ∈ history →
    answer = (RowFile.ask srv q (pf, w)).result

theorem sound_start : Sound srv pf w [] { file := pf, world := w } where
  file := .unasked
  world := rfl
  names := .nil
  begun := by simp
  lone := fun _ _ member => absurd member List.not_mem_nil
  told := fun _ _ member => absurd member List.not_mem_nil

variable {srv}

/-- An event that concerns no stream of the session leaves the streams as they are. -/
theorem Sound.stay (sound : Sound srv pf w history s) {e : SessionEvent} {file : RowFile}
    (kept : RowFile.Kept srv pf w file)
    (apart : ∀ name ∈ s.streams.map Prod.fst, ∀ trace, enter name trace e = trace)
    (unbegun : ∀ name, e ≠ .begun name)
    (told : ∀ q answer, e = .asked q answer → answer = (RowFile.ask srv q (pf, w)).result) :
    Sound srv pf w (history ++ [e]) { s with file } where
  file := kept
  world := sound.world
  names := sound.names
  begun := by
    intro name
    rw [sound.begun, List.mem_append, List.mem_singleton]
    exact (or_iff_left fun same => unbegun name same.symm).symm
  lone := by
    intro name stream member
    rw [since_concat, apart name (List.mem_map_of_mem member)]
    exact sound.lone name stream member
  told := by
    intro q answer member
    rcases List.mem_append.mp member with early | last
    · exact sound.told q answer early
    · exact told q answer (List.mem_singleton.mp last).symm

/-- An event of one stream, which is then another one. -/
theorem Sound.put (sound : Sound srv pf w history s) {e : SessionEvent} {name : String}
    {next : RowStream} (apart : ∀ other ≠ name, ∀ trace, enter other trace e = trace)
    (begun : ∀ other, .begun other ∈ history ++ [e] ↔ .begun other ∈ history ∨ other = name)
    (untold : ∀ q answer, e ≠ .asked q answer)
    (lone : RowStream.Lone srv pf w (enter name (since name history) e) next) :
    Sound srv pf w (history ++ [e])
      { s.put name next with world := w.counting (w.openFiles + s.otherFiles name + next.holds) } where
  file := sound.file
  world := by
    change w.counting _ = w.counting (w.openFiles + (s.put name next).runningStreams)
    rw [runningStreams_put, Nat.add_assoc]
  names := nodup_names_put sound.names name next
  begun := fun other => mem_names_put.trans (by rw [begun, sound.begun])
  lone := by
    intro other stream member
    rw [since_concat]
    rcases mem_put.mp member with ⟨there, different⟩ | same
    · rw [apart other different]
      exact sound.lone other stream there
    · cases same
      exact lone
  told := by
    intro q answer member
    rcases List.mem_append.mp member with early | last
    · exact sound.told q answer early
    · exact absurd (List.mem_singleton.mp last).symm (untold q answer)

/-- The world beside one stream. -/
theorem Sound.world_of_stream? (sound : Sound srv pf w history s) {name : String}
    {stream : RowStream} (found : s.stream? name = some stream) :
    s.world = w.counting (w.openFiles + s.otherFiles name + stream.holds) := by
  rw [sound.world, runningStreams_of_mem sound.names (mem_of_stream? found), Nat.add_assoc]

theorem Sound.world_of_fresh (sound : Sound srv pf w history s) {name : String}
    (fresh : s.stream? name = none) :
    s.world = w.counting (w.openFiles + s.otherFiles name) := by
  rw [sound.world, runningStreams_of_fresh (stream?_eq_none.mp fresh)]

/-- Beginning a stream closes the stream that had the name, if there was one, and opens nothing. -/
theorem Sound.begins (sound : Sound srv pf w history s) (name : String) :
    Yields (beginStream srv name) s (.ok ())
      { s.put name .unopened with world := w.counting (w.openFiles + s.otherFiles name) } := by
  cases found : s.stream? name with
  | none =>
    have released : Yields (release srv name) s (.ok ()) s := onStream_absent found () _
    rw [← sound.world_of_fresh found]
    exact released.bind (yields_modifyState _ s)
  | some stream =>
    have lone := sound.lone name stream (mem_of_stream? found)
    have closed := lone.grounded.close_yields srv w (w.openFiles + s.otherFiles name)
    rw [← sound.world_of_stream? found] at closed
    have released : Yields (release srv name) s (.ok ()) _ :=
      onStream_present found () closed.rescue_ok
    rw [← put_put s name .ended]
    exact released.bind (yields_modifyState _ _)

/-- A call of a stream is the call of that stream alone. -/
theorem perform_stream {name : String} {stream next : RowStream} {w' : World ω}
    (found : s.stream? name = some stream) {c : StreamCall} {r : Except Error (Option Row)}
    (ends : Yields (RowStream.call srv s.file c) (stream, s.world) r (next, w')) :
    perform srv s (.stream name c) = (.streamed name c r, { s.put name next with world := w' }) := by
  cases c with
  | next =>
    have pulled := onStream_present found none ends
    have whole : Yields (FileSession.next srv name) s r _ := ⟨pulled.result, pulled.state⟩
    simp only [perform, whole.result, whole.state]
  | close =>
    rcases RowStream.close_of_call ends with ⟨q, closed, rfl⟩
    have whole : Yields (FileSession.close srv name) s q _ := onStream_present found () closed
    simp only [perform, whole.result, whole.state]

theorem call_kept {kept : RowFile} (known : RowFile.Kept srv pf w kept) (c : StreamCall) :
    RowStream.call srv kept c = RowStream.call srv pf c := by
  cases known with
  | unasked => rfl
  | asked found => cases c <;> rfl

variable (isLocal : pf.location.url? = none)
  (closable : ∀ content, w.files.read pf.location.name = .ok content →
    Reader.Closable content.decoding)

include isLocal closable

/-- Every call keeps what holds of a session. -/
theorem Sound.perform (sound : Sound srv pf w history s) (c : SessionCall) :
    Sound srv pf w (history ++ [(perform srv s c).1]) (perform srv s c).2 := by
  cases c with
  | begin name =>
    have begins := sound.begins name
    simp only [FileSession.perform, begins.state]
    have lone : RowStream.Lone srv pf w (enter name (since name history) (.begun name)) .unopened := by
      rw [enter, if_pos rfl]
      exact RowStream.lone_unopened
    refine sound.put ?_ ?_ (fun _ _ => nofun) lone
    · intro other different trace
      exact if_neg (Ne.symm different)
    · intro other
      simp [eq_comm]
  | stream name c =>
    cases found : s.stream? name with
    | none =>
      -- A stream that was never begun has nothing to answer with.
      have absent : FileSession.perform srv s (.stream name c) = (.streamed name c (.ok none), s) := by
        cases c with
        | next =>
          have idle := onStream_absent found none (RowStream.next srv s.file)
          have whole : Yields (FileSession.next srv name) s _ _ := ⟨idle.result, idle.state⟩
          simp only [FileSession.perform, whole.result, whole.state]
        | close =>
          have whole : Yields (FileSession.close srv name) s _ _ := onStream_absent found () _
          simp only [FileSession.perform, whole.result, whole.state]
          rfl
      rw [absent]
      refine sound.stay sound.file ?_ (fun _ => nofun) fun _ _ => nofun
      intro other member trace
      apply if_neg
      rintro rfl
      exact stream?_eq_none.mp found member
    | some stream =>
      have lone := sound.lone name stream (mem_of_stream? found)
      rcases lone.grounded.turns srv isLocal closable c with ⟨r, next, turns⟩
      have ends := turns.yields (w.openFiles + s.otherFiles name)
      rw [← call_kept sound.file, ← sound.world_of_stream? found] at ends
      rw [perform_stream found ends]
      have after : RowStream.Lone srv pf w
          (enter name (since name history) (.streamed name c r)) next := by
        rw [enter, if_pos rfl]
        exact lone.turn turns
      have listed := (sound.begun name).mp (List.mem_map_of_mem (mem_of_stream? found))
      refine sound.put ?_ ?_ (fun _ _ => nofun) after
      · intro other different trace
        exact if_neg (Ne.symm different)
      · intro other
        rw [List.mem_append, List.mem_singleton, or_iff_left nofun, iff_self_or]
        rintro rfl
        exact listed
  | ask q =>
    rcases RowFile.ask_aside srv isLocal closable sound.file q with ⟨next, kept, asked⟩
    have asked := asked (w.openFiles + s.runningStreams)
    rw [← sound.world] at asked
    have whole : Yields (onFile (RowFile.ask srv q)) s _ { s with file := next } :=
      ⟨asked.result, congrArg (fun both : RowFile × World ω =>
        ({ s with file := both.1, world := both.2 } : FileSession ω)) asked.state⟩
    simp only [FileSession.perform, whole.result, whole.state]
    refine sound.stay kept (fun _ _ _ => rfl) (fun _ => nofun) ?_
    rintro _ _ ⟨⟩
    rfl

/-- So does every sequence of calls. -/
theorem Sound.play (sound : Sound srv pf w history s) (calls : List SessionCall) :
    Sound srv pf w (history ++ (play srv calls s).1) (play srv calls s).2 := by
  induction calls generalizing history s with
  | nil => simpa [FileSession.play] using sound
  | cons c rest ih =>
    have after := ih (sound.perform isLocal closable c)
    rw [List.append_assoc, List.singleton_append] at after
    exact after

omit isLocal closable

/-- The names that streams were begun under. -/
def begunNames (history : List SessionEvent) : List String :=
  (history.filterMap begun?).dedup

theorem mem_begunNames {name : String} : name ∈ begunNames history ↔ .begun name ∈ history := by
  rw [begunNames, List.mem_dedup, List.mem_filterMap]
  constructor
  · rintro ⟨e, member, named⟩
    cases e with
    | begun other =>
      cases named
      exact member
    | _ => cases named
  · exact fun member => ⟨_, member, rfl⟩

/-- The streams that run are those in use. -/
theorem Sound.runningStreams_eq (sound : Sound srv pf w history s) :
    s.runningStreams = (begunNames history).countP fun name => RowStream.inUse (since name history) := by
  have listed : (s.streams.map Prod.fst).Perm (begunNames history) :=
    (List.perm_ext_iff_of_nodup sound.names (List.nodup_dedup _)).mpr fun name => by
      rw [sound.begun]
      exact mem_begunNames.symm
  rw [← listed.countP_eq, List.countP_map, FileSession.runningStreams_eq]
  apply List.countP_congr
  rintro ⟨name, stream⟩ member
  rw [(sound.lone name stream member).runs]
  rfl

/-- The stream that was begun under a name is there. -/
theorem Sound.stream_of_begun (sound : Sound srv pf w history s) {name : String}
    (begun : .begun name ∈ history) :
    ∃ stream, s.stream? name = some stream ∧ RowStream.Lone srv pf w (since name history) stream := by
  cases found : s.stream? name with
  | none => exact absurd ((sound.begun name).mpr begun) (stream?_eq_none.mp found)
  | some stream => exact ⟨stream, rfl, sound.lone name stream (mem_of_stream? found)⟩

/-- What can be said of a session by what happened in it: everything in it is as it would be without
the rest, but for the number of open files. -/
structure Apart (srv : Server ω) (pf : RowFile) (w : World ω) (history : List SessionEvent)
    (s : FileSession ω) : Prop where
  /-- A stream has answered as it does alone, from its beginning on. -/
  alone : ∀ name, .begun name ∈ history →
    let trace := since name history
    (RowStream.play srv pf (trace.map Prod.fst) (.unopened, w)).1 = trace.map Prod.snd
  /-- Every question had the answer that it has at first. -/
  told : ∀ q answer, .asked q answer ∈ history → answer = (RowFile.ask srv q (pf, w)).result
  /-- Each stream in use has one file open beside those that were open before, and else nothing in
  the world has changed. -/
  open_files : s.world = w.counting (w.openFiles +
    (begunNames history).countP fun name => RowStream.inUse (since name history))
  /-- To begin a stream opens nothing. -/
  begin_opens : ∀ name, .begun name ∉ history →
    (beginStream srv name s).result = .ok () ∧ (beginStream srv name s).state.world = s.world
  /-- The first pull raises what opening raises, with nothing left open. -/
  pull_raises : ∀ name, .begun name ∈ history → since name history = [] →
    ∀ e, (pf.openReader srv s.world).result = .error e →
      (next srv name s).result = .error e ∧ (next srv name s).state.world = s.world
  /-- Otherwise the first pull opens one file and pulls a row from it. -/
  pull_opens : ∀ name, .begun name ∈ history → since name history = [] →
    ∀ reader handle, (pf.openReader srv s.world).result = .ok (reader, handle) →
      let opened := (pf.openReader srv s.world).state
      let pulled := RowStream.next srv pf (.running (.begin reader handle), opened)
      opened.openFiles = s.world.openFiles + 1 ∧ (next srv name s).result = pulled.result ∧
        (next srv name s).state.world = pulled.state.2

/-- A stream that nothing was asked of begins with its first pull. -/
theorem Sound.next_begins (sound : Sound srv pf w history s) {name : String}
    (begun : .begun name ∈ history) (untouched : since name history = [])
    {r : Except Error (Option Row)} {stream : RowStream} {w' : World ω}
    (ends : Yields (RowStream.next srv pf) (.unopened, s.world) r (stream, w')) :
    (next srv name s).result = r ∧ (next srv name s).state.world = w' := by
  rcases sound.stream_of_begun begun with ⟨_, found, lone⟩
  cases lone.untouched untouched
  have same : RowStream.next srv s.file = RowStream.next srv pf := call_kept sound.file .next
  have whole := onStream_present found none (same ▸ ends)
  exact ⟨whole.result, congrArg FileSession.world whole.state⟩

theorem Sound.apart (sound : Sound srv pf w history s) (isLocal : pf.location.url? = none) :
    Apart srv pf w history s where
  alone := by
    intro name begun
    rcases sound.stream_of_begun begun with ⟨stream, -, lone⟩
    exact congrArg Prod.fst lone.played
  told := sound.told
  open_files := by
    rw [← sound.runningStreams_eq]
    exact sound.world
  begin_opens := by
    intro name fresh
    have absent : s.stream? name = none :=
      stream?_eq_none.mpr fun there => fresh ((sound.begun name).mp there)
    rw [(sound.begins name).result, (sound.begins name).state]
    exact ⟨rfl, (sound.world_of_fresh absent).symm⟩
  pull_raises := by
    intro name begun untouched e raised
    have failed := yields_self (pf.openReader srv) s.world
    have kept := RowFile.outOfIteration_of_openReader srv s.world isLocal raised
    have left : (pf.openReader srv s.world).state = s.world := by
      rw [sound.world] at failed raised ⊢
      rcases RowFile.openReader_counted srv (w := w) isLocal with ⟨_, fails⟩ | ⟨_, _, _, _, opens⟩
      · exact (fails _).state
      · cases raised.symm.trans (opens _).result
    rw [raised, left] at failed
    have pulled := RowStream.next_unopened srv pf failed
    rw [kept] at pulled
    exact sound.next_begins begun untouched pulled
  pull_opens := by
    intro name begun untouched reader handle found
    have opened := yields_self (pf.openReader srv) s.world
    rw [found] at opened
    refine ⟨?_, sound.next_begins begun untouched (RowStream.next_begun srv pf opened)⟩
    rw [sound.world] at found ⊢
    rcases RowFile.openReader_counted srv (w := w) isLocal with ⟨_, fails⟩ | ⟨_, _, _, _, opens⟩
    · cases found.symm.trans (fails _).result
    · rw [(opens _).state]
      rfl

/-- However the calls of many streams over one local file and the questions about the file are mixed,
none of them shows in another. -/
theorem streams_apart (srv : Server ω) (isLocal : pf.location.url? = none)
    (closable : ∀ content, w.files.read pf.location.name = .ok content →
      Reader.Closable content.decoding) (calls : List SessionCall) :
    let played := play srv calls { file := pf, world := w }
    Apart srv pf w played.1 played.2 :=
  ((sound_start srv).play isLocal closable calls).apart isLocal

/-- Two streams over the letters, one of which is closed between the two pulls of the other. -/
def mixedCalls : List SessionCall :=
  [.begin "a", .stream "a" .next, .begin "b", .stream "b" .next, .ask .dataset, .stream "a" .close,
    .stream "b" .next]

/-- The other stream gets what it gets alone, and so does whoever reads the whole file between. -/
theorem streams_apart_of_letters :
    let played := play Server.unreachable mixedCalls
      { file := RowFile.lettersFirst, world := RowFile.lettersWorld }
    let history := played.1
    (RowStream.play Server.unreachable RowFile.lettersFirst [.next, .next]
      (.unopened, RowFile.lettersWorld)).1 = (since "b" history).map Prod.snd ∧
    history[4]? = some (.asked .dataset
      (RowFile.lettersFirst.read Server.unreachable RowFile.lettersWorld).result) ∧
    played.2.world = RowFile.lettersWorld.counting
      (RowFile.lettersWorld.openFiles +
        ["a", "b"].countP fun name => RowStream.inUse (since name history)) := by
  intro played history
  have closable : ∀ content, RowFile.lettersWorld.files.read "letters" = .ok content →
      Reader.Closable content.decoding := by
    rintro content ⟨⟩ d ⟨⟩ e ⟨⟩
  have apart : Apart Server.unreachable RowFile.lettersFirst RowFile.lettersWorld history played.2 :=
    streams_apart Server.unreachable rfl closable mixedCalls
  have begun : .begun "b" ∈ history := List.mem_of_getElem? (i := 2) rfl
  have asked : ∃ answer, history[4]? = some (.asked .dataset answer) := ⟨_, rfl⟩
  rcases asked with ⟨answer, fifth⟩
  have told : answer = (RowFile.lettersFirst.read Server.unreachable RowFile.lettersWorld).result :=
    apart.told .dataset answer (List.mem_of_getElem? fifth)
  rw [told] at fifth
  have listed : history.filterMap begun? = ["a", "b"] := rfl
  have names : begunNames history = ["a", "b"] := by
    rw [begunNames, listed]
    decide
  refine ⟨apart.alone "b" begun, fifth, ?_⟩
  rw [← names]
  exact apart.open_files

end

end FileSession
end RowReader
