import RowReader.Proofs.Remote.RangeFile
import RowReader.Proofs.Remote.Scripted

/-!
# Ranged files refine a cursor

Whatever is read, sought and asked on a ranged file, in whatever order, its replies are those of a
cursor over the bytes that the server holds.  One call is one step of the cursor, by the invariant
of ranged files; a sequence of calls follows by induction.
-/

namespace RowReader

open RowReader.Action

namespace RangeFile

variable {ω : Type}

/-- Moves by an offset from the origin of a code, if the code means one. -/
def seekBy (offset whence : Int) : Action (RangeFile × ω) Nat := do
  seek offset (← Action.ofExcept (whenceOf whence))

/-- Answers one call; the file and the server are left as the call leaves them. -/
def respond (srv : Server ω) (both : RangeFile × ω) : Cursor.Call → Cursor.Reply × RangeFile × ω
  | .read count => (.data (read srv count both).result, (read srv count both).state)
  | .seek offset whence =>
    (.position (seekBy offset whence both).result, (seekBy offset whence both).state)
  | .tell => (.position (.ok both.1.position), both)

/-- The replies to a sequence of calls. -/
def replies (srv : Server ω) : List Cursor.Call → RangeFile × ω → List Cursor.Reply
  | [], _ => []
  | call :: rest, both => (respond srv both call).1 :: replies srv rest (respond srv both call).2

/-- The file and the server after a sequence of calls. -/
def after (srv : Server ω) : List Cursor.Call → RangeFile × ω → RangeFile × ω
  | [], both => both
  | call :: rest, both => after srv rest (respond srv both call).2

variable {srv : Server ω} {url : String} {bytes : List UInt8} {manner : Manner} {good : ω → Prop}
  {both : RangeFile × ω}

/-- The file is sound and the server is in one of the states in which it holds the bytes. -/
structure Served (manner : Manner) (url : String) (bytes : List UInt8) (good : ω → Prop)
    (both : RangeFile × ω) : Prop where
  sound : Sound manner url bytes both.1
  here : good both.2

/-! ## One call -/

/-- A code means an origin exactly if it gives a move something to aim at, and then the origin is
where the move counts from. -/
theorem whenceOf_spec (sound : Sound manner url bytes both.1) (offset whence : Int) :
    match Cursor.aim bytes both.1.position offset whence with
    | some target => ∃ origin, whenceOf whence = .ok origin ∧ both.1.target offset origin = target
    | none => whenceOf whence = .error (Cursor.invalidWhence whence) := by
  unfold Cursor.aim whenceOf
  by_cases fromStart : whence = 0
  · simp only [if_pos fromStart]
    exact ⟨.start, rfl, rfl⟩
  · by_cases fromCurrent : whence = 1
    · simp only [if_neg fromStart, if_pos fromCurrent]
      exact ⟨.current, rfl, rfl⟩
    · by_cases fromStop : whence = 2
      · simp only [if_neg fromStart, if_neg fromCurrent, if_pos fromStop]
        exact ⟨.stop, rfl, by rw [target, sound.size_eq]⟩
      · simp only [if_neg fromStart, if_neg fromCurrent, if_neg fromStop]
        rfl

theorem seekBy_moves (sound : Sound manner url bytes both.1) {offset whence target : Int}
    (aimed : Cursor.aim bytes both.1.position offset whence = some target) :
    Yields (seekBy offset whence) both (.ok (Cursor.inside bytes target))
      ({ both.1 with position := Cursor.inside bytes target }, both.2) := by
  have meaning := whenceOf_spec sound offset whence
  rw [aimed] at meaning
  rcases meaning with ⟨origin, meant, rfl⟩
  have sought := seek_yields both.1 both.2 offset origin
  rw [sound.clamp_eq] at sought
  exact (yields_ofExcept_of_eq meant both).bind sought

theorem seekBy_astray (sound : Sound manner url bytes both.1) {offset whence : Int}
    (nowhere : Cursor.aim bytes both.1.position offset whence = none) :
    Yields (seekBy offset whence) both (.error (Cursor.invalidWhence whence)) both := by
  have meaning := whenceOf_spec sound offset whence
  rw [nowhere] at meaning
  exact (yields_ofExcept_of_eq meaning both).bind_error

/-- A call is a step of the cursor, and leaves the file sound. -/
theorem respond_step (holds : srv.Holds url bytes manner good)
    (served : Served manner url bytes good both) (call : Cursor.Call) :
    Cursor.Step manner.delivers bytes both.1.position call (respond srv both call).1
        (respond srv both call).2.1.position ∧
      Served manner url bytes good (respond srv both call).2 := by
  rcases both with ⟨f, w⟩
  rcases served with ⟨sound, here⟩
  cases call with
  | read count =>
    rcases read_yields holds sound here count with
      ⟨w', there, ⟨data, f', part, sound', further, reads⟩ | ⟨_, _, cause, fault, fails⟩⟩
    · simp only [respond, reads.result, reads.state, further]
      exact ⟨.read part, sound', there⟩
    · simp only [respond, fails.result, fails.state]
      exact ⟨.failed rfl, sound, there⟩
  | seek offset whence =>
    cases aimed : Cursor.aim bytes f.position offset whence with
    | some target =>
      have moves : Yields (seekBy offset whence) (f, w) _ _ := seekBy_moves sound aimed
      simp only [respond, moves.result, moves.state]
      exact ⟨.moved aimed, sound.at_position (inside_le bytes target), here⟩
    | none =>
      have stays : Yields (seekBy offset whence) (f, w) _ _ := seekBy_astray sound aimed
      simp only [respond, stays.result, stays.state]
      exact ⟨.astray aimed, sound, here⟩
  | tell => exact ⟨.told, sound, here⟩

/-- A read that fails has met a fault of the network and leaves the whole file as it was. -/
theorem read_error (holds : srv.Holds url bytes manner good)
    (served : Served manner url bytes good both) {count : Option Int} {e : Error}
    (fails : (read srv count both).result = .error e) :
    e.kind? = some .network ∧ (read srv count both).state.1 = both.1 := by
  rcases both with ⟨f, w⟩
  rcases read_yields holds served.sound served.here count with
    ⟨w', there, ⟨data, f', _, _, _, reads⟩ | ⟨_, _, cause, _, failed⟩⟩
  · rw [reads.result] at fails
    cases fails
  · rw [failed.result] at fails
    cases fails
    exact ⟨rfl, by rw [failed.state]⟩

/-! ## Sequences of calls -/

/-- Calls one after another are a run of the cursor. -/
theorem replies_run (holds : srv.Holds url bytes manner good) (calls : List Cursor.Call)
    (served : Served manner url bytes good both) :
    Cursor.Run manner.delivers bytes both.1.position calls (replies srv calls both)
        (after srv calls both).1.position ∧
      Served manner url bytes good (after srv calls both) := by
  induction calls generalizing both with
  | nil => exact ⟨.nil, served⟩
  | cons call calls ih =>
    rcases respond_step holds served call with ⟨step, served'⟩
    rcases ih served' with ⟨rest, last⟩
    exact ⟨.cons step rest, last⟩

/-- A file that was opened is sound and stands at the front. -/
theorem connect_served (holds : srv.Holds url bytes manner good) {capacity : Int}
    (room : 0 ≤ capacity) {w : ω} (here : good w) {f : RangeFile}
    (opened : (connect srv url capacity w).result = .ok f) :
    f.position = 0 ∧ Served manner url bytes good (f, (connect srv url capacity w).state) := by
  have named := isUrl_of_connect opened
  rcases connect_yields holds named here with ⟨w', there, connects | ⟨cause, _, fails⟩⟩
  · rw [connects.result] at opened
    cases opened
    rw [connects.state]
    exact ⟨rfl, sound_of_fresh manner named room, there⟩
  · rw [fails.result] at opened
    cases opened

/-- A ranged file over a server that holds some bytes refines a cursor over them, whatever the
capacity of its cache and whatever its calls.  Each call is a step of the cursor: a move leads to its
target brought into the bytes, and one from an origin that does not exist is refused on the spot; a
read brings the front of its window and moves behind it.  A read that fails, which only the network
can make it, changes neither the position nor the cache.  Reads one after another lose no byte and
bring none twice.

If no answer is ever cut short, each read that succeeds brings its whole window.  The replies are
then settled by the bytes and the calls alone as long as no read fails: neither the capacity nor
what was read before shows in them. -/
theorem refines_cursor (holds : srv.Holds url bytes manner good) {capacity : Int}
    (room : 0 ≤ capacity) {w : ω} (here : good w) {f : RangeFile}
    (opened : (connect srv url capacity w).result = .ok f) (calls : List Cursor.Call) :
    let first := (f, (connect srv url capacity w).state)
    let both := after srv calls first
    Cursor.Run (· <+: ·) bytes 0 calls (replies srv calls first) both.1.position ∧
    (∀ count e, (read srv count both).result = .error e →
      e.kind? = some .network ∧ (read srv count both).state.1 = both.1) ∧
    (∀ counts : List (Option Int),
      (replies srv (counts.map .read) both).flatMap Cursor.Reply.bytes =
        slice bytes both.1.position (after srv (counts.map .read) both).1.position) ∧
    ((∀ data wanted, manner.delivers data wanted → data = wanted) →
      Cursor.Run (· = ·) bytes 0 calls (replies srv calls first) both.1.position ∧
      ((∀ reply ∈ replies srv calls first, reply.failsToRead = false) →
        replies srv calls first = Cursor.ideal bytes 0 calls)) := by
  intro first both
  rcases connect_served holds room here opened with ⟨front, served⟩
  rcases replies_run holds calls served with ⟨run, later⟩
  rw [front] at run
  refine ⟨run.mono fun _ _ => manner.front_of_wanted, ?_, ?_, ?_⟩
  · intro count e fails
    exact read_error holds later fails
  · intro counts
    have reads := (replies_run holds (counts.map .read) later).1
    exact (reads.mono fun _ _ => manner.front_of_wanted).reads.2
  · intro whole
    have exactly := run.mono whole
    exact ⟨exactly, exactly.eq_ideal⟩

/-! ## A server of six bytes -/

def sixBytes : List UInt8 := [10, 11, 12, 13, 14, 15]

theorem sixBytes_held (manner : Manner) :
    ScriptedServer.server.Holds "http://files/six" sixBytes manner
      (ScriptedServer.Keeps sixBytes manner) :=
  ScriptedServer.holds _ sixBytes manner rfl

/-- The second answer is cut to one byte, the third request fails, and the body of the fourth cannot
be read. -/
def patchy : ScriptedServer where
  data := some sixBytes
  faults := [⟨2, .short 1⟩, ⟨3, .raise (.fault ⟨.system .timeout, "timed out"⟩)⟩,
    ⟨4, .raiseOnRead (.fault ⟨.system .connectionReset, "reset"⟩)⟩]

theorem patchy_keeps : patchy.Keeps sixBytes .lossy where
  data := rfl
  statedRange := rfl
  faults := by
    intro fault member
    simp only [patchy, List.mem_cons, List.not_mem_nil, or_false] at member
    rcases member with rfl | rfl | rfl
    · exact Manner.lossy_allows_short 1
    · exact .raise rfl
    · exact .raiseOnRead rfl

def steady : ScriptedServer where
  data := some sixBytes

theorem steady_keeps : steady.Keeps sixBytes .unabridged where
  data := rfl
  statedRange := rfl
  faults := fun _ member => absurd member List.not_mem_nil

/-- Over the patchy server a cut answer is stayed behind, two reads fail on the spot, and the bytes
come one after another all the same.  Over the steady one a file without a cache reads as the ideal
cursor does. -/
theorem refines_cursor_of_sixBytes :
    let url := "http://files/six"
    let calls : List Cursor.Call := [.seek 1 0, .read (some 2), .read (some 2), .read none,
      .read (some (-1)), .seek (-9) 1, .seek 0 7, .tell]
    let reset : Fault := ⟨.system .connectionReset, "reset"⟩
    let timeout : Fault := ⟨.system .timeout, "timed out"⟩
    Cursor.Run (· <+: ·) sixBytes 0 calls
      [.position (.ok 1), .data (.ok [11]), .data (.error (.fetchFailed url 2 4 timeout)),
        .data (.error (.fetchFailed url 2 6 reset)), .data (.ok [12, 13, 14, 15]),
        .position (.ok 0), .position (.error (Cursor.invalidWhence 7)), .position (.ok 0)] 0 ∧
    replies ScriptedServer.server calls
        ({ url, size := 6, capacity := 0 },
          (connect ScriptedServer.server url 0 steady).state) =
      Cursor.ideal sixBytes 0 calls := by
  intro url calls reset timeout
  have one : (0 : Int) ≤ 1 := by decide
  have none_kept : (0 : Int) ≤ 0 := by decide
  have lossy := refines_cursor (sixBytes_held .lossy) one patchy_keeps rfl calls
  have whole := refines_cursor (sixBytes_held .unabridged) none_kept steady_keeps rfl calls
  refine ⟨lossy.1, (whole.2.2.2 fun _ _ => id).2 ?_⟩
  decide

end RangeFile
end RowReader
