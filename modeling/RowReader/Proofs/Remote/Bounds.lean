import RowReader.Proofs.Remote.History

/-!
# Bounds of a ranged file

A server may state any size of a file, zero and negative ones too, and whether there are as many bytes
is not known.  Of its answers only this is assumed, that none is longer than the range it was asked
for.  Then a ranged file never leaves the size that was stated: its position stays between the front
and that size, and every range that a read asks for is one of bytes before it.

The position moves behind the bytes of a range whether they were fetched or kept.  So the bound on an
answer must be remembered with it, and the invariant speaks of the cache as well.
-/

namespace RowReader

open RowReader.Action

variable {ω : Type}

/-- No answer is longer than the range that it answers. -/
def Server.Measured (srv : Server ω) : Prop :=
  ∀ {w : ω} {url : String} {first last : Int} {response : Response} {data : List UInt8},
    first ≤ last → (srv.request url first last w).result = .ok response →
    response.body = .ok data → data.length ≤ last - first + 1

/-- In this state the server may answer a request with this error, at once or when the body is read. -/
def Server.Raises (srv : Server ω) (w : ω) (e : Error) : Prop :=
  ∃ url first last, (srv.request url first last w).result = .error e ∨
    ∃ response, (srv.request url first last w).result = .ok response ∧ response.body = .error e

/-- The error does not say that a range is empty, unless the server itself says so. -/
def Server.Spares (srv : Server ω) (w : ω) (e : Error) : Prop :=
  ∀ start stop, e = .emptyRange start stop → srv.Raises w e

/-- The request asks for bytes before a size, and for one byte at least. -/
structure RangeRequest.Inside (size : Int) (r : RangeRequest) : Prop where
  front : 0 ≤ r.first
  ordered : r.first ≤ r.last
  before : r.last < size

/-- The requests on record after some others ask for bytes before a size. -/
def RequestsInside (size : Int) (before : List RangeRequest) (both : ω × List RangeRequest) : Prop :=
  ∃ sent, both.2 = before ++ sent ∧ ∀ r ∈ sent, r.Inside size

variable {srv : Server ω} {size : Int} {before : List RangeRequest}

theorem Server.Measured.recorded (measured : srv.Measured) : srv.recorded.Measured :=
  fun ordered answered whole => measured ordered answered whole

namespace Remote

/-- Rewording an error of the server does not make it say that a range is empty. -/
theorem networkError_spares {w : ω} {url : String} {start stop : Int} {e : Error}
    (raised : srv.Raises w e) : srv.Spares w (networkError (.fetchFailed url start stop) e) := by
  intro _ _ empty
  cases e with
  | fault f =>
    have reworded : networkError (.fetchFailed url start stop) (.fault f) =
        if f.isSystem then .fetchFailed url start stop f else .fault f := rfl
    rw [reworded] at empty
    split at empty
    · cases empty
    · cases empty
  | emptyRange first last =>
    cases empty
    exact raised
  | _ => cases empty

/-- A range before the size is fetched by a request inside of it. -/
theorem fetch_inside {range : ByteRange} (wanted : range.start < range.stop)
    (within : range.stop ≤ size) (url : String) {both : ω × List RangeRequest}
    (asked : RequestsInside size before both) :
    Confined (RequestsInside size before) (srv.Spares both.1)
      (fetch srv.recorded url range.start range.stop) both := by
  have allowed : Confined (RequestsInside size before) (srv.Spares both.1)
      (ofExcept (checkUrl url)) both := by
    refine (yields_ofExcept _ both).confined asked fun e refused => ?_
    unfold checkUrl at refused
    split at refused
    · cases refused
    · cases refused
      exact nofun
  refine allowed.bind fun _ _ checked asked => ?_
  obtain rfl : both = _ := checked.state
  rw [if_neg (by omega)]
  have sent : RequestsInside size before
      (srv.recorded.request url range.start (range.stop - 1) both).state := by
    rcases asked with ⟨sent, same, inside⟩
    refine ⟨sent ++ [⟨url, range.start, range.stop - 1⟩], ?_, ?_⟩
    · rw [← List.append_assoc, ← same]
      rfl
    · refine List.forall_mem_append.mpr ⟨inside, List.forall_mem_singleton.mpr ?_⟩
      exact ⟨Int.natCast_nonneg _, by dsimp only; omega, by dsimp only; omega⟩
  have replied : Confined (RequestsInside size before) (srv.Raises both.1)
      (do
        let response ← srv.recorded.request url range.start (range.stop - 1)
        ofExcept response.body) both := by
    have requested : Confined (RequestsInside size before) (srv.Raises both.1)
        (srv.recorded.request url range.start (range.stop - 1)) both :=
      ⟨sent, fun e failed => ⟨_, _, _, .inl failed⟩⟩
    refine requested.bind fun response t answered there => ?_
    exact (yields_ofExcept _ t).confined there fun e failed =>
      ⟨_, _, _, .inr ⟨response, answered.result, failed⟩⟩
  exact replied.mapError fun e raised => networkError_spares raised

/-- What is fetched fits into its range. -/
theorem fetch_fits (measured : srv.Measured) {range : ByteRange} (url : String) (w : ω) :
    Ensures (fetch srv url range.start range.stop) w fun data _ =>
      range.start + data.length ≤ range.stop := by
  refine ensures_bind_any fun _ w => ?_
  split
  · exact ensures_fail
  · next wanted =>
    refine ensures_mapError ?_
    have answered : Ensures (srv.request url range.start (range.stop - 1)) w fun response t =>
        ∀ data, response.body = .ok data → range.start + data.length ≤ range.stop := by
      intro response found data whole
      have fits := measured (by omega) found whole
      omega
    exact ensures_bind answered fun response t fits data found => fits data found

end Remote

namespace RangeFile

/-! ## One call -/

/-- The file has the size, stands in it, and keeps for each range bytes that fit into it.  Since the
requests on record before, it has asked only for bytes before the size. -/
structure InBounds (size : Int) (before : List RangeRequest)
    (both : RangeFile × ω × List RangeRequest) : Prop where
  size_eq : both.1.size = size
  position_le : both.1.position ≤ max size 0
  cached : ∀ entry ∈ both.1.cache.entries, entry.1.start + entry.2.length ≤ entry.1.stop
  asked : RequestsInside size before both.2

variable {both : RangeFile × ω × List RangeRequest}

theorem stop_le_size {f : RangeFile} {count : Option Int} {range : ByteRange}
    (needed : f.rangeFor count = some range) : range.stop ≤ f.size := by
  rw [rangeFor_eq] at needed
  split at needed
  · cases needed
  · cases needed
    dsimp only
    omega

theorem clamp_le (f : RangeFile) (position : Int) : f.clamp position ≤ max f.size 0 := by
  unfold clamp
  omega

namespace InBounds

theorem keep (inBounds : InBounds size before both) {range : ByteRange} {data : List UInt8}
    (fits : range.start + data.length ≤ range.stop) :
    ∀ entry ∈ (both.1.cache.put range data).entries, entry.1.start + entry.2.length ≤ entry.1.stop := by
  intro entry member
  rcases RangeCache.of_mem_put member with ⟨old, -⟩ | rfl
  · exact inBounds.cached entry old
  · exact fits

/-- The position and the cache may change within the bounds. -/
theorem change (inBounds : InBounds size before both) (position : Nat) (cache : RangeCache)
    (within : position ≤ max size 0)
    (fit : ∀ entry ∈ cache.entries, entry.1.start + entry.2.length ≤ entry.1.stop) :
    InBounds size before ({ both.1 with position, cache }, both.2) :=
  ⟨inBounds.size_eq, within, fit, inBounds.asked⟩

/-- Bytes that come from the cache or from the server fit into their range. -/
theorem bytesOf_fits (measured : srv.Measured) (inBounds : InBounds size before both)
    (range : ByteRange) :
    Ensures (RangeFile.bytesOf srv.recorded range) both fun data _ =>
      range.start + data.length ≤ range.stop := by
  have standing : Ensures current both fun f _ => f = both.1 := by
    rintro f ⟨⟩
    rfl
  refine ensures_bind standing fun f _ same => ?_
  subst same
  cases found : both.1.cache.find? range with
  | some data =>
    have fits := inBounds.cached _ (RangeCache.mem_of_find? found)
    exact ensures_bind_any fun _ _ => ensures_pure fits
  | none =>
    refine ensures_bind_any fun f _ => ensures_bind_any fun _ t => ?_
    have fetched : Ensures (onServer (Remote.fetch srv.recorded f.url range.start range.stop)) t
        fun data _ => range.start + data.length ≤ range.stop :=
      Remote.fetch_fits measured.recorded f.url t.2
    refine ensures_bind fetched fun data _ fits => ensures_bind_any fun _ _ => ?_
    split
    · exact ensures_fail
    · exact ensures_pure fits

/-- Whether a range is kept or must be fetched, the file stays in its bounds. -/
theorem bytesOf (measured : srv.Measured) (inBounds : InBounds size before both)
    {range : ByteRange} (wanted : range.start < range.stop) (within : range.stop ≤ size) :
    Confined (InBounds size before) (srv.Spares both.2.1) (bytesOf srv.recorded range) both := by
  apply (yields_current both).bind_confined
  cases found : both.1.cache.find? range with
  | some data =>
    have fits := inBounds.cached _ (RangeCache.mem_of_find? found)
    have kept := inBounds.change _ _ inBounds.position_le (inBounds.keep fits)
    exact ((yields_update _ both).bind (yields_pure data _)).confined_ok kept
  | none =>
    apply (yields_current both).bind_confined
    apply (yields_note _ _ _ both).bind_confined
    have reached : Confined (InBounds size before) (srv.Spares both.2.1)
        (onServer (Remote.fetch srv.recorded both.1.url range.start range.stop)) both :=
      (Remote.fetch_inside wanted within both.1.url inBounds.asked).onPart fun t asked =>
        ⟨inBounds.size_eq, inBounds.position_le, inBounds.cached, asked⟩
    refine reached.bind fun data t fetched there => ?_
    have fits := Remote.fetch_fits measured.recorded both.1.url both.2 data fetched.result
    have trimmed := there.change t.1.position ((t.1.cache.put range data).trim t.1.capacity)
      there.position_le fun entry member => there.keep fits entry (RangeCache.of_mem_trim member)
    apply (yields_update _ t).bind_confined
    split
    · exact confined_fail trimmed nofun
    · exact confined_pure data trimmed

/-- So does a read, which moves behind the bytes it brings. -/
theorem read (measured : srv.Measured) (inBounds : InBounds size before both)
    (count : Option Int) :
    Confined (InBounds size before) (srv.Spares both.2.1) (read srv.recorded count) both := by
  apply (yields_current both).bind_confined
  split
  · exact confined_fail inBounds nofun
  · cases needed : both.1.rangeFor count with
    | none => exact confined_pure [] inBounds
    | some range =>
      have within : range.stop ≤ size := inBounds.size_eq ▸ stop_le_size needed
      refine (inBounds.bytesOf measured (start_lt_stop needed) within).bind
        fun data t brought there => ?_
      have fits := inBounds.bytesOf_fits measured range data brought.result
      rw [brought.state] at fits
      have moved := there.change (range.start + data.length) t.1.cache (by omega) there.cached
      exact ((yields_update _ t).bind (yields_pure data _)).confined_ok moved

/-- A move leads into the size, wherever it aims. -/
theorem seekBy (inBounds : InBounds size before both) (offset whence : Int) :
    Confined (InBounds size before) (srv.Spares both.2.1) (seekBy offset whence) both := by
  cases meant : whenceOf whence with
  | ok origin =>
    have sought := seek_yields both.1 both.2 offset origin
    have within := clamp_le both.1 (both.1.target offset origin)
    rw [inBounds.size_eq] at within
    exact ((yields_ofExcept_of_eq meant both).bind sought).confined_ok
      (inBounds.change _ _ within inBounds.cached)
  | error e =>
    refine (yields_ofExcept_of_eq meant both).bind_error.confined inBounds ?_
    rintro _ ⟨⟩
    unfold whenceOf at meant
    split at meant
    · cases meant
    · split at meant
      · cases meant
      · split at meant
        · cases meant
        · cases meant
          exact nofun

/-- Every call of an open or a closed file keeps it in its bounds, and so does closing it. -/
theorem use (measured : srv.Measured) (inBounds : InBounds size before both) (u : Use) :
    InBounds size before (use srv.recorded both u) := by
  cases u with
  | call call =>
    cases call with
    | read count => exact (inBounds.read measured count).state
    | seek offset whence =>
      have moved : Confined (InBounds size before) (srv.Spares both.2.1)
          (RangeFile.seekBy offset whence) both := inBounds.seekBy offset whence
      exact moved.state
    | tell => exact inBounds
  | close =>
    exact ⟨inBounds.size_eq, inBounds.position_le, fun _ member => absurd member List.not_mem_nil,
      inBounds.asked⟩

theorem uses (measured : srv.Measured) (inBounds : InBounds size before both) (uses : List Use) :
    InBounds size before (uses.foldl (RangeFile.use srv.recorded) both) := by
  induction uses generalizing both with
  | nil => exact inBounds
  | cons u rest ih => exact ih (inBounds.use measured u)

end InBounds

/-- A file that was just opened stands at its front and has asked for no range. -/
theorem connect_inBounds {url : String} {capacity : Int} {w : ω × List RangeRequest} {f : RangeFile}
    (opened : (connect srv.recorded url capacity w).result = .ok f) :
    let left := (connect srv.recorded url capacity w).state
    InBounds f.size left.2 (f, left) := by
  have fresh : Ensures (connect srv.recorded url capacity) w fun f t => InBounds f.size t.2 (f, t) :=
    ensures_bind_any fun _ _ => ensures_bind_any fun size _ => ensures_bind_any fun _ t =>
      ensures_pure ⟨rfl, Int.le_max_right size 0, fun _ member => absurd member List.not_mem_nil,
        ⟨[], (List.append_nil _).symm, nofun⟩⟩
  exact fresh f opened

/-- Whatever size a server states for a file, and however much a cache may hold: if no answer is
longer than the range it was asked for, then reading, moving and closing never take the file out of
the size.  At every moment its position lies between the front and the size, or at the front if the
size is negative, and each request that was sent since the file was opened asks for at least one byte
and only for bytes before the size.  A range that a call needs is never empty, so that fetching it is
not refused for that: no call meets the error that says so, unless the server has raised it itself. -/
theorem stays_within_stated_size (measured : srv.Measured) {url : String} {capacity : Int}
    {w : ω × List RangeRequest} {f : RangeFile}
    (opened : (connect srv.recorded url capacity w).result = .ok f) (uses : List Use) :
    let left := (connect srv.recorded url capacity w).state
    let both := uses.foldl (use srv.recorded) (f, left)
    both.1.size = f.size ∧
    0 ≤ (both.1.position : Int) ∧ (both.1.position : Int) ≤ max f.size 0 ∧
    (∃ sent, both.2.2 = left.2 ++ sent ∧
      ∀ r ∈ sent, 0 ≤ r.first ∧ r.first ≤ r.last ∧ r.last < f.size) ∧
    (∀ call range, both.1.needs call = some range → range.start < range.stop) ∧
    ∀ call start stop, (respond srv.recorded both call).1 = .data (.error (.emptyRange start stop)) →
      srv.Raises both.2.1 (.emptyRange start stop) := by
  intro left both
  have inBounds : InBounds f.size left.2 both := (connect_inBounds opened).uses measured uses
  refine ⟨inBounds.size_eq, Int.natCast_nonneg _, inBounds.position_le, ?_, ?_, ?_⟩
  · rcases inBounds.asked with ⟨sent, same, inside⟩
    exact ⟨sent, same, fun r member => ⟨(inside r member).front, (inside r member).ordered,
      (inside r member).before⟩⟩
  · intro call range needed
    cases call with
    | read count => exact start_lt_stop needed
    | seek offset whence => cases needed
    | tell => cases needed
  · intro call start stop answered
    cases call with
    | read count =>
      rw [respond, Cursor.Reply.data.injEq] at answered
      exact (inBounds.read measured count).error _ answered start stop rfl
    | seek offset whence => cases answered
    | tell => cases answered

end RangeFile

/-! ## Scripted servers -/

namespace ScriptedServer

theorem length_bodyUnder_le {mishaps : List ServerMishap} {bytes data : List UInt8}
    (whole : bodyUnder mishaps bytes = .ok data) : data.length ≤ bytes.length := by
  induction mishaps generalizing bytes with
  | nil =>
    cases whole
    exact Nat.le_refl _
  | cons mishap rest ih =>
    cases mishap with
    | raise e => exact ih whole
    | raiseOnRead e => cases whole
    | short count => exact Nat.le_trans (ih whole) (List.length_take_le' count bytes)

/-- A scripted server answers with what it has of the range, or with less. -/
theorem measured : server.Measured := by
  intro srv url first last response data ordered answered whole
  cases held : srv.data with
  | none =>
    have refused : Yields (server.request url first last) srv _ _ := request_missing held url first last
    cases refused.result.symm.trans answered
  | some bytes =>
    have asked : Yields (server.request url first last) srv _ _ := request_yields held url first last
    have told := asked.result.symm.trans answered
    unfold answer at told
    dsimp only at told
    split at told
    · cases told
    · split at told
      · cases told
      · next front =>
        cases told
        have short := length_bodyUnder_le whole
        rw [slice, List.length_take, List.length_drop] at short
        omega

end ScriptedServer

namespace RangeFile

/-- Six bytes that are said to be nine.  The third answer is cut to one byte. -/
def overstating : ScriptedServer where
  data := some sixBytes
  statedRange := .fixed "bytes 0-0/9"
  faults := [⟨3, .short 1⟩]

/-- The same bytes, said to be three less than none. -/
def understating : ScriptedServer where
  data := some sixBytes
  statedRange := .fixed "bytes 0-0/-3"

/-- Reads behind the last byte, then from the front on, and after closing. -/
def straying : List Use :=
  [.call (.seek (-2) 2), .call (.read none), .call (.seek (-50) 1), .call (.read (some 4)),
    .call (.seek 99 1), .call (.seek (-8) 2), .close, .call (.read none)]

/-- The file and the server, after a file of this size was opened, read and closed. -/
def strayed (scripted : ScriptedServer) (size : Int) : RangeFile × ScriptedServer × List RangeRequest :=
  let srv := ScriptedServer.server.recorded
  let url := "http://files/six"
  straying.foldl (use srv) ({ url, size, capacity := 1 }, (connect srv url 1 (scripted, [])).state)

/-- Behind the six bytes nothing comes, but the two that were said to be there are asked for.  Where
there are said to be less than none, nothing is asked for and the file stays at its front. -/
theorem stays_within_stated_size_of_misstated :
    (strayed overstating 9).1.position = 1 ∧ ((strayed overstating 9).1.position : Int) ≤ max 9 0 ∧
    (∃ sent, (strayed overstating 9).2.2 = ⟨"http://files/six", 0, 0⟩ :: sent ∧
      sent = [⟨"http://files/six", 7, 8⟩, ⟨"http://files/six", 0, 3⟩] ∧
      ∀ r ∈ sent, 0 ≤ r.first ∧ r.first ≤ r.last ∧ r.last < 9) ∧
    (strayed understating (-3)).1.position = 0 ∧
    ((strayed understating (-3)).1.position : Int) ≤ max (-3) 0 ∧
    (strayed understating (-3)).2.2 = [⟨"http://files/six", 0, 0⟩] := by
  have more := stays_within_stated_size ScriptedServer.measured
    (rfl : (connect _ "http://files/six" 1 (overstating, [])).result =
      .ok { url := "http://files/six", size := 9, capacity := 1 }) straying
  have less := stays_within_stated_size ScriptedServer.measured
    (rfl : (connect _ "http://files/six" 1 (understating, [])).result =
      .ok { url := "http://files/six", size := -3, capacity := 1 }) straying
  rcases more with ⟨-, -, within, ⟨sent, same, inside⟩, -⟩
  rcases less with ⟨-, -, within', -⟩
  have asked : sent = [⟨"http://files/six", 7, 8⟩, ⟨"http://files/six", 0, 3⟩] :=
    (List.cons.inj same).2.symm
  exact ⟨rfl, within, ⟨sent, same, asked, inside⟩, rfl, within', rfl⟩

end RangeFile
end RowReader
