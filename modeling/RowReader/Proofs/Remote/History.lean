import RowReader.Proofs.Remote.Failures
import RowReader.Proofs.Remote.Recency
import RowReader.Proofs.Remote.Refinement

/-!
# What a ranged file has read, and what it asks for

Nothing is assumed of the server here.  It may state any size, answer a range with any bytes, and
fail as it likes.  The history of a ranged file is the list of the ranges that were read with
success, each with the bytes that came.  Its cache recalls that history, so that one knows of every
call whether it will send a request: a read sends one for a range that is not among the recent ones,
and nothing else sends any.

`Course` lists what can become of a call on an open file.  Each property of a call is read off it,
and those of a sequence of calls follow by induction.
-/

namespace RowReader

open RowReader.Action

/-! ## Requests on record -/

/-- A request for the bytes from one position to another, both included. -/
structure RangeRequest where
  url : String
  first : Int
  last : Int
  deriving DecidableEq, Repr

variable {ω : Type}

/-- The server that records its requests, whatever they are answered with. -/
def Server.recorded (srv : Server ω) : Server (ω × List RangeRequest) where
  request := fun url first last both =>
    (srv.request url first last both.1).mapState fun w => (w, both.2 ++ [⟨url, first, last⟩])

/-- The request that fetches a range. -/
def ByteRange.request (range : ByteRange) (url : String) : RangeRequest :=
  ⟨url, range.start, range.stop - 1⟩

/-- Fetching a range that is not empty is one request, and leaves the server as that leaves it. -/
theorem Remote.fetch_state (srv : Server ω) {url : String} (named : isUrl url = true)
    {range : ByteRange} (some_wanted : range.start < range.stop) (w : ω) :
    (fetch srv url range.start range.stop w).state =
      (srv.request url range.start (range.stop - 1) w).state := by
  have allowed := yields_ofExcept_of_eq (checkUrl_of_isUrl named) w
  have asked := yields_self (srv.request url range.start (range.stop - 1)) w
  have replied : ∃ r, Yields (do
      let response ← srv.request url range.start (range.stop - 1)
      ofExcept response.body) w r (srv.request url range.start (range.stop - 1) w).state := by
    cases found : (srv.request url range.start (range.stop - 1) w).result with
    | ok response => exact ⟨_, (found ▸ asked).bind (yields_ofExcept _ _)⟩
    | error e => exact ⟨_, (found ▸ asked).bind_error⟩
  rcases replied with ⟨r, replied⟩
  have fetches : Yields (fetch srv url range.start range.stop) w
      (r.mapError (networkError (.fetchFailed url range.start range.stop)))
      (srv.request url range.start (range.stop - 1) w).state := by
    apply allowed.bind
    rw [if_neg (by omega)]
    exact replied.mapError _
  exact fetches.state

namespace RangeFile

/-! ## One call -/

/-- The range that a call needs the bytes of. -/
def needs (f : RangeFile) : Cursor.Call → Option ByteRange
  | .read count => f.rangeFor count
  | .seek _ _ => none
  | .tell => none

/-- The range that a call has read with the bytes that came, if it has read any. -/
def readBy (f : RangeFile) (call : Cursor.Call) : Cursor.Reply → List (ByteRange × List UInt8)
  | .data (.ok data) => ((f.needs call).map fun range => (range, data)).toList
  | _ => []

/-- The requests that a call sends if these are the ranges in the cache. -/
def sends (f : RangeFile) (kept : List ByteRange) (call : Cursor.Call) : List RangeRequest :=
  match f.needs call with
  | some range => if range ∈ kept then [] else [range.request f.url]
  | none => []

/-- What can become of a call on an open file: its reply, and the file and the server after it. -/
inductive Course (srv : Server ω) (f : RangeFile) (w : ω) (call : Cursor.Call) :
    Cursor.Reply × RangeFile × ω → Prop where
  | idle {reply : Cursor.Reply} {position : Nat} (nothing : f.needs call = none) :
      Course srv f w call (reply, { f with position }, w)
  | kept {range : ByteRange} {data : List UInt8} (needed : f.needs call = some range)
      (found : f.cache.find? range = some data) :
      Course srv f w call (.data (.ok data),
        { f with cache := f.cache.put range data, position := range.start + data.length }, w)
  | fetched {range : ByteRange} {data : List UInt8} {w' : ω} (needed : f.needs call = some range)
      (missing : f.cache.find? range = none)
      (fetches : Yields (Remote.fetch srv f.url range.start range.stop) w (.ok data) w') :
      Course srv f w call (.data (.ok data),
        { f with
          cache := (f.cache.put range data).trim f.capacity
          position := range.start + data.length }, w')
  | unfetched {range : ByteRange} {e : Error} {w' : ω} (needed : f.needs call = some range)
      (missing : f.cache.find? range = none)
      (fails : Yields (Remote.fetch srv f.url range.start range.stop) w (.error e) w') :
      Course srv f w call (.data (.error e), f, w')

variable {srv : Server ω} {f g : RangeFile} {w w' : ω} {call : Cursor.Call} {reply : Cursor.Reply}

/-- A move by an offset changes the position at most. -/
theorem seekBy_yields (f : RangeFile) (w : ω) (offset whence : Int) :
    ∃ r position, Yields (seekBy offset whence) (f, w) r ({ f with position }, w) := by
  cases meant : whenceOf whence with
  | ok origin =>
    exact ⟨_, _, (yields_ofExcept_of_eq meant _).bind (seek_yields f w offset origin)⟩
  | error e => exact ⟨_, f.position, (yields_ofExcept_of_eq meant _).bind_error⟩

theorem respond_read {count : Option Int} {r : Except Error (List UInt8)}
    (reads : Yields (read srv count) (f, w) r (g, w')) :
    respond srv (f, w) (.read count) = (.data r, g, w') := by
  rw [respond, reads.result, reads.state]

/-- Nothing else can become of a call. -/
theorem respond_course (srv : Server ω) (isOpen : f.closed = false) (room : 0 ≤ f.capacity) (w : ω)
    (call : Cursor.Call) : Course srv f w call (respond srv (f, w) call) := by
  cases call with
  | read count =>
    cases needed : f.rangeFor count with
    | none =>
      rw [respond_read (read_nothing isOpen needed w)]
      exact .idle needed
    | some range =>
      cases found : f.cache.find? range with
      | some data =>
        rw [respond_read (read_brings isOpen needed (bytesOf_kept found w))]
        exact .kept needed found
      | none =>
        have tried := yields_self (Remote.fetch srv f.url range.start range.stop) w
        cases ended : (Remote.fetch srv f.url range.start range.stop w).result with
        | ok data =>
          rw [ended] at tried
          rw [respond_read (read_brings isOpen needed (bytesOf_fetched found room tried))]
          exact .fetched needed found tried
        | error e =>
          rw [ended] at tried
          rw [respond_read (read_fails isOpen needed (bytesOf_unfetched found tried))]
          exact .unfetched needed found tried
  | seek offset whence =>
    rcases seekBy_yields f w offset whence with ⟨r, position, moves⟩
    rw [respond, moves.result, moves.state]
    exact .idle rfl
  | tell => exact .idle rfl

theorem readBy_idle (nothing : f.needs call = none) (reply : Cursor.Reply) :
    f.readBy call reply = [] := by
  unfold readBy
  split
  · rw [nothing]
    rfl
  · rfl

theorem readBy_brings {range : ByteRange} (needed : f.needs call = some range)
    (data : List UInt8) : f.readBy call (.data (.ok data)) = [(range, data)] := by
  rw [readBy, needed]
  rfl

theorem readBy_fails (f : RangeFile) (call : Cursor.Call) (e : Error) :
    f.readBy call (.data (.error e)) = [] := rfl

/-- A call that needs no range leaves the cache as it is. -/
theorem Course.cache_eq (course : Course srv f w call (reply, g, w'))
    (nothing : f.needs call = none) : g.cache = f.cache := by
  cases course with
  | idle _ => rfl
  | kept needed _ => cases nothing.symm.trans needed
  | fetched needed _ _ => cases nothing.symm.trans needed
  | unfetched needed _ _ => rfl

/-- The server gets the requests that the cache does not save it. -/
theorem Course.requests_eq {sent sent' : List RangeRequest}
    (course : Course srv.recorded f (w, sent) call (reply, g, (w', sent')))
    (named : Remote.isUrl f.url = true) : sent' = sent ++ f.sends f.cache.ranges call := by
  have one {range : ByteRange} {r : Except Error (List UInt8)} (needed : f.needs call = some range)
      (missing : f.cache.find? range = none)
      (tried : Yields (Remote.fetch srv.recorded f.url range.start range.stop) (w, sent) r
        (w', sent')) : sent' = sent ++ f.sends f.cache.ranges call := by
    have some_wanted : range.start < range.stop := by
      cases call with
      | read count => exact start_lt_stop needed
      | seek _ _ => cases needed
      | tell => cases needed
    have asked := Remote.fetch_state srv.recorded named some_wanted (w, sent)
    rw [tried.state] at asked
    rw [sends, needed]
    simp only [if_neg (RangeCache.find?_eq_none_iff.mp missing)]
    exact congrArg Prod.snd asked
  cases course with
  | idle nothing => rw [sends, nothing, List.append_nil]
  | kept needed found =>
    rw [sends, needed]
    simp only [if_pos (RangeCache.mem_ranges_of_find? found), List.append_nil]
  | fetched needed missing fetches => exact one needed missing fetches
  | unfetched needed missing fails => exact one needed missing fails

/-! ## Sequences of calls -/

/-- What a sequence of calls has read, the first read first. -/
def history (srv : Server ω) :
    List Cursor.Call → RangeFile × ω → List (ByteRange × List UInt8)
  | [], _ => []
  | call :: rest, both =>
    both.1.readBy call (respond srv both call).1 ++ history srv rest (respond srv both call).2

/-- An open file that has read these ranges. -/
structure HasRead (url : String) (capacity : Nat) (reads : List (ByteRange × List UInt8))
    (f : RangeFile) : Prop where
  url_eq : f.url = url
  isUrl : Remote.isUrl url = true
  isOpen : f.closed = false
  capacity_eq : f.capacity = capacity
  recalls : f.cache.Recalls capacity reads

variable {url : String} {capacity : Nat} {reads : List (ByteRange × List UInt8)}
  {both : RangeFile × ω}

namespace HasRead

theorem course (hasRead : HasRead url capacity reads both.1) (srv : Server ω)
    (call : Cursor.Call) : Course srv both.1 both.2 call (respond srv both call) := by
  have room : 0 ≤ both.1.capacity := hasRead.capacity_eq ▸ Int.natCast_nonneg capacity
  exact respond_course srv hasRead.isOpen room both.2 call

/-- The cache keeps up with one more call. -/
theorem further (hasRead : HasRead url capacity reads f)
    (course : Course srv f w call (reply, g, w')) :
    HasRead url capacity (reads ++ f.readBy call reply) g := by
  cases course with
  | idle nothing =>
    rw [readBy_idle nothing, List.append_nil]
    exact { hasRead with recalls := hasRead.recalls }
  | kept needed found =>
    rw [readBy_brings needed]
    exact { hasRead with recalls := hasRead.recalls.put (RangeCache.mem_ranges_of_find? found) _ }
  | fetched needed missing fetches =>
    rw [readBy_brings needed]
    refine { hasRead with recalls := ?_ }
    rw [hasRead.capacity_eq]
    exact hasRead.recalls.trim_put _ _
  | unfetched needed missing fails =>
    rw [readBy_fails, List.append_nil]
    exact hasRead

/-- The cache recalls whatever has been read. -/
theorem after (hasRead : HasRead url capacity reads both.1) (srv : Server ω)
    (calls : List Cursor.Call) :
    HasRead url capacity (reads ++ history srv calls both) (after srv calls both).1 := by
  induction calls generalizing both reads with
  | nil =>
    rw [history, List.append_nil]
    exact hasRead
  | cons call calls ih =>
    rw [history, ← List.append_assoc]
    exact ih (hasRead.further (hasRead.course srv call))

end HasRead

/-- A file that was just opened has read nothing. -/
theorem connect_hasRead {srv : Server ω} {w : ω}
    (opened : (connect srv url capacity w).result = .ok f) : HasRead url capacity [] f := by
  have named := isUrl_of_connect opened
  have fresh : Ensures (connect srv url capacity) w fun f _ => HasRead url capacity [] f :=
    ensures_bind_any fun _ _ => ensures_bind_any fun _ _ => ensures_bind_any fun _ _ =>
      ensures_pure ⟨rfl, named, rfl, rfl, RangeCache.Recalls.empty capacity⟩
  exact fresh f opened

/-! ## Closed files -/

/-- A call, or closing the file. -/
inductive Use where
  | call (call : Cursor.Call)
  | close

/-- The file and the server after a use. -/
def use (srv : Server ω) (both : RangeFile × ω) : Use → RangeFile × ω
  | .call call => (respond srv both call).2
  | .close => (close both).state

/-- A file that was closed. -/
structure Shut (url : String) (f : RangeFile) : Prop where
  url_eq : f.url = url
  isClosed : f.closed = true
  empty : f.cache = {}

namespace Shut

/-- A closed file does not read, and does not ask the server. -/
theorem read (shut : Shut url both.1) (srv : Server ω) (count : Option Int) :
    Yields (read srv count) both (.error (.remoteClosed url)) both :=
  shut.url_eq ▸ read_closed shut.isClosed count both.2

/-- Whatever is done with a closed file, it stays closed. -/
theorem use (shut : Shut url both.1) (srv : Server ω) (u : Use) : Shut url (use srv both u).1 := by
  cases u with
  | call call =>
    cases call with
    | read count =>
      rw [RangeFile.use, respond, (shut.read srv count).state]
      exact shut
    | seek offset whence =>
      rcases seekBy_yields both.1 both.2 offset whence with ⟨r, position, moves⟩
      rw [RangeFile.use, respond, moves.state]
      exact ⟨shut.url_eq, shut.isClosed, shut.empty⟩
    | tell => exact shut
  | close => exact ⟨shut.url_eq, rfl, rfl⟩

theorem uses (shut : Shut url both.1) (srv : Server ω) (uses : List Use) :
    Shut url (uses.foldl (RangeFile.use srv) both).1 := by
  induction uses generalizing both with
  | nil => exact shut
  | cons u rest ih => exact ih (shut.use srv u)

theorem of_close (srv : Server ω) (both : RangeFile × ω) :
    Shut both.1.url (RangeFile.use srv both .close).1 :=
  ⟨rfl, rfl, rfl⟩

end Shut

/-! ## The cache over a whole life -/

/-- The cache of a ranged file is decided by what has been read, on any server and whatever becomes
of its requests: it holds the different ranges read last, as many as it may, in the order of their
last successful reads.  A call sends a request exactly if it needs a range that is not among them,
and then one.  A call that needs no range leaves them and their order alone.  Closing empties the
cache, and from then on it stays empty and every read is refused without a request. -/
theorem cache_recalls_recent_reads (srv : Server ω) {url : String} {capacity : Nat}
    {w : ω × List RangeRequest} {f : RangeFile}
    (opened : (connect srv.recorded url capacity w).result = .ok f) (calls : List Cursor.Call) :
    let first := (f, (connect srv.recorded url capacity w).state)
    let both := after srv.recorded calls first
    let ranges := (history srv.recorded calls first).map Prod.fst
    both.1.cache.ranges = recent capacity ranges ∧
    both.1.cache.size = min capacity ranges.dedup.length ∧
    (∀ call, (respond srv.recorded both call).2.2.2 =
      both.2.2 ++ both.1.sends (recent capacity ranges) call) ∧
    (∀ call, both.1.needs call = none →
      (respond srv.recorded both call).2.1.cache = both.1.cache) ∧
    ∀ uses : List Use, let last := uses.foldl (use srv.recorded) (use srv.recorded both .close)
      last.1.cache.size = 0 ∧
      ∀ count, Yields (read srv.recorded count) last (.error (.remoteClosed url)) last := by
  intro first both ranges
  have fresh : HasRead url capacity [] first.1 := connect_hasRead opened
  have hasRead : HasRead url capacity (history srv.recorded calls first) both.1 :=
    fresh.after srv.recorded calls
  refine ⟨hasRead.recalls.ranges_eq, hasRead.recalls.size_eq, ?_, ?_, ?_⟩
  · intro call
    rw [← hasRead.recalls.ranges_eq]
    exact (hasRead.course srv.recorded call).requests_eq (hasRead.url_eq ▸ hasRead.isUrl)
  · intro call nothing
    exact (hasRead.course srv.recorded call).cache_eq nothing
  · intro uses last
    have shut : Shut url last.1 :=
      hasRead.url_eq ▸ (Shut.of_close srv.recorded both).uses srv.recorded uses
    refine ⟨?_, shut.read srv.recorded⟩
    rw [shut.empty]
    rfl

/-- The fourth request fails. -/
def faltering : ScriptedServer where
  data := some sixBytes
  faults := [⟨4, .raise (.fault ⟨.system .timeout, "timed out"⟩)⟩]

/-- The first of two ranges is read again, and then the request for a third one fails. -/
def rereading : List Cursor.Call :=
  [.read (some 1), .read (some 1), .seek 0 0, .read (some 1), .seek 4 0, .read (some 1), .tell]

/-- Of three ranges in a cache for two, the one that was read again stays and the other one leaves.
It leaves when the third is read, not when the request for the third fails. -/
theorem cache_recalls_recent_reads_of_faltering :
    let srv := ScriptedServer.server.recorded
    let first : RangeFile × ScriptedServer × List RangeRequest :=
      ({ url := "http://files/six", size := 6, capacity := 2 },
        (connect srv "http://files/six" (2 : Nat) (faltering, [])).state)
    let both := after srv rereading first
    both.1.cache.ranges = [⟨1, 2⟩, ⟨0, 1⟩] ∧
    (respond srv both (.read (some 1))).2.2.2 = both.2.2 ++ [⟨"http://files/six", 4, 4⟩] ∧
    (after srv (rereading ++ [.read (some 1)]) first).1.cache.ranges = [⟨0, 1⟩, ⟨4, 5⟩] ∧
    (use srv both .close).1.cache.size = 0 := by
  have opened : (connect ScriptedServer.server.recorded "http://files/six" (2 : Nat)
      (faltering, [])).result = .ok { url := "http://files/six", size := 6, capacity := 2 } := rfl
  have here := cache_recalls_recent_reads _ opened rereading
  have later := cache_recalls_recent_reads _ opened (rereading ++ [.read (some 1)])
  refine ⟨Eq.trans here.1 ?_, Eq.trans (here.2.2.1 (.read (some 1))) (congrArg _ ?_),
    Eq.trans later.1 ?_, (here.2.2.2.2 []).1⟩
  · decide
  · decide
  · decide

end RangeFile
end RowReader
