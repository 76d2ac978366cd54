import RowReader.Proofs.ByteFile.Layout
import RowReader.Proofs.Reader.Ready
import RowReader.Proofs.Remote.History

/-!
# Reads from a server that has recovered

A server may cut answers short for a while and then answer all in full.  What a read brings then is
settled by what was read before.  Bytes that are remembered for its range come as they came then,
cut or not, and any other range comes whole.
-/

namespace RowReader

open RowReader.Action

namespace ScriptedServer

/-! ## Scripts that have run out -/

/-- The server has these bytes and states their number, and all mishaps of its script are behind
it. -/
structure Recovered (bytes : List UInt8) (srv : ScriptedServer) : Prop where
  data : srv.data = some bytes
  statedRange : srv.statedRange = .actual
  past : ∀ fault ∈ srv.faults, fault.nth ≤ srv.requested.length

variable {bytes : List UInt8} {srv : ScriptedServer}

theorem Recovered.recorded (recovered : Recovered bytes srv) (url : String) (first last : Int) :
    Recovered bytes (srv.recorded url first last) where
  data := recovered.data
  statedRange := recovered.statedRange
  past := fun fault member => Nat.le_succ_of_le (recovered.past fault member)

theorem Recovered.mishaps_recorded (recovered : Recovered bytes srv) (url : String)
    (first last : Int) : (srv.recorded url first last).mishaps = [] := by
  rw [mishaps, List.map_eq_nil_iff, List.filter_eq_nil_iff]
  intro fault member now
  have past := recovered.past fault member
  have now : fault.nth = srv.requested.length + 1 := eq_of_beq now
  omega

/-- It answers in full from then on. -/
theorem Recovered.request_yields (recovered : Recovered bytes srv) (url : String) {first : Int}
    (last : Int) (front : 0 ≤ first) :
    Yields (request url first last) srv
      (.ok
        { contentRange := some s!"bytes {first}-{last}/{bytes.length}"
          body := .ok (slice bytes first.toNat (last + 1).toNat) })
      (srv.recorded url first last) := by
  have asked := ScriptedServer.request_yields recovered.data url first last
  have quiet := recovered.mishaps_recorded url first last
  rw [answer_of_not_raised (by rw [quiet]; rfl) bytes last front, quiet] at asked
  simp only [contentRange, (recovered.recorded url first last).statedRange] at asked
  exact asked

theorem holds_recovered (url : String) (bytes : List UInt8)
    (total : Remote.totalSize s!"bytes {(0 : Int)}-{(0 : Int)}/{bytes.length}" = .ok bytes.length) :
    server.Holds url bytes .faithful (Recovered bytes) where
  stays := by
    intro srv first last recovered
    have asked : Yields (server.request url first last) srv _ _ :=
      ScriptedServer.request_yields recovered.data url first last
    exact asked.state ▸ recovered.recorded url first last
  answers := by
    intro srv first last recovered front _
    have asked : Yields (server.request url first last) srv _ _ :=
      recovered.request_yields url last front
    exact asked.result ▸ .delivered rfl
  stated := by
    intro srv response recovered answered
    have asked : Yields (server.request url 0 0) srv _ _ :=
      recovered.request_yields url 0 (Int.le_refl 0)
    rw [asked.result] at answered
    cases answered
    exact ⟨_, rfl, total⟩

end ScriptedServer

namespace RangeFile

/-! ## One more read -/

/-- The bytes that are remembered for a range: those that its last read brought, if the range is
among the recent ones. -/
def remembered (capacity : Nat) (reads : List (ByteRange × List UInt8)) :
    Option ByteRange → Option (List UInt8)
  | some range =>
    if range ∈ recent capacity (reads.map Prod.fst) then reads.reverse.lookup range else none
  | none => none

variable {ω : Type} {srv : Server ω} {url : String} {bytes : List UInt8} {manner : Manner}
  {good recovered : ω → Prop} {capacity : Nat} {reads : List (ByteRange × List UInt8)}
  {f : RangeFile} {w : ω}

theorem HasRead.remembered_eq (hasRead : HasRead url capacity reads f) (range : ByteRange) :
    remembered capacity reads (some range) = f.cache.find? range :=
  (hasRead.recalls.find?_eq range).symm

/-- What is remembered of a range is the front of it. -/
theorem remembered_prefix (hasRead : HasRead url capacity reads f)
    (sound : Sound manner url bytes f) {count : Option Int} {data : List UInt8}
    (kept : remembered capacity reads (f.needs (.read count)) = some data) :
    data <+: Cursor.window bytes f.position count := by
  have spec := sound.rangeFor_spec count
  rw [needs] at kept
  cases needed : f.rangeFor count with
  | none =>
    rw [needed] at kept
    cases kept
  | some range =>
    rw [needed] at spec kept
    rw [hasRead.remembered_eq] at kept
    rw [← spec.2.2]
    exact manner.front_of_wanted (sound.cached _ (RangeCache.mem_of_find? kept))

/-- A read from a server that answers in full brings what is remembered, or all that it wants. -/
theorem read_recovered (recovery : srv.Holds url bytes .faithful recovered)
    (hasRead : HasRead url capacity reads f) (sound : Sound manner url bytes f)
    (here : recovered w) (count : Option Int) :
    ∃ g w', recovered w' ∧
      Yields (read srv count) (f, w)
        (.ok ((remembered capacity reads (f.needs (.read count))).getD
          (Cursor.window bytes f.position count))) (g, w') := by
  have spec := sound.rangeFor_spec count
  rw [needs]
  cases needed : f.rangeFor count with
  | none =>
    rw [needed] at spec
    rw [remembered, Option.getD_none, show Cursor.window bytes f.position count = [] from spec]
    exact ⟨f, w, here, read_nothing sound.isOpen needed w⟩
  | some range =>
    rw [needed] at spec
    rcases spec with ⟨-, some_wanted, window⟩
    rw [hasRead.remembered_eq]
    cases found : f.cache.find? range with
    | some data => exact ⟨_, w, here, read_brings sound.isOpen needed (bytesOf_kept found w)⟩
    | none =>
      rcases Remote.fetch_yields recovery sound.isUrl here some_wanted
        with ⟨w', there, ⟨data, whole, fetches⟩ | ⟨_, impossible, _⟩⟩
      · have all : data = Cursor.window bytes f.position count := whole.trans window
        subst all
        rcases sound.url_eq with rfl
        exact ⟨_, w', there, read_brings sound.isOpen needed
          (bytesOf_fetched found sound.room fetches)⟩
      · exact impossible.elim

/-! ## The same read again -/

theorem rangeFor_congr {f g : RangeFile} (position : g.position = f.position)
    (size : g.size = f.size) (count : Option Int) : g.rangeFor count = f.rangeFor count := by
  simp only [rangeFor, position, size]

theorem Course.size_eq {call : Cursor.Call} {reply : Cursor.Reply} {g : RangeFile} {w' : ω}
    (course : Course srv f w call (reply, g, w')) : g.size = f.size := by
  cases course <;> rfl

/-- A cache with any room holds the range that was read last. -/
theorem HasRead.find?_last {n : Nat} {range : ByteRange} {data : List UInt8}
    (hasRead : HasRead url (n + 1) (reads ++ [(range, data)]) f) :
    f.cache.find? range = some data := by
  rw [hasRead.recalls.find?_eq, List.map_append, List.map_singleton, recent_concat,
    List.rtake_concat_succ, if_pos (List.mem_append_right _ (List.mem_singleton_self range)),
    RangeCache.lookup_concat, if_pos rfl]

/-- If there is any room in the cache, a read that is made again at once brings the same, on any
server and without asking it. -/
theorem read_again {n : Nat} (hasRead : HasRead url (n + 1) reads f) {count : Option Int}
    {data : List UInt8} {g : RangeFile} {w' : ω}
    (brings : Yields (read srv count) (f, w) (.ok data) (g, w')) (v : ω) :
    g.size = f.size ∧
      ∃ h, Yields (read srv count) ({ g with position := f.position }, v) (.ok data) (h, v) := by
  have room : (0 : Int) ≤ f.capacity := hasRead.capacity_eq ▸ Int.natCast_nonneg (n + 1)
  have course := respond_course srv hasRead.isOpen room w (.read count)
  rw [respond_read brings] at course
  have further := hasRead.further course
  have size := course.size_eq
  have back : ({ g with position := f.position } : RangeFile).position = f.position := rfl
  have same := rangeFor_congr back size count
  have isOpen : ({ g with position := f.position } : RangeFile).closed = false := further.isOpen
  refine ⟨size, ?_⟩
  cases needed : f.rangeFor count with
  | none =>
    rw [needed] at same
    have nothing := (brings.unique (read_nothing hasRead.isOpen needed w)).1
    cases nothing
    exact ⟨_, read_nothing isOpen same v⟩
  | some range =>
    rw [needed] at same
    have wanted : f.needs (.read count) = some range := needed
    rw [readBy_brings wanted] at further
    have kept : ({ g with position := f.position } : RangeFile).cache.find? range = some data :=
      further.find?_last
    exact ⟨_, read_brings isOpen same (bytesOf_kept kept v)⟩

/-! ## The footer again -/

/-- Where the end of a file is found. -/
def stopOf (f : RangeFile) : Nat := f.clamp (f.target 0 .stop)

/-- Where the trailer is looked for. -/
def trailerAt (f : RangeFile) : Nat := f.clamp (f.stopOf - trailerSize)

/-- Both depend on the size alone. -/
theorem trailerAt_congr {f g : RangeFile} (size : g.size = f.size) :
    g.stopOf = f.stopOf ∧ g.trailerAt = f.trailerAt := by
  simp only [trailerAt, stopOf, clamp, target, size, and_self]

theorem checkFooter_reads {data : List UInt8} {g : RangeFile} {w' : ω}
    (brings : Yields (read srv (some trailerSize)) ({ f with position := f.trailerAt }, w)
      (.ok data) (g, w')) :
    Yields (file srv).checkFooter (f, w) (ByteFile.footerLengthIn f.stopOf data)
      ({ g with position := g.clamp 0 }, w') := by
  apply (seek_yields f w 0 .stop).bind
  have trailer : Yields ((file srv).readAt (f.stopOf - trailerSize) trailerSize)
      ({ f with position := f.stopOf }, w) (.ok data) (g, w') :=
    (seek_yields { f with position := f.stopOf } w (f.stopOf - trailerSize) .start).bind brings
  apply trailer.bind
  have rewinds : Yields (file srv).rewind (g, w') (.ok ()) ({ g with position := g.clamp 0 }, w') :=
    (seek_yields g w' 0 .start).bind (yields_pure _ _)
  exact rewinds.bind (yields_ofExcept _ _)

theorem checkFooter_fails {e : Error} {both : RangeFile × ω}
    (fails : Yields (read srv (some trailerSize)) ({ f with position := f.trailerAt }, w)
      (.error e) both) : Yields (file srv).checkFooter (f, w) (.error e) both := by
  apply (seek_yields f w 0 .stop).bind
  have trailer : Yields ((file srv).readAt (f.stopOf - trailerSize) trailerSize)
      ({ f with position := f.stopOf }, w) (.error e) both :=
    (seek_yields { f with position := f.stopOf } w (f.stopOf - trailerSize) .start).bind fails
  exact trailer.bind_error

/-- A trailer that came back cut is found cut again. -/
theorem checkFooter_again {n : Nat} (holds : srv.Holds url bytes manner good)
    (hasRead : HasRead url (n + 1) reads f) (sound : Sound manner url bytes f) (here : good w)
    (cut : ((file srv).checkFooter (f, w)).result = .error .footerCut) :
    ∃ g w', Yields (file srv).checkFooter (f, w) (.error .footerCut) (g, w') ∧
      ∀ v, ((file srv).checkFooter (g, v)).result = .error .footerCut := by
  have there : HasRead url (n + 1) reads { f with position := f.trailerAt } :=
    { hasRead with recalls := hasRead.recalls }
  have inside : f.trailerAt ≤ bytes.length := by
    rw [trailerAt, sound.clamp_eq]
    exact inside_le bytes _
  rcases read_yields holds (sound.at_position inside) here (some trailerSize)
    with ⟨w', -, ⟨data, g, -, -, -, reads⟩ | ⟨_, _, cause, -, fails⟩⟩
  · have checked := checkFooter_reads reads
    rw [checked.result] at cut
    rw [cut] at checked
    refine ⟨_, w', checked, fun v => ?_⟩
    rcases read_again there reads v with ⟨size, h, again⟩
    rcases trailerAt_congr size with ⟨stop, trailer⟩
    have again : Yields (read srv (some trailerSize))
        ({ { g with position := g.clamp 0 } with position := g.trailerAt }, v) (.ok data) (h, v) :=
      trailer ▸ again
    have rechecked := checkFooter_reads again
    rw [rechecked.result, ← cut]
    exact congrArg (ByteFile.footerLengthIn · data) stop
  · rw [(checkFooter_fails fails).result] at cut
    cases cut

/-! ## After any calls -/

/-- A ranged file is used while its server cuts answers short and fails as it likes.  When the
server has recovered, a read succeeds.  It brings the bytes that are remembered for its range, which
may be less than the server holds of it, and otherwise all that it wants.

A trailer that came back cut is remembered as well.  The schema that could not be read for it cannot
be read the next time either, whatever has become of the server. -/
theorem read_after_cut_answers (holds : srv.Holds url bytes .lossy good)
    (recovery : srv.Holds url bytes .faithful recovered) (here : good w)
    (opened : (connect srv url capacity w).result = .ok f) (calls : List Cursor.Call)
    (count : Option Int) :
    let first := (f, (connect srv url capacity w).state)
    let both := after srv calls first
    let window := Cursor.window bytes both.1.position count
    let kept := remembered capacity (history srv calls first) (both.1.needs (.read count))
    (recovered both.2 → (read srv count both).result = .ok (kept.getD window) ∧
      recovered (read srv count both).state.2) ∧
    (∀ data, kept = some data → data <+: window) ∧
    (0 < capacity → ∀ r : Reader, r.closed = false → r.footerRead = false → r.schema = none →
      ((file srv).checkFooter both).result = .error .footerCut →
      ∃ g w', Yields (Reader.readSchema (file srv)) (r, both) (.error .footerCut) (r, g, w') ∧
        ∀ v, (Reader.readSchema (file srv) (r, g, v)).result = .error .footerCut) := by
  intro first both window kept
  have fresh : HasRead url capacity [] first.1 := connect_hasRead opened
  have hasRead : HasRead url capacity (history srv calls first) both.1 := fresh.after srv calls
  have room : (0 : Int) ≤ capacity := Int.natCast_nonneg capacity
  have served : Served .lossy url bytes good both :=
    (replies_run holds calls (connect_served holds room here opened).2).2
  refine ⟨?_, fun data => remembered_prefix hasRead served.sound, ?_⟩
  · intro back
    rcases read_recovered recovery hasRead served.sound back count with ⟨g, w', there, reads⟩
    refine ⟨reads.result, ?_⟩
    have left : (read srv count both).state = (g, w') := reads.state
    rw [left]
    exact there
  · intro some_room r isOpen unparsed unread cut
    rcases Nat.exists_eq_succ_of_ne_zero some_room.ne' with ⟨n, rfl⟩
    rcases checkFooter_again holds hasRead served.sound served.here cut with ⟨g, w', checked, again⟩
    refine ⟨g, w', Reader.readSchema_unchecked isOpen unread unparsed checked, fun v => ?_⟩
    have rechecked := yields_self (file srv).checkFooter (g, v)
    rw [again v] at rechecked
    exact (Reader.readSchema_unchecked isOpen unread unparsed rechecked).result

/-- The answer to the second request is cut to one byte. -/
def cutOnce (bytes : List UInt8) : ScriptedServer where
  data := some bytes
  faults := [⟨2, .short 1⟩]

theorem cutOnce_keeps (bytes : List UInt8) : (cutOnce bytes).Keeps bytes .lossy where
  data := rfl
  statedRange := rfl
  faults := by
    intro fault member
    rcases List.mem_singleton.mp member with rfl
    exact Manner.lossy_allows_short 1

/-- A reader of a file without fields. -/
def bareReader : Reader where
  name := "bare"
  options := Options.standard
  decoding := .ok { leaves := .ok [], fields := [], rows := 0, groups := [] }

/-- In a cache for one range another read drives the cut bytes out, and the range comes whole.  The
footer of the least file, whose trailer came back cut, is not found again. -/
theorem read_after_cut_answers_of_cutOnce :
    let srv := ScriptedServer.server
    let url := "http://files/six"
    let first : RangeFile × ScriptedServer :=
      ({ url, size := 6, capacity := 1 }, (connect srv url (1 : Nat) (cutOnce sixBytes)).state)
    let both := after srv [.read (some 2), .read (some 2), .seek 0 0] first
    let fresh : RangeFile × ScriptedServer :=
      ({ url, size := 13, capacity := 8 },
        (connect srv url (8 : Nat) (cutOnce (leastStating 1))).state)
    (read srv (some 2) both).result = .ok [10, 11] ∧
    ∃ g w', Yields (Reader.readSchema (file srv)) (bareReader, fresh) (.error .footerCut)
        (bareReader, g, w') ∧
      ∀ v, (Reader.readSchema (file srv) (bareReader, g, v)).result = .error .footerCut := by
  have opened : (connect ScriptedServer.server "http://files/six" (1 : Nat)
      (cutOnce sixBytes)).result =
        .ok { url := "http://files/six", size := 6, capacity := 1 } := rfl
  have whole := ScriptedServer.holds_recovered "http://files/six" sixBytes rfl
  have reads := read_after_cut_answers (sixBytes_held .lossy) whole (cutOnce_keeps sixBytes) opened
    [.read (some 2), .read (some 2), .seek 0 0] (some 2)
  have opened' : (connect ScriptedServer.server "http://files/six" (8 : Nat)
      (cutOnce (leastStating 1))).result =
        .ok { url := "http://files/six", size := 13, capacity := 8 } := rfl
  have held := ScriptedServer.holds "http://files/six" (leastStating 1) .lossy rfl
  have whole' := ScriptedServer.holds_recovered "http://files/six" (leastStating 1) rfl
  have finds := read_after_cut_answers held whole' (cutOnce_keeps (leastStating 1)) opened' [] none
  exact ⟨(reads.1 ⟨rfl, rfl, by decide⟩).1,
    finds.2.2 (by decide) bareReader rfl rfl rfl rfl⟩

/-- Otherwise they come again.  The server holds two bytes for the range and has long recovered, but
the file reads one.  The footer of the least file is in order, but once its trailer came back cut
it is found neither at once nor later. -/
theorem cut_answer_comes_again :
    let srv := ScriptedServer.server
    let url := "http://files/six"
    let both := after srv [.read (some 2), .seek 0 0]
      ({ url, size := 6, capacity := 8 }, (connect srv url 8 (cutOnce sixBytes)).state)
    let fresh : RangeFile × ScriptedServer :=
      ({ url, size := 13, capacity := 8 },
        (connect srv url 8 (cutOnce (leastStating 1))).state)
    let failed := (Reader.readSchema (file srv) (bareReader, fresh)).state
    (ScriptedServer.Recovered sixBytes both.2 ∧
      Cursor.window sixBytes both.1.position (some 2) = [10, 11] ∧
      (read srv (some 2) both).result = .ok [10]) ∧
    ScriptedServer.Recovered (leastStating 1) failed.2.2 ∧
      (Reader.readSchema (file srv) (bareReader, fresh.1, failed.2.2)).result = .ok [] ∧
      (Reader.readSchema (file srv) failed).result = .error .footerCut :=
  ⟨⟨⟨rfl, rfl, by decide⟩, rfl, rfl⟩, ⟨rfl, rfl, by decide⟩, rfl, rfl⟩

end RangeFile
end RowReader
