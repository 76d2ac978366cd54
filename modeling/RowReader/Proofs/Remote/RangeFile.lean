import RowReader.Remote.RangeFile
import RowReader.Proofs.Remote.Cursor
import RowReader.Proofs.Remote.Holding

/-!
# Ranged files over a server that holds their bytes

`RangeFile.Sound` is the invariant of an open ranged file: it knows the size, stands inside the
bytes, and every range in its cache has bytes that the server may have answered it with.  Nothing is
said of which ranges are in the cache, so nothing that is derived from the invariant can depend on
it.  A move keeps the invariant, and so does a read, which brings bytes of the window at the position
and moves behind them.  A read that fails changes nothing.
-/

namespace RowReader

open RowReader.Action

/-! ## The cache -/

namespace RangeCache

variable {c : RangeCache} {range : ByteRange} {data : List UInt8} {entry : ByteRange × List UInt8}

theorem mem_of_find? (found : c.find? range = some data) : (range, data) ∈ c.entries := by
  rcases Option.map_eq_some_iff.mp found with ⟨⟨key, kept⟩, there, rfl⟩
  have same := List.find?_some there
  have same : key = range := eq_of_beq same
  exact same ▸ List.mem_of_find?_eq_some there

theorem of_mem_put (member : entry ∈ (c.put range data).entries) :
    (entry ∈ c.entries ∧ entry.1 ≠ range) ∨ entry = (range, data) := by
  rcases List.mem_append.mp member with old | new
  · rcases List.mem_filter.mp old with ⟨there, other⟩
    exact Or.inl ⟨there, by simpa using other⟩
  · exact Or.inr (List.mem_singleton.mp new)

theorem of_mem_trim {capacity : Int} (member : entry ∈ (c.trim capacity).entries) :
    entry ∈ c.entries :=
  List.mem_of_mem_drop member

end RangeCache

namespace RangeFile

variable {ω α : Type} {srv : Server ω} {url : String} {bytes : List UInt8} {manner : Manner}
  {good : ω → Prop} {f : RangeFile} {w : ω}

/-- An open ranged file over these bytes. -/
structure Sound (manner : Manner) (url : String) (bytes : List UInt8) (f : RangeFile) : Prop where
  url_eq : f.url = url
  isUrl : Remote.isUrl url = true
  size_eq : f.size = bytes.length
  inside : f.position ≤ bytes.length
  isOpen : f.closed = false
  room : 0 ≤ f.capacity
  cached : ∀ entry ∈ f.cache.entries,
    manner.delivers entry.2 (slice bytes entry.1.start entry.1.stop)

namespace Sound

theorem at_position (sound : Sound manner url bytes f) {p : Nat} (inside : p ≤ bytes.length) :
    Sound manner url bytes { f with position := p } :=
  { sound with inside }

/-- Bytes that the server may have answered a range with can be kept for it. -/
theorem keep (sound : Sound manner url bytes f) {range : ByteRange} {data : List UInt8}
    (part : manner.delivers data (slice bytes range.start range.stop)) :
    Sound manner url bytes { f with cache := f.cache.put range data } :=
  { sound with
    cached := by
      intro entry member
      rcases RangeCache.of_mem_put member with ⟨old, -⟩ | rfl
      · exact sound.cached entry old
      · exact part }

theorem trim (sound : Sound manner url bytes f) (capacity : Int) :
    Sound manner url bytes { f with cache := f.cache.trim capacity } :=
  { sound with cached := fun entry member => sound.cached entry (RangeCache.of_mem_trim member) }

end Sound

/-! ## Opening -/

/-- Opening asks for the size and nothing else. -/
theorem connect_yields (holds : srv.Holds url bytes manner good) {capacity : Int}
    (named : Remote.isUrl url = true) (here : good w) :
    ∃ w', good w' ∧
      (Yields (connect srv url capacity) w (.ok { url, size := bytes.length, capacity }) w' ∨
        ∃ cause, manner.faults cause ∧
          Yields (connect srv url capacity) w (.error (.unknownSize url cause)) w') := by
  have allowed := yields_ofExcept_of_eq (Remote.checkUrl_of_isUrl named) w
  rcases Remote.length_yields holds named here with ⟨w', there, sized | ⟨cause, fault, fails⟩⟩
  · refine ⟨w', there, Or.inl (allowed.bind (sized.bind ?_))⟩
    exact (yields_note _ _ _ _).bind (yields_pure _ _)
  · exact ⟨w', there, Or.inr ⟨cause, fault, allowed.bind fails.bind_error⟩⟩

/-- Nothing but a URL is opened. -/
theorem isUrl_of_connect {capacity : Int}
    (opened : (connect srv url capacity w).result = .ok f) : Remote.isUrl url = true := by
  cases named : Remote.isUrl url with
  | true => rfl
  | false =>
    have fails : Yields (connect srv url capacity) w (.error .notAUrl) w :=
      (yields_ofExcept_of_eq (Remote.checkUrl_of_not named) w).bind_error
    rw [fails.result] at opened
    cases opened

theorem sound_of_fresh (manner : Manner) (named : Remote.isUrl url = true) {capacity : Int}
    (room : 0 ≤ capacity) : Sound manner url bytes { url, size := bytes.length, capacity } where
  url_eq := rfl
  isUrl := named
  size_eq := rfl
  inside := Nat.zero_le _
  isOpen := rfl
  room := room
  cached := fun _ member => absurd member List.not_mem_nil

/-! ## Moving -/

theorem yields_current (both : RangeFile × ω) : Yields current both (.ok both.1) both :=
  ⟨rfl, rfl⟩

theorem yields_update (change : RangeFile → RangeFile) (both : RangeFile × ω) :
    Yields (update change) both (.ok ()) (change both.1, both.2) :=
  ⟨rfl, rfl⟩

theorem yields_onServer {act : Action ω α} {r : Except Error α} {w' : ω} (f : RangeFile)
    (ends : Yields act w r w') : Yields (onServer act) (f, w) r (f, w') :=
  ends.onPart

/-- A sound file is brought between the front and the end of its bytes. -/
theorem Sound.clamp_eq (sound : Sound manner url bytes f) (position : Int) :
    f.clamp position = Cursor.inside bytes position := by
  rw [clamp, sound.size_eq, Cursor.inside]

theorem inside_le (bytes : List UInt8) (position : Int) :
    Cursor.inside bytes position ≤ bytes.length := by
  unfold Cursor.inside
  omega

theorem seek_yields (f : RangeFile) (w : ω) (offset : Int) (whence : Whence) :
    Yields (seek offset whence) (f, w) (.ok (f.clamp (f.target offset whence)))
      ({ f with position := f.clamp (f.target offset whence) }, w) :=
  (yields_current (f, w)).bind ((yields_update _ _).bind (yields_pure _ _))

/-! ## Reading -/

/-- The number of bytes that a read asks for. -/
def asked (f : RangeFile) : Option Int → Int
  | some n => if n < 0 then f.size - f.position else n
  | none => f.size - f.position

theorem rangeFor_eq (f : RangeFile) (count : Option Int) :
    f.rangeFor count =
      if min (f.position + f.asked count) f.size ≤ f.position then none
      else some ⟨f.position, (min (f.position + f.asked count) f.size).toNat⟩ := by
  cases count <;> rfl

theorem Sound.window_eq (sound : Sound manner url bytes f) (count : Option Int) :
    0 ≤ f.asked count ∧
      Cursor.window bytes f.position count = (bytes.drop f.position).take (f.asked count).toNat := by
  have size := sound.size_eq
  have inside := sound.inside
  have rest : (bytes.drop f.position).take (f.size - f.position).toNat = bytes.drop f.position := by
    apply List.take_of_length_le
    rw [List.length_drop]
    omega
  cases count with
  | none => exact ⟨by simp only [asked]; omega, rest.symm⟩
  | some n =>
    by_cases negative : n < 0
    · simp only [asked, Cursor.window, if_pos negative]
      exact ⟨by omega, rest.symm⟩
    · simp only [asked, Cursor.window, if_neg negative]
      exact ⟨Int.not_lt.mp negative, trivial⟩

/-- The range that a read needs is the window at the position; none is needed for an empty one. -/
theorem Sound.rangeFor_spec (sound : Sound manner url bytes f) (count : Option Int) :
    match f.rangeFor count with
    | none => Cursor.window bytes f.position count = []
    | some range => range.start = f.position ∧ range.start < range.stop ∧
        slice bytes range.start range.stop = Cursor.window bytes f.position count := by
  have size := sound.size_eq
  have inside := sound.inside
  rcases sound.window_eq count with ⟨positive, window⟩
  rw [rangeFor_eq, window]
  by_cases nothing : min (f.position + f.asked count) f.size ≤ f.position
  · rw [if_pos nothing]
    apply List.eq_nil_of_length_eq_zero
    rw [List.length_take, List.length_drop]
    omega
  · rw [if_neg nothing]
    have some_wanted : f.position < (min (f.position + f.asked count) f.size).toNat := by omega
    refine ⟨rfl, some_wanted, ?_⟩
    simp only [slice]
    rw [List.take_eq_take_iff, List.length_drop]
    omega

/-! ### On any server -/

/-- Bytes that are kept are used again, and the server is not asked. -/
theorem bytesOf_kept {range : ByteRange} {data : List UInt8}
    (kept : f.cache.find? range = some data) (w : ω) :
    Yields (bytesOf srv range) (f, w) (.ok data)
      ({ f with cache := f.cache.put range data }, w) := by
  apply (yields_current (f, w)).bind
  simp only [kept]
  exact (yields_update _ _).bind (yields_pure _ _)

/-- Other bytes are fetched and kept, as far as the capacity goes. -/
theorem bytesOf_fetched {range : ByteRange} (missing : f.cache.find? range = none)
    (room : 0 ≤ f.capacity) {data : List UInt8} {w' : ω}
    (fetches : Yields (Remote.fetch srv f.url range.start range.stop) w (.ok data) w') :
    Yields (bytesOf srv range) (f, w) (.ok data)
      ({ f with cache := (f.cache.put range data).trim f.capacity }, w') := by
  apply (yields_current (f, w)).bind
  simp only [missing]
  apply (yields_current (f, w)).bind
  apply (yields_note _ _ _ _).bind
  apply (yields_onServer f fetches).bind
  apply (yields_update _ _).bind
  rw [if_neg (Int.not_lt.mpr room)]
  exact yields_pure _ _

theorem bytesOf_unfetched {range : ByteRange} (missing : f.cache.find? range = none) {e : Error}
    {w' : ω} (fails : Yields (Remote.fetch srv f.url range.start range.stop) w (.error e) w') :
    Yields (bytesOf srv range) (f, w) (.error e) (f, w') := by
  apply (yields_current (f, w)).bind
  simp only [missing]
  apply (yields_current (f, w)).bind
  apply (yields_note _ _ _ _).bind
  exact (yields_onServer f fails).bind_error

theorem read_closed (shut : f.closed = true) (count : Option Int) (w : ω) :
    Yields (read srv count) (f, w) (.error (.remoteClosed f.url)) (f, w) := by
  apply (yields_current (f, w)).bind
  simp only [shut]
  exact yields_fail _ _

theorem read_nothing (isOpen : f.closed = false) {count : Option Int}
    (nothing : f.rangeFor count = none) (w : ω) :
    Yields (read srv count) (f, w) (.ok []) (f, w) := by
  apply (yields_current (f, w)).bind
  simp only [isOpen, nothing]
  exact yields_pure _ _

theorem read_brings (isOpen : f.closed = false) {count : Option Int} {range : ByteRange}
    (needed : f.rangeFor count = some range) {data : List UInt8} {g : RangeFile} {w' : ω}
    (brings : Yields (bytesOf srv range) (f, w) (.ok data) (g, w')) :
    Yields (read srv count) (f, w) (.ok data)
      ({ g with position := range.start + data.length }, w') := by
  apply (yields_current (f, w)).bind
  simp only [isOpen, needed]
  exact brings.bind ((yields_update _ _).bind (yields_pure _ _))

theorem read_fails (isOpen : f.closed = false) {count : Option Int} {range : ByteRange}
    (needed : f.rangeFor count = some range) {e : Error} {both : RangeFile × ω}
    (fails : Yields (bytesOf srv range) (f, w) (.error e) both) :
    Yields (read srv count) (f, w) (.error e) both := by
  apply (yields_current (f, w)).bind
  simp only [isOpen, needed]
  exact fails.bind_error

/-! ### On a server that holds the bytes -/

/-- The bytes of a range come from the cache or from the server.  The file is as sound as before
and has not moved; where they cannot be had, nothing has changed. -/
theorem bytesOf_yields (holds : srv.Holds url bytes manner good)
    (sound : Sound manner url bytes f) (here : good w) {range : ByteRange}
    (some_wanted : range.start < range.stop) :
    ∃ w', good w' ∧
      ((∃ data f', manner.delivers data (slice bytes range.start range.stop) ∧
          Sound manner url bytes f' ∧
          Yields (bytesOf srv range) (f, w) (.ok data) (f', w')) ∨
        ∃ cause, manner.faults cause ∧
          Yields (bytesOf srv range) (f, w)
            (.error (.fetchFailed url range.start range.stop cause)) (f, w')) := by
  rcases sound.url_eq with rfl
  cases kept : f.cache.find? range with
  | some data =>
    have part := sound.cached _ (RangeCache.mem_of_find? kept)
    exact ⟨w, here, Or.inl ⟨data, _, part, sound.keep part, bytesOf_kept kept w⟩⟩
  | none =>
    rcases Remote.fetch_yields holds sound.isUrl here some_wanted with ⟨w', there, fetched⟩
    refine ⟨w', there, ?_⟩
    rcases fetched with ⟨data, part, fetches⟩ | ⟨cause, fault, fails⟩
    · exact Or.inl ⟨data, _, part, (sound.keep part).trim f.capacity,
        bytesOf_fetched kept sound.room fetches⟩
    · exact Or.inr ⟨cause, fault, bytesOf_unfetched kept fails⟩

/-- A read brings bytes of the window at the position and moves behind them, or it fails by a fault
of the network and changes nothing. -/
theorem read_yields (holds : srv.Holds url bytes manner good) (sound : Sound manner url bytes f)
    (here : good w) (count : Option Int) :
    ∃ w', good w' ∧
      ((∃ data f', manner.delivers data (Cursor.window bytes f.position count) ∧
          Sound manner url bytes f' ∧ f'.position = f.position + data.length ∧
          Yields (read srv count) (f, w) (.ok data) (f', w')) ∨
        ∃ start stop cause, manner.faults cause ∧
          Yields (read srv count) (f, w) (.error (.fetchFailed url start stop cause)) (f, w')) := by
  have spec := sound.rangeFor_spec count
  cases needed : f.rangeFor count with
  | none =>
    rw [needed] at spec
    exact ⟨w, here, Or.inl ⟨[], f, spec ▸ manner.all_of_wanted [], sound, rfl,
      read_nothing sound.isOpen needed w⟩⟩
  | some range =>
    rw [needed] at spec
    rcases spec with ⟨front, some_wanted, window⟩
    rcases bytesOf_yields holds sound here some_wanted with ⟨w', there, obtained⟩
    refine ⟨w', there, ?_⟩
    rcases obtained with ⟨data, f', part, sound', brings⟩ | ⟨cause, fault, fails⟩
    · rw [window] at part
      have within : range.start + data.length ≤ bytes.length := by
        have short := ((manner.front_of_wanted part).trans
          (Cursor.window_prefix_drop bytes f.position count)).length_le
        rw [List.length_drop] at short
        have inside := sound.inside
        omega
      exact Or.inl ⟨data, { f' with position := range.start + data.length }, part,
        sound'.at_position within, by rw [front], read_brings sound.isOpen needed brings⟩
    · exact Or.inr ⟨_, _, cause, fault, read_fails sound.isOpen needed fails⟩

end RangeFile
end RowReader
