import RowReader.Proofs.Action.Confined
import RowReader.Proofs.Faults
import RowReader.Proofs.Remote.RangeFile
import RowReader.Proofs.Remote.Scripted

/-!
# Servers that may answer anything

Nothing is known here of what a server holds: it may state any size, or none, and answer a range with
any bytes.  Only its failures are known to be faults of the system.  Then whatever fails in a remote
file is reported as a trouble with opening, with one exception: a total that is no number is an error
as it comes out of reading the number.
-/

namespace RowReader

open RowReader.Action

/-- The error is of the kind for files that do not open, or of a more special one. -/
def Error.OfOpening (e : Error) : Prop :=
  ∃ kind, e.kind? = some kind ∧ ErrorKind.opening ∈ kind.lineage

theorem Error.OfOpening.isSome_kind? {e : Error} (opening : e.OfOpening) :
    e.kind?.isSome = true := by
  rcases opening with ⟨kind, known, -⟩
  rw [known]
  rfl

variable {ω : Type}

/-- In the states of which `good` holds, which requests never leave, only faults of the system keep
the server from answering a range or its answer from being read. -/
structure Server.FailsBySystem (srv : Server ω) (good : ω → Prop) : Prop where
  stays : ∀ {w : ω} (url : String) (first last : Int), good w →
    good (srv.request url first last w).state
  refused : ∀ {w : ω} {url : String} {first last : Int} {e : Error}, good w → 0 ≤ first →
    first ≤ last → (srv.request url first last w).result = .error e → e.FaultOf Fault.isSystem
  broken : ∀ {w : ω} {url : String} {first last : Int} {response : Response} {e : Error}, good w →
    0 ≤ first → first ≤ last → (srv.request url first last w).result = .ok response →
    response.body = .error e → e.FaultOf Fault.isSystem

/-- The server answers for the size of a file with a total that reads as this error. -/
def Server.Misstates (srv : Server ω) (url : String) (w : ω) (e : Error) : Prop :=
  ∃ response text, (srv.request url 0 0 w).result = .ok response ∧
    response.contentRange = some text ∧ Remote.totalSize text = .error e

variable {srv : Server ω} {url : String} {good : ω → Prop} {w : ω}

namespace Remote

/-- A text that is no integer has a bare fault for its error. -/
theorem totalSize_error {text : String} {e : Error} (failed : totalSize text = .error e) :
    e.FaultOf Fault.isValue := by
  unfold totalSize at failed
  dsimp only at failed
  cases read : Number.readInteger (behindLastSlash text) with
  | ok size =>
    rw [read] at failed
    cases failed
  | error why =>
    rw [read] at failed
    cases failed
    exact ⟨_, rfl, rfl⟩

theorem networkError_of_system (reword : Fault → Error) {e : Error}
    (system : e.FaultOf Fault.isSystem) : ∃ f, networkError reword e = reword f := by
  rcases system with ⟨f, rfl, known⟩
  exact ⟨f, if_pos known⟩

/-- Asking for the size fails by a trouble with opening, or by the total that is stated. -/
theorem length_confined (system : srv.FailsBySystem good) (named : isUrl url = true)
    (here : good w) :
    Confined good (fun e => e.OfOpening ∨ srv.Misstates url w e) (length srv url) w := by
  apply (yields_ofExcept_of_eq (checkUrl_of_isUrl named) w).bind_confined
  have asked := yields_self (srv.request url 0 0) w
  have there := system.stays url 0 0 here
  cases found : (srv.request url 0 0 w).result with
  | error e =>
    rw [found] at asked
    have fault := system.refused here (Int.le_refl 0) (Int.le_refl 0) found
    rcases networkError_of_system (.unknownSize url) fault with ⟨f, same⟩
    have failed := asked.mapError (networkError (.unknownSize url))
    refine failed.bind_error.confined there ?_
    rintro _ ⟨⟩
    exact .inl ⟨.network, same ▸ rfl, by decide⟩
  | ok response =>
    rw [found] at asked
    apply (asked.mapError _).bind_confined
    cases stated : response.contentRange with
    | none => exact confined_fail there (.inl ⟨.network, rfl, by decide⟩)
    | some text =>
      exact (yields_ofExcept _ _).confined there fun e failed =>
        .inr ⟨response, text, found, stated, failed⟩

/-- A total that is no number comes out as it is. -/
theorem length_misstated (named : isUrl url = true) {e : Error} (misstates : srv.Misstates url w e) :
    Yields (length srv url) w (.error e) (srv.request url 0 0 w).state := by
  rcases misstates with ⟨response, text, found, stated, failed⟩
  have asked := yields_self (srv.request url 0 0) w
  rw [found] at asked
  apply (yields_ofExcept_of_eq (checkUrl_of_isUrl named) w).bind
  apply (asked.mapError _).bind
  simp only [stated, failed]
  exact yields_ofExcept _ _

/-- Fetching a range that is not empty fails by a trouble with opening. -/
theorem fetch_confined (system : srv.FailsBySystem good) (named : isUrl url = true)
    (here : good w) {start stop : Int} (front : 0 ≤ start) (some_wanted : start < stop) :
    Confined good Error.OfOpening (fetch srv url start stop) w := by
  apply (yields_ofExcept_of_eq (checkUrl_of_isUrl named) w).bind_confined
  rw [if_neg (Int.not_le.mpr some_wanted)]
  have within : start ≤ stop - 1 := by omega
  have replied : Confined good (fun e => e.FaultOf Fault.isSystem) (do
      let response ← srv.request url start (stop - 1)
      ofExcept response.body) w := by
    have asked : Confined good (fun e => e.FaultOf Fault.isSystem)
        (srv.request url start (stop - 1)) w :=
      ⟨system.stays url _ _ here, fun e => system.refused here front within⟩
    refine asked.bind fun response t answered there => ?_
    exact (yields_ofExcept _ t).confined there fun e =>
      system.broken here front within answered.result
  refine replied.mapError fun e fault => ?_
  rcases networkError_of_system (.fetchFailed url start stop) fault with ⟨f, same⟩
  exact ⟨.network, same ▸ rfl, by decide⟩

end Remote

namespace RangeFile

/-- An open file of some server in order.  Its size may be anything. -/
structure Live (good : ω → Prop) (both : RangeFile × ω) : Prop where
  isUrl : Remote.isUrl both.1.url = true
  isOpen : both.1.closed = false
  room : 0 ≤ both.1.capacity
  server : good both.2

variable {both : RangeFile × ω}

/-- Only the place and the cache of a live file ever change. -/
theorem Live.change (live : Live good both) (position : Nat) (cache : RangeCache) :
    Live good ({ both.1 with position, cache }, both.2) :=
  ⟨live.isUrl, live.isOpen, live.room, live.server⟩

/-- Connecting fails as asking for the size does. -/
theorem connect_confined (system : srv.FailsBySystem good) (named : Remote.isUrl url = true)
    (here : good w) (capacity : Int) :
    Confined good (fun e => e.OfOpening ∨ srv.Misstates url w e) (connect srv url capacity) w := by
  apply (yields_ofExcept_of_eq (Remote.checkUrl_of_isUrl named) w).bind_confined
  refine (Remote.length_confined system named here).bind fun size t _ there => ?_
  apply (yields_note _ _ _ t).bind_confined
  exact confined_pure _ there

theorem connect_live (named : Remote.isUrl url = true) {capacity : Int} (room : 0 ≤ capacity) :
    Ensures (connect srv url capacity) w fun f t => good t → Live good (f, t) := by
  refine ensures_bind_any fun _ _ => ensures_bind_any fun size _ => ensures_bind_any fun _ t => ?_
  exact ensures_pure fun there => ⟨named, rfl, room, there⟩

theorem bytesOf_confined (system : srv.FailsBySystem good) (live : Live good both)
    {range : ByteRange} (some_wanted : range.start < range.stop) :
    Confined (Live good) Error.OfOpening (bytesOf srv range) both := by
  apply (yields_current both).bind_confined
  cases both.1.cache.find? range with
  | some data =>
    exact ((yields_update _ both).bind (yields_pure data _)).confined_ok (live.change _ _)
  | none =>
    apply (yields_current both).bind_confined
    apply (yields_note _ _ _ both).bind_confined
    have fetched := Remote.fetch_confined system live.isUrl live.server
      (Int.natCast_nonneg range.start) (Int.ofNat_lt.mpr some_wanted)
    have reached : Confined (Live good) Error.OfOpening
        (onServer (Remote.fetch srv both.1.url range.start range.stop)) both :=
      fetched.onPart fun t there => ⟨live.isUrl, live.isOpen, live.room, there⟩
    refine reached.bind fun data t _ there => ?_
    apply (yields_update _ t).bind_confined
    rw [if_neg (Int.not_lt.mpr live.room)]
    exact confined_pure data (there.change _ _)

/-- A range that is asked for is not empty, whatever the size. -/
theorem start_lt_stop {f : RangeFile} {count : Option Int} {range : ByteRange}
    (needed : f.rangeFor count = some range) : range.start < range.stop := by
  rw [rangeFor_eq] at needed
  split at needed
  · cases needed
  · cases needed
    dsimp only
    omega

/-- Reading an open file fails by a trouble with opening, whatever the size that was stated. -/
theorem read_confined (system : srv.FailsBySystem good) (live : Live good both)
    (count : Option Int) : Confined (Live good) Error.OfOpening (read srv count) both := by
  apply (yields_current both).bind_confined
  simp only [live.isOpen]
  cases needed : both.1.rangeFor count with
  | none => exact confined_pure [] live
  | some range =>
    refine (bytesOf_confined system live (start_lt_stop needed)).bind fun data t _ there => ?_
    exact ((yields_update _ t).bind (yields_pure data _)).confined_ok (there.change _ _)

/-- Moving does not fail at all. -/
theorem seek_confined (live : Live good both) (offset : Int) (whence : Whence) :
    Confined (Live good) Error.OfOpening (seek offset whence) both :=
  (seek_yields both.1 both.2 offset whence).confined_ok (live.change _ _)

end RangeFile

/-! ## Scripted servers -/

namespace ScriptedServer

variable {srv : ScriptedServer}

/-- No mishap of the script is worse than a fault of the system or an answer that is cut short. -/
def Tame (srv : ScriptedServer) : Prop := ∀ fault ∈ srv.faults, Manner.lossy.Allows fault.mishap

theorem request_missing (missing : srv.data = none) (url : String) (first last : Int) :
    Yields (request url first last) srv (.error (.fault ⟨.system .url, "no server"⟩)) srv := by
  apply (yields_getState srv).bind
  simp only [missing]
  exact yields_fail _ srv

theorem Tame.answers (tame : srv.Tame) (url : String) {first : Int} (last : Int)
    (front : 0 ≤ first) :
    ∃ wanted, Manner.lossy.Answers wanted (request url first last srv).result := by
  cases held : srv.data with
  | none =>
    rw [(request_missing held url first last).result]
    exact ⟨[], .refused rfl⟩
  | some bytes =>
    rw [(request_yields held url first last).result]
    have recorded : (srv.recorded url first last).Tame := tame
    exact ⟨_, answer_allowed recorded bytes last front⟩

theorem Tame.request (tame : srv.Tame) (url : String) (first last : Int) :
    (request url first last srv).state.Tame := by
  cases held : srv.data with
  | none =>
    rw [(request_missing held url first last).state]
    exact tame
  | some bytes =>
    rw [(request_yields held url first last).state]
    exact tame

theorem failsBySystem : server.FailsBySystem Tame where
  stays := fun url first last tame => tame.request url first last
  refused := by
    intro srv url first last e tame front _ failed
    rcases tame.answers url last front with ⟨wanted, answers⟩
    rw [show (ScriptedServer.request url first last srv).result = _ from failed] at answers
    cases answers with
    | refused fault => exact ⟨_, rfl, fault⟩
  broken := by
    intro srv url first last response e tame front _ answered failed
    rcases tame.answers url last front with ⟨wanted, answers⟩
    rw [show (ScriptedServer.request url first last srv).result = _ from answered] at answers
    cases answers with
    | broken fault =>
      cases failed
      exact ⟨_, rfl, fault⟩
    | delivered _ => cases failed

end ScriptedServer
end RowReader
