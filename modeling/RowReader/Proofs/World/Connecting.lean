import RowReader.Proofs.Reader.Opening
import RowReader.Proofs.Remote.Failures
import RowReader.Proofs.World.Ranged
import RowReader.Remote.Scripted

/-!
# Opening a URL

To open a URL, the server is asked for the size, and what the file begins and ends with is read by
ranges.  The server may state any size and answer with any bytes.  If only faults of the system make
it fail, then a URL opens or is refused with an error of opening, unless the total that the server
states is no number: reading the number is the one step whose failure nobody rewords.
-/

namespace RowReader

open RowReader.Action

variable {ω α : Type} {srv : Server ω} {good : ω → Prop}

namespace Handle

/-- A remote file that is open over a server in order. -/
def Online (good : ω → Prop) (both : Handle × World ω) : Prop :=
  ∃ f, both.1 = .ranged f ∧ RangeFile.Live good (f, both.2.server)

/-- What is done to a remote file is done in a world that is otherwise left as it is. -/
theorem Online.act {both : Handle × World ω} (online : Online good both)
    (stored : Action MemoryFile α) {ranged : Action (RangeFile × ω) α}
    (confined : ∀ f : RangeFile, RangeFile.Live good (f, both.2.server) →
      Confined (RangeFile.Live good) Error.OfOpening ranged (f, both.2.server)) :
    Confined (Online good) Error.OfOpening (Handle.act stored ranged) both := by
  rcases both with ⟨handle, w⟩
  rcases online with ⟨f, rfl, live⟩
  have there := confined f live
  have ends := act_ranged (w := w) stored (yields_self ranged (f, w.server))
  exact ends.confined ⟨_, rfl, there.state⟩ there.error

variable {both : Handle × World ω}

theorem Online.seek (online : Online good both) (offset : Int) (whence : Whence) :
    Confined (Online good) Error.OfOpening ((file srv).seek offset whence) both :=
  online.act _ fun _ live => RangeFile.seek_confined live offset whence

theorem Online.readAt (system : srv.FailsBySystem good) (online : Online good both) (offset : Int)
    (count : Nat) : Confined (Online good) Error.OfOpening ((file srv).readAt offset count) both :=
  (online.seek offset .start).bind fun _ _ _ there =>
    there.act _ fun _ live => RangeFile.read_confined system live _

theorem Online.expectMagic (online : Online good both) (fileEnd : FileEnd) (found : List UInt8) :
    Confined (Online good) Error.OfOpening (ofExcept (ByteFile.expectMagic fileEnd found)) both := by
  refine (yields_ofExcept _ both).confined online fun e failed => ?_
  unfold ByteFile.expectMagic at failed
  split at failed
  · cases failed
  · cases failed
    exact ⟨.opening, rfl, by decide⟩

/-- The framing check of a remote file fails by a trouble with opening. -/
theorem Online.checkMagic (system : srv.FailsBySystem good) (online : Online good both) :
    Confined (Online good) Error.OfOpening (file srv).checkMagic both := by
  refine (online.seek 0 .stop).bind fun size t _ there => ?_
  split
  · exact confined_fail there ⟨.opening, rfl, by decide⟩
  · refine (there.readAt system _ _).bind fun header t _ there => ?_
    refine (there.readAt system _ _).bind fun footer t _ there => ?_
    have rewound : Confined (Online good) Error.OfOpening (file srv).rewind t :=
      (there.seek 0 .start).bind fun _ t _ there => confined_pure () there
    refine rewound.bind fun _ t _ there => (there.expectMagic _ _).bind fun _ t _ there => ?_
    exact (there.expectMagic _ _).bind fun _ t _ there => confined_pure size there

/-- So does opening it, since closing it never fails. -/
theorem Online.openFile (system : srv.FailsBySystem good) (online : Online good both) (name : String)
    (options : Options) (decoding : Decoding) {e : Error}
    (failed : (Reader.openFile (file srv) name options decoding both).result = .error e) :
    e.OfOpening := by
  have checking := online.checkMagic system
  have checked := yields_self (file srv).checkMagic both
  cases answer : ((file srv).checkMagic both).result with
  | ok size =>
    rw [answer] at checked
    rw [(Reader.openFile_framed options decoding checked).result] at failed
    cases failed
  | error told =>
    rw [answer] at checked
    have opening := checking.error told answer
    have reports := Reader.openingError?_own name opening.isSome_kind?
    have ends := Reader.openFile_reported options decoding checked reports
    rcases checking.state with ⟨f, ranged, -⟩
    have closes : ((file srv).close ((file srv).checkMagic both).state).result = .ok () := by
      generalize ((file srv).checkMagic both).state = t at ranged ⊢
      rcases t with ⟨handle, w⟩
      cases ranged
      rfl
    rw [ends.result, closes] at failed
    cases failed
    exact opening

end Handle

namespace World

variable {url : String} {w : World ω}

/-- If the server states a total that is no number, then opening fails with the error of reading it,
and the file's first bytes are not even asked for. -/
theorem openReader_misstated (named : Remote.isUrl url = true) (options : Options) {e : Error}
    (misstates : srv.Misstates url w.server e) :
    Yields (openReader srv (.text url) options) w (.error e)
      { w with server := (srv.request url 0 0 w.server).state } := by
  have failed : Yields (connecting srv url) w.server (.error e) _ :=
    (yields_ofExcept_of_eq (Remote.checkUrl_of_isUrl named) _).bind
      (Remote.length_misstated named misstates).bind_error
  exact (acquire_unconnected named failed).bind_error

/-- Otherwise a URL that does not open is refused with an error of opening. -/
theorem openReader_error (system : srv.FailsBySystem good) (named : Remote.isUrl url = true)
    (here : good w.server) (options : Options) {e : Error}
    (failed : (openReader srv (.text url) options w).result = .error e) :
    e.OfOpening ∨ srv.Misstates url w.server e := by
  have confined := RangeFile.connect_confined system named here RangeFile.standardCapacity
  have connects := yields_self (connecting srv url) w.server
  have live : Ensures (connecting srv url) w.server fun f t => good t → RangeFile.Live good (f, t) :=
    RangeFile.connect_live named (by decide)
  cases answer : (connecting srv url w.server).result with
  | error told =>
    rw [answer] at connects
    have refused : Yields (openReader srv (.text url) options) w _ _ :=
      (acquire_unconnected named connects).bind_error
    rw [refused.result] at failed
    cases failed
    exact confined.error e answer
  | ok f =>
    rw [answer] at connects
    have opens := yields_self (Reader.openFile (Handle.file srv) url options w.remote)
      (.ranged f, { w with server := (connecting srv url w.server).state })
    have opened : Yields (openReader srv (.text url) options) w _ _ :=
      (acquire_connected named connects).bind opens.holding
    rw [opened.result] at failed
    cases ends : (Reader.openFile (Handle.file srv) url options w.remote
        (.ranged f, { w with server := (connecting srv url w.server).state })).result with
    | ok r =>
      rw [ends] at failed
      cases failed
    | error told =>
      rw [ends] at failed
      cases failed
      have online : Handle.Online good
          (.ranged f, { w with server := (connecting srv url w.server).state }) :=
        ⟨f, rfl, live f answer confined.state⟩
      exact .inl (online.openFile system url options w.remote ends)

/-- A server may state any size or none and answer ranges with any bytes, as long as nothing but
faults of the system makes it fail.  Then opening a URL leads to a reader or to an error of opening,
except for a total that is no number: this one comes out as the bare fault that reading it ends
with. -/
theorem url_refused_unless_misstated (system : srv.FailsBySystem good)
    (named : Remote.isUrl url = true) (here : good w.server) (options : Options) :
    let opening := openReader srv (.text url) options w
    (∀ e, srv.Misstates url w.server e →
      opening.result = .error e ∧ e.FaultOf Fault.isValue ∧ ¬ e.OfOpening) ∧
    ((∀ e, ¬ srv.Misstates url w.server e) →
      (∃ reader, opening.result = .ok reader) ∨ ∃ e, opening.result = .error e ∧ e.OfOpening) := by
  intro opening
  constructor
  · intro e misstates
    have failed : Yields (openReader srv (.text url) options) w _ _ :=
      openReader_misstated named options misstates
    rcases misstates with ⟨response, text, -, -, unread⟩
    have bare := Remote.totalSize_error unread
    refine ⟨failed.result, bare, ?_⟩
    rcases bare with ⟨f, rfl, -⟩
    rintro ⟨kind, known, -⟩
    cases known
  · intro stated
    cases ends : opening.result with
    | ok reader => exact .inl ⟨reader, rfl⟩
    | error e =>
      refine .inr ⟨e, rfl, ?_⟩
      rcases openReader_error system named here options ends with right | misstates
      · exact right
      · exact absurd misstates (stated e)

/-! ## A server without any bytes -/

/-- A world whose server has no bytes and answers with this content range. -/
def emptyStating (text : String) : World ScriptedServer where
  files := {}
  server := { data := some [], statedRange := .fixed text }
  remote := .error .notAUrl

theorem request_emptyStating (text url : String) :
    ∃ response, (ScriptedServer.server.request url 0 0 (emptyStating text).server).result =
      .ok response ∧ response.contentRange = some text := by
  have held : (emptyStating text).server.data = some [] := rfl
  have asked := ScriptedServer.request_yields held url 0 0
  exact ⟨_, asked.result, rfl⟩

theorem misstates_emptyStating {text : String} (url : String) {e : Error} :
    ScriptedServer.server.Misstates url (emptyStating text).server e ↔
      Remote.totalSize text = .error e := by
  rcases request_emptyStating text url with ⟨response, asked, stated⟩
  constructor
  · rintro ⟨other, written, asked', stated', failed⟩
    rw [asked] at asked'
    cases asked'
    rw [stated] at stated'
    cases stated'
    exact failed
  · intro failed
    exact ⟨response, text, asked, stated, failed⟩

theorem totalSize_twelve : Remote.totalSize "bytes 0-0/12" = .ok 12 := by
  cbv

theorem totalSize_unknown :
    Remote.totalSize "bytes 0-0/*" = .error (.fault (.notANumeral "*" .malformed)) := by
  have behind : Remote.behindLastSlash "bytes 0-0/*" = "*" := by cbv
  have unread : Number.readInteger "*" = .error .malformed := by cbv
  simp only [Remote.totalSize, behind, unread]
  rfl

/-- Twelve bytes are stated and none come: the file is refused. -/
theorem url_refused_unless_misstated_of_twelve :
    let w := emptyStating "bytes 0-0/12"
    let opening := openReader ScriptedServer.server (.text "http://host/file") .standard w
    (∃ reader, opening.result = .ok reader) ∨ ∃ e, opening.result = .error e ∧ e.OfOpening := by
  intro w opening
  have tame : (emptyStating "bytes 0-0/12").server.Tame := fun _ => nofun
  apply (url_refused_unless_misstated ScriptedServer.failsBySystem (by decide) tame .standard).2
  intro e misstates
  have unread := (misstates_emptyStating _).mp misstates
  rw [totalSize_twelve] at unread
  cases unread

/-- A total that is not known is no number: the fault of reading it comes out. -/
theorem unknown_total_comes_out_bare :
    let w := emptyStating "bytes 0-0/*"
    let opening := openReader ScriptedServer.server (.text "http://host/file") .standard w
    let fault := Error.fault (.notANumeral "*" .malformed)
    opening.result = .error fault ∧ fault.kind? = none ∧ w.server.Tame := by
  intro w opening fault
  have misstates : ScriptedServer.server.Misstates "http://host/file" w.server fault :=
    (misstates_emptyStating _).mpr totalSize_unknown
  exact ⟨(openReader_misstated (by decide) .standard misstates).result, rfl, fun _ => nofun⟩

end World
end RowReader
