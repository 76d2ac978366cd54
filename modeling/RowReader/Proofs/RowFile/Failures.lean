import RowReader.Proofs.Reader.Failures
import RowReader.Proofs.RowFile.Opening

/-!
# How calls of a row file fail

A call on a local file fails with an error of the reader's own: one about opening if the file cannot
be read or lacks the magic, then one about the schema if it is not there to be found, and after that
one about decoding.  However the call ends, nothing stays open.
-/

namespace RowReader

open RowReader.Action

variable {ω α : Type}

/-- The bytes begin and end as those of a file do. -/
def Content.Opens (content : Content) : Prop :=
  ∃ size, magicCheck content.bytes = .ok size

/-- The location names a stored file with such a content. -/
def World.Stores (w : World ω) (location : Location) (such : Content → Prop) : Prop :=
  ∃ content, w.files.read location.name = .ok content ∧ such content

theorem World.stores_iff {w : World ω} {location : Location} {content : Content}
    (stored : w.files.read location.name = .ok content) (such : Content → Prop) :
    w.Stores location such ↔ such content := by
  constructor
  · rintro ⟨other, found, like⟩
    cases stored.symm.trans found
    exact like
  · intro like
    exact ⟨content, stored, like⟩

namespace RowFile

/-- The row file leads to a stored file that opens. -/
def Opens (pf : RowFile) (w : World ω) : Prop :=
  w.Stores pf.location Content.Opens

/-- The footer of the stored file parses. -/
def Parses (pf : RowFile) (w : World ω) : Prop :=
  w.Stores pf.location fun content => ∃ d, content.Parses d

/-- The stored file describes the fields that the options ask for. -/
def Describes (pf : RowFile) (w : World ω) : Prop :=
  w.Stores pf.location fun content => ∃ schema, content.Describes pf.options schema

/-- An open handle over the content, in a world that differs from this one in having one file more
open. -/
abbrev Standing (content : Content) (w : World ω) (both : Handle × World ω) : Prop :=
  ∃ p, Handle.At content.bytes { w with openFiles := w.openFiles + 1 } p both

/-- A row file that is open over this content, with a reader that nothing was asked of. -/
structure Opened (srv : Server ω) (pf : RowFile) (w : World ω) (content : Content)
    (s : Handle × World ω) : Prop where
  stored : w.files.read pf.location.name = .ok content
  opens : content.Opens
  yields : Yields (pf.openReader srv) w (.ok (pf.freshReader content, s.1)) s.2
  place : Standing content w s

section

variable {srv : Server ω} {pf : RowFile} {w : World ω} {content : Content} {s : Handle × World ω}
  {both : Reader × Handle × World ω}

theorem Opened.over_content (opened : Opened srv pf w content s) :
    Reader.Over content (Standing content w) (pf.freshReader content, s) :=
  ⟨rfl, rfl, opened.place⟩

theorem Opened.settled (opened : Opened srv pf w content s) :
    (Handle.file srv).Settled (footerCheck content.bytes) (Standing content w) := by
  rcases opened.opens with ⟨size, passed⟩
  exact (Handle.honest srv content.bytes _).settled (trailerSize_le_of_magicCheck passed)

/-- Closing a reader over a local file leaves the world as it was before the file was opened. -/
theorem close_standing (srv : Server ω) (tame : content.Tame)
    (held : Reader.Over content (Standing content w) both) :
    ((Reader.source (Handle.file srv)).close both).result = .ok () ∧
      ((Reader.source (Handle.file srv)).close both).state.2.2 = w := by
  rcases held.place with ⟨p, here⟩
  rcases held.close tame ((Handle.honest srv content.bytes _).close here) with ⟨used, closed⟩
  refine ⟨closed.result, ?_⟩
  exact (congrArg (fun both => both.2.2) closed.state).trans (Handle.close_at srv here)

/-- A local row file opens unless its location or its bytes are not those of a file. -/
theorem openReader_local (srv : Server ω) (w : World ω) (isLocal : pf.location.url? = none)
    (readable : '\x00' ∉ pf.location.name.toList) :
    (¬ pf.Opens w ∧
      ∃ e, Yields (pf.openReader srv) w (.error e) w ∧ e.kind? = some .opening) ∨
    ∃ content s, Opened srv pf w content s := by
  cases found : w.files.read pf.location.name with
  | error e =>
    left
    have missing : ¬ pf.Opens w := by
      rintro ⟨content, stored, -⟩
      rw [found] at stored
      cases stored
    have acquired := World.acquire_missing srv isLocal found
    have failed : Yields (pf.openReader srv) w (.error (World.openingError pf.location.name e)) w :=
      (yields_note _ _ _ w).bind acquired.bind_error
    rcases FileSystem.read_error readable found with ⟨f, rfl, system⟩
    exact ⟨missing, _, failed, congrArg Error.kind? (if_pos system)⟩
  | ok content =>
    rcases openReader_yields (leads_local srv isLocal found) with ⟨p, handle, w', there, opens⟩
    cases judged : magicCheck content.bytes with
    | error e =>
      left
      rw [judged] at opens
      have missing : ¬ pf.Opens w := by
        rw [Opens, World.stores_iff found]
        rintro ⟨size, passed⟩
        rw [judged] at passed
        cases passed
      rw [Handle.close_at srv there] at opens
      exact ⟨missing, e, opens, (magicCheck_error judged).1⟩
    | ok size =>
      right
      rw [judged] at opens
      exact ⟨content, (handle, w'), found, ⟨size, judged⟩, opens, p, there⟩

/-- Opening a local file fails with nothing that a stream would replace. -/
theorem outOfIteration_of_openReader (srv : Server ω) (w : World ω)
    (isLocal : pf.location.url? = none) {e : Error}
    (failed : (pf.openReader srv w).result = .error e) : e.outOfIteration = e := by
  by_cases readable : '\x00' ∈ pf.location.name.toList
  · have refused : w.files.read pf.location.name =
        .error (.fault ⟨.value, "embedded null byte"⟩) := by
      rw [FileSystem.read, FileSystem.look, if_pos (List.contains_iff_mem.mpr readable)]
      rfl
    have ends : Yields (pf.openReader srv) w (.error (.fault ⟨.value, "embedded null byte"⟩)) w :=
      (yields_note _ _ _ w).bind (World.acquire_missing srv isLocal refused).bind_error
    cases ends.result.symm.trans failed
    rfl
  · rcases openReader_local srv w isLocal readable with ⟨-, f, fails, own⟩ | ⟨content, s, opened⟩
    · cases fails.result.symm.trans failed
      exact Error.outOfIteration_of_kind? (own ▸ rfl)
    · cases opened.yields.result.symm.trans failed

/-- The reader finds its schema if the content describes the fields that are asked for. -/
theorem Opened.describes (opened : Opened srv pf w content s) (tame : content.Tame)
    {schema : Schema} (found : content.Describes pf.options schema) :
    ∃ d, d.Tame ∧ content.decoding = .ok d ∧ (Handle.file srv).Intact (Standing content w) ∧
      Reader.Describes d schema (Standing content w) (pf.freshReader content, s) := by
  rcases found with ⟨d, fields, ⟨⟨length, checked⟩, decoded⟩, described, chosen⟩
  have settled := opened.settled
  rw [checked] at settled
  refine ⟨d, tame.decoded d decoded, decoded, settled.intact, ⟨rfl, decoded, opened.place⟩, ?_⟩
  rw [Reader.fieldsOf, described]
  exact chosen

/-- Otherwise the first thing it is asked for fails. -/
theorem Opened.undescribed (opened : Opened srv pf w content s) (tame : content.Tame)
    (absent : ¬ ∃ schema, content.Describes pf.options schema) :
    ∃ e after, Yields (Reader.source (Handle.file srv)).readSchema (pf.freshReader content, s)
        (.error e) after ∧
      e.kind? = some .schema ∧ Reader.Over content (Standing content w) after := by
  rcases Reader.readSchema_finds opened.settled tame opened.over_content rfl rfl
    with ⟨q, after, asked, still, finds⟩
  rcases finds.error_of_absent absent with ⟨e, rfl, kind⟩
  exact ⟨e, after, asked, kind, still⟩

end

/-! ## Calls -/

section

variable (srv : Server ω) {pf : RowFile} {w : World ω} (isLocal : pf.location.url? = none)
  (readable : '\x00' ∉ pf.location.name.toList)
  (tame : ∀ content, w.files.read pf.location.name = .ok content → content.Tame)

include isLocal readable tame

end

/-! ## Rows that are pulled -/

/-- While more rows are to come, the reader is open and can be closed.  The end is that of reading
everything, and the reader is closed then. -/
theorem Opened.takeRows {srv : Server ω} {pf : RowFile} {w : World ω} {content : Content}
    {s : Handle × World ω} (opened : Opened srv pf w content s) (tame : content.Tame)
    (count : Nat) :
    let src := Reader.source (Handle.file srv)
    let taken := RowReader.takeRows (Streaming.next src) (count + 1)
      (Streaming.fresh (pf.freshReader content, s))
    (taken.ending = .more → taken.state.Live ∧ (src.close taken.state.source).result = .ok () ∧
      (src.close taken.state.source).state.2.2 = w) ∧
    (taken.ending ≠ .more → taken.state.progress = .ended ∧ taken.state.source.2.2 = w ∧
      ∃ r : Except Error Unit, taken.ending = .of r ∧
        Fate content.Opens (∃ schema, content.Describes pf.options schema) True r) := by
  intro src taken
  by_cases there : ∃ schema, content.Describes pf.options schema
  · rcases there with ⟨schema, found⟩
    rcases opened.describes tame found with ⟨d, mild, decoded, intact, described⟩
    have alone : Agree (Reader.Describes d schema (Standing content w)) _ _ := ⟨rfl, described⟩
    have alike : Streaming.Alike _ Reader.Inside _ _ := Streaming.alike_fresh alone
    rcases alike.takeRows (Reader.source_tame intact mild) (Streaming.fresh_live _) (count + 1)
      with ⟨-, ends, onward, finish⟩
    refine ⟨fun more => ?_, fun ended => ?_⟩
    · rcases onward more with ⟨live, alike⟩
      exact ⟨live, close_standing srv tame (alike.states.2.over_content decoded)⟩
    · rcases finish ended with ⟨progress, u, _, ⟨rfl, still⟩, closed, -⟩
      refine ⟨progress, closed ▸ (close_standing srv tame (still.over_content decoded)).2, ?_⟩
      generalize taken.ending = ending at ends ended
      cases ends with
      | more => exact absurd rfl ended
      | exhausted => exact ⟨.ok (), rfl, .done opened.opens ⟨schema, found⟩⟩
      | @failed e _ kind =>
        exact ⟨.error e, rfl, .undecoded opened.opens ⟨schema, found⟩ trivial kind⟩
  · rcases opened.undescribed tame there with ⟨e, after, asked, kind, held⟩
    rcases close_standing srv tame held with ⟨closes, same⟩
    have nothing := Streaming.owed_of_unread src asked.result
    have first := Streaming.next_end src (Streaming.fresh_live _) (by rw [nothing])
    have own : e.outOfIteration = e := Error.outOfIteration_of_kind? (by rw [kind]; rfl)
    simp only [nothing, asked.state, src, Streaming.endResult, closes, lastly_ok, error_mapError,
      own] at first
    rcases takeRows_of_end first nofun count with ⟨log, stop⟩
    simp only [taken, src, stop]
    exact ⟨nofun, fun _ => ⟨trivial, same, .error e, rfl, .unfound opened.opens there kind⟩⟩

section

variable (srv : Server ω) {pf : RowFile} {w : World ω} (isLocal : pf.location.url? = none)
  (readable : '\x00' ∉ pf.location.name.toList)
  (tame : ∀ content, w.files.read pf.location.name = .ok content → content.Tame)

include isLocal readable tame

/-- Rows that are pulled end as reading everything does, and the stream can be closed at any time,
after which nothing is open. -/
theorem rows_fate (count : Nat) :
    let taken := takeRows (RowStream.next srv pf) count (.unopened, w)
    (taken.ending ≠ .more → taken.state = (.ended, w) ∧
      ∃ r : Except Error Unit, taken.ending = .of r ∧ Fate (pf.Opens w) (pf.Describes w) True r) ∧
    Yields (RowStream.close srv) taken.state (.ok ()) (.ended, w) := by
  intro taken
  cases count with
  | zero => exact ⟨fun ended => absurd rfl ended, rfl, rfl⟩
  | succ count =>
    rcases openReader_local srv w isLocal readable
      with ⟨missing, e, failed, kind⟩ | ⟨content, ⟨handle, w'⟩, opened⟩
    · rcases RowStream.takeRows_unopened srv pf failed count with ⟨-, ending, state⟩
      have own : e.outOfIteration = e := Error.outOfIteration_of_kind? (by rw [kind]; rfl)
      simp only [taken, ending, state, own]
      exact ⟨fun _ => ⟨trivial, .error e, rfl, .unopened missing kind⟩, rfl, rfl⟩
    · have outer := RowStream.takeRows_opened srv pf opened.yields count
      rcases opened.takeRows (tame content opened.stored) count with ⟨onward, finish⟩
      simp only [Batch.told, Batch.mapState, Prod.mk.injEq, RowStream.source] at outer
      rw [Opens, Describes, World.stores_iff opened.stored, World.stores_iff opened.stored]
      simp only [taken, outer]
      by_cases more : (takeRows (Streaming.next (Reader.source (Handle.file srv))) (count + 1)
          (Streaming.fresh (pf.freshReader content, handle, w'))).ending = .more
      · rcases onward more with ⟨live, closes, same⟩
        exact ⟨fun ended => absurd more ended, same ▸ RowStream.close_live srv live closes⟩
      · rcases finish more with ⟨ended, same, fate⟩
        rw [RowStream.shown_of_ended ended, same]
        exact ⟨fun _ => ⟨rfl, fate⟩, rfl, rfl⟩

end

/-! ## All calls -/

end RowFile
end RowReader
