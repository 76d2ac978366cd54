import RowReader.Proofs.ByteFile.Record
import RowReader.Proofs.Reader.Requests

/-!
# The life of a reader

A reader is made for a file and from then on asked for things and closed, in any order and with any
failures in between.  Once it has been asked to close, all that it still does is to refuse: neither
it nor its file is touched again, whatever the closing itself came to.  So the decoder and the file
are closed at most once each in a whole life.

The file is any file at all, and it is recorded, so that what is asked of it can be counted.
-/

namespace RowReader

open RowReader.Action

namespace Reader

variable {φ : Type}

/-- What can be done with a reader. -/
inductive Operation where
  | request (asked : Request)
  | close

/-- What came of an operation. -/
inductive Response where
  | reply (given : Reply)
  | closed (answer : Except Error Unit)

def operate (file : ByteFile φ) (both : Reader × φ) : Operation → Response × Reader × φ
  | .request asked => (.reply (respond file both asked).1, (respond file both asked).2)
  | .close => (.closed (close file both).result, (close file both).state)

/-- Operations one after another: their responses, and how they leave the reader and its file. -/
def live (file : ByteFile φ) : List Operation → Reader × φ → List Response × Reader × φ
  | [], both => ([], both)
  | op :: rest, both =>
    let (response, left) := operate file both op
    let (responses, last) := live file rest left
    (response :: responses, last)

/-- The reply of a request that fails with this error. -/
def Request.failed (e : Error) : Request → Reply
  | .readSchema => .schema (.error e)
  | .numRows => .rows (.error e)
  | .numRowGroups => .groups (.error e)
  | .assembleRow _ _ _ => .row (.error e)
  | .nextRowGroup => .group (.error e)

/-- What a closed reader of this name has to say to an operation. -/
def refusal (name : String) : Operation → Response
  | .request asked => .reply (asked.failed (.sourceClosed name))
  | .close => .closed (.ok ())

/-! ## After closing -/

section

variable (file : ByteFile φ) {both : Reader × φ}

theorem requireOpen_closed (isClosed : both.1.closed = true) :
    Yields requireOpen both (.error (.sourceClosed both.1.name)) both := by
  apply (current_yields both).bind
  rw [if_pos isClosed]
  exact yields_fail _ both

theorem footer_closed (isClosed : both.1.closed = true) :
    Yields (footer file) both (.error (.sourceClosed both.1.name)) both :=
  (requireOpen_closed isClosed).bind_error

/-- A closed reader refuses every request. -/
theorem respond_closed (isClosed : both.1.closed = true) (asked : Request) :
    respond file both asked = (asked.failed (.sourceClosed both.1.name), both) := by
  have unread := footer_closed file isClosed
  cases asked with
  | readSchema =>
    have refused : Yields (readSchema file) both _ both := (requireOpen_closed isClosed).bind_error
    simp only [respond, refused.result, refused.state, Request.failed]
  | numRows =>
    have refused : Yields (numRows file) both _ both := unread.bind_error
    simp only [respond, refused.result, refused.state, Request.failed]
  | numRowGroups =>
    have refused : Yields (numRowGroups file) both _ both := unread.bind_error
    simp only [respond, refused.result, refused.state, Request.failed]
  | assembleRow g schema i =>
    have refused : Yields (assembleRow g schema i) both _ both :=
      (requireOpen_closed isClosed).bind_error
    simp only [respond, refused.result, refused.state, Request.failed]
  | nextRowGroup =>
    have refused : Yields (nextRowGroup file) both _ both := unread.bind_error
    simp only [respond, refused.result, refused.state, Request.failed]

theorem operate_closed (isClosed : both.1.closed = true) (op : Operation) :
    operate file both op = (refusal both.1.name op, both) := by
  cases op with
  | request asked => simp only [operate, respond_closed file isClosed, refusal]
  | close =>
    have idle : Yields (close file) both (.ok ()) both := close_closed isClosed
    simp only [operate, idle.result, idle.state, refusal]

theorem live_closed (isClosed : both.1.closed = true) (ops : List Operation) :
    live file ops both = (ops.map (refusal both.1.name), both) := by
  induction ops with
  | nil => rfl
  | cons op rest ih => simp only [live, operate_closed file isClosed, ih, List.map_cons]

end

/-! ## Before closing -/

/-- What closing changes of a reader over a recorded file. -/
def marks (both : Reader × φ × List FileCall) : String × Bool × Nat × Nat :=
  (both.1.name, both.1.closed, both.1.used.closes, ByteFile.timesClosed both.2)

theorem marks_onFile {α : Type} {act : Action (φ × List FileCall) α}
    (kept : Keeps ByteFile.timesClosed act) : Keeps marks (onFile act) := by
  intro both
  have same := kept both.2
  simp only [marks, onFile, Action.onPart, Outcome.mapState_state, same]

theorem marks_requireOpen :
    Keeps marks (requireOpen : Action (Reader × φ × List FileCall) Reader) := by
  refine keeps_bind (fun _ => rfl) fun r => ?_
  split
  · exact keeps_fail _
  · exact keeps_pure r

variable (file : ByteFile φ)

theorem marks_footer : Keeps marks (footer file.recorded) := by
  refine keeps_bind marks_requireOpen fun r => ?_
  split
  · exact keeps_ofExcept _
  · refine keeps_bind (keeps_mapError (marks_onFile (ByteFile.timesClosed_checkFooter file)))
      fun _ => ?_
    refine keeps_bind (keeps_mapError (keeps_ofExcept _)) fun d => ?_
    exact keeps_bind (keeps_modifyState fun _ => rfl) fun _ =>
      keeps_bind (keeps_note _ _ _) fun _ => keeps_pure d

theorem marks_readSchema : Keeps marks (readSchema file.recorded) := by
  refine keeps_bind marks_requireOpen fun r => ?_
  split
  · exact keeps_pure _
  · refine keeps_bind (marks_footer file) fun d => keeps_bind (keeps_ofExcept _) fun schema => ?_
    exact keeps_bind (keeps_modifyState fun _ => rfl) fun _ =>
      keeps_bind (keeps_note _ _ _) fun _ => keeps_pure schema

theorem marks_takeGroup (index : Nat) (stored : StoredGroup) :
    Keeps marks (takeGroup index stored : Action (Reader × φ × List FileCall) RowGroup) := by
  refine keeps_bind (fun _ => rfl) fun r => ?_
  split
  · exact keeps_fail _
  · exact keeps_bind (keeps_modifyState fun _ => rfl) fun _ =>
      keeps_bind (keeps_ofExcept _) fun g => keeps_bind (keeps_note _ _ _) fun _ => keeps_pure g

theorem marks_nextRowGroup : Keeps marks (nextRowGroup file.recorded) := by
  refine keeps_bind (marks_footer file) fun d => keeps_bind (fun _ => rfl) fun r => ?_
  split
  · exact keeps_bind (keeps_note _ _ _) fun _ => keeps_pure none
  · exact keeps_bind (keeps_modifyState fun _ => rfl) fun _ =>
      keeps_bind (marks_takeGroup _ _) fun g => keeps_pure (some g)

/-- No request closes anything. -/
theorem marks_respond (both : Reader × φ × List FileCall) (asked : Request) :
    marks (respond file.recorded both asked).2 = marks both := by
  cases asked with
  | readSchema => exact marks_readSchema file both
  | numRows =>
    have kept : Keeps marks (numRows file.recorded) :=
      keeps_bind (marks_footer file) fun d => keeps_pure d.rows
    exact kept both
  | numRowGroups =>
    have kept : Keeps marks (numRowGroups file.recorded) :=
      keeps_bind (marks_footer file) fun d => keeps_pure d.groups.length
    exact kept both
  | assembleRow g schema i =>
    have kept : Keeps marks (assembleRow g schema i : Action (Reader × φ × List FileCall) _) :=
      keeps_bind marks_requireOpen fun _ => keeps_bind (keeps_ofExcept _) fun _ => keeps_pure _
    exact kept both
  | nextRowGroup => exact marks_nextRowGroup file both

/-! ## A whole life -/

/-- While a reader is open nothing has been closed, and nothing is ever closed twice. -/
structure Sparing (name : String) (both : Reader × φ × List FileCall) : Prop where
  named : both.1.name = name
  untouched : both.1.closed = false → both.1.used.closes = 0 ∧ ByteFile.timesClosed both.2 = 0
  decoderOnce : both.1.used.closes ≤ 1
  fileOnce : ByteFile.timesClosed both.2 ≤ 1

theorem Sparing.congr {name : String} {both both' : Reader × φ × List FileCall}
    (sparing : Sparing name both) (same : marks both' = marks both) : Sparing name both' := by
  simp only [marks, Prod.mk.injEq] at same
  rcases same with ⟨named, closed, decoder, times⟩
  constructor
  · rw [named, sparing.named]
  · rw [closed, decoder, times]
    exact sparing.untouched
  · rw [decoder]
    exact sparing.decoderOnce
  · rw [times]
    exact sparing.fileOnce

theorem decoderClosed_closes_le (r : Reader) : r.decoderClosed.used.closes ≤ r.used.closes + 1 := by
  unfold decoderClosed
  split
  · exact Nat.le_refl _
  · exact Nat.le_succ _

theorem timesClosed_fileAfterClose (r : Reader) (both : φ × List FileCall) :
    ByteFile.timesClosed (r.fileAfterClose file.recorded both) ≤ ByteFile.timesClosed both + 1 := by
  unfold fileAfterClose
  cases r.closeAnswer with
  | ok _ => exact Nat.le_of_eq (ByteFile.timesClosed_close file both)
  | error e => exact Nat.le_succ _

/-- Closing an open reader closes each of the two once at most. -/
theorem Sparing.close {name : String} {both : Reader × φ × List FileCall}
    (sparing : Sparing name both) : Sparing name (Reader.close file.recorded both).state := by
  cases isClosed : both.1.closed with
  | true =>
    rw [(close_closed isClosed).state]
    exact sparing
  | false =>
    rcases sparing.untouched isClosed with ⟨decoder, times⟩
    rcases both with ⟨r, held⟩
    have decoderLimit := decoderClosed_closes_le { r with closed := true }
    have fileLimit := timesClosed_fileAfterClose file r held
    rcases decoderClosed_eq { r with closed := true } with ⟨used, same⟩
    rw [(close_ends file.recorded held isClosed).state, same]
    rw [same] at decoderLimit
    simp only at decoder decoderLimit times
    rw [decoder] at decoderLimit
    rw [times] at fileLimit
    exact ⟨sparing.named, nofun, decoderLimit, fileLimit⟩

/-- One operation, whatever it is and however it ends. -/
theorem Sparing.operate {name : String} {both : Reader × φ × List FileCall}
    (sparing : Sparing name both) (op : Operation) :
    Sparing name (Reader.operate file.recorded both op).2 := by
  cases op with
  | request asked => exact sparing.congr (marks_respond file both asked)
  | close => exact sparing.close file

theorem Sparing.live {name : String} {both : Reader × φ × List FileCall}
    (sparing : Sparing name both) (ops : List Operation) :
    Sparing name (Reader.live file.recorded ops both).2 := by
  induction ops generalizing both with
  | nil => exact sparing
  | cons op rest ih => exact ih (sparing.operate file op)

/-- A file that opens has been left open, and its reader is a new one.  A file that does not open has
been closed once at most. -/
theorem openFile_sparing (name : String) (options : Options) (decoding : Decoding)
    (both : φ × List FileCall) :
    (∃ left, Yields (openFile file.recorded name options decoding) both
        (.ok { name, options, decoding }) left ∧
      ByteFile.timesClosed left = ByteFile.timesClosed both) ∨
    ∃ e left, Yields (openFile file.recorded name options decoding) both (.error e) left ∧
      ByteFile.timesClosed left ≤ ByteFile.timesClosed both + 1 := by
  have checked := yields_self file.recorded.checkMagic both
  have kept := ByteFile.timesClosed_checkMagic file both
  cases answer : (file.recorded.checkMagic both).result with
  | ok size =>
    rw [answer] at checked
    exact .inl ⟨_, openFile_framed options decoding checked, kept⟩
  | error e =>
    rw [answer] at checked
    right
    cases opening : openingError? name e with
    | none =>
      have failed := openFile_unreported options decoding checked opening
      exact ⟨e, _, failed, Nat.le_succ_of_le (Nat.le_of_eq kept)⟩
    | some reported =>
      have failed := openFile_reported options decoding checked opening
      have once := ByteFile.timesClosed_close file (file.recorded.checkMagic both).state
      rcases lastly_error reported (tolerated Fault.isSystem
        (file.recorded.close (file.recorded.checkMagic both).state).result) with ⟨f, same⟩
      rw [same] at failed
      rw [kept] at once
      exact ⟨f, _, failed, Nat.le_of_eq once⟩

/-- A reader that has been opened may live through anything and is then asked to close.  However this
ends, the reader is closed from then on: every request is refused, closing again does nothing, and
neither the reader nor its file, which keeps a record of the calls it receives, is changed by any of
it.  And from opening on, even if that fails, no life is so long that the decoder or the file is
asked to close twice. -/
theorem closed_for_good (file : ByteFile φ) (s : φ) (name : String) (options : Options)
    (decoding : Decoding) (earlier later : List Operation) :
    let opening := openFile file.recorded name options decoding (s, [])
    match opening.result with
    | .error _ => opening.state.2.count .close ≤ 1
    | .ok r =>
      let reached := (live file.recorded earlier (r, opening.state)).2
      let shut := (operate file.recorded reached .close).2
      shut.1.closed = true ∧
      live file.recorded later shut = (later.map (refusal name), shut) ∧
      (Error.sourceClosed name).kind? = some .closed ∧
      reached.1.used.closes ≤ 1 ∧ reached.2.2.count .close ≤ 1 := by
  intro opening
  rcases openFile_sparing file name options decoding (s, []) with
    ⟨left, opened, untouched⟩ | ⟨e, left, failed, once⟩
  · have result : opening.result = _ := opened.result
    rw [result]
    let new : Reader := { name, options, decoding }
    let reached := (live file.recorded earlier (new, opening.state)).2
    let shut := (operate file.recorded reached .close).2
    have begins : Sparing name (new, opening.state) := by
      have none : ByteFile.timesClosed opening.state = 0 := opened.state ▸ untouched
      exact ⟨rfl, fun _ => ⟨rfl, none⟩, Nat.zero_le 1, none ▸ Nat.zero_le 1⟩
    have sparing : Sparing name reached := begins.live file earlier
    have still : Sparing name shut := sparing.operate file .close
    have isClosed : shut.1.closed = true := closed_of_close file.recorded reached
    have refused := live_closed file.recorded isClosed later
    rw [still.named] at refused
    exact ⟨isClosed, refused, rfl, sparing.decoderOnce, sparing.fileOnce⟩
  · have result : opening.result = _ := failed.result
    have state : opening.state = left := failed.state
    rw [result, state]
    exact once

end Reader
end RowReader
