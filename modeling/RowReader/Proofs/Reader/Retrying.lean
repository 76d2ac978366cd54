import RowReader.Proofs.ByteFile.Scripted
import RowReader.Proofs.Reader.Alongside
import RowReader.Proofs.Reader.Attempts
import RowReader.Proofs.Reader.Closing

/-!
# Trying again

A reader that met faults goes on, once they are over, like one that met none and was never asked in
vain.  The proof keeps the two side by side: a fruitless attempt of the first needs no step of the
second, and every other operation takes both to the same place.  At most the first has read the footer
that the second has yet to ask for.

There is one thing that tells them apart.  Reading the footer brings a decoder into being, and a
decoder has to be closed.
-/

namespace RowReader

open RowReader.Action

namespace Reader

variable {φ ψ : Type} {check : Except Error Nat} {d : DecodedFile} {r r' : Reader}

/-! ## Side by side -/

/-- The first reader is the second one, or the second one with the footer read that it can have; or
both are closed. -/
inductive Ahead (check : Except Error Nat) : Reader → Reader → Prop where
  | same (r : Reader) : Ahead check r r
  | informed {r : Reader} {d : DecodedFile} (isOpen : r.closed = false)
      (found : r.footerAnswer check = .ok d) : Ahead check { r with footerRead := true } r
  | closed {r r' : Reader} (first : r.closed = true) (second : r'.closed = true)
      (name : r.name = r'.name) : Ahead check r r'

theorem Ahead.closed_eq (ahead : Ahead check r r') : r.closed = r'.closed := by
  cases ahead with
  | same => rfl
  | informed isOpen found => rfl
  | closed first second name => rw [first, second]

theorem Ahead.name_eq (ahead : Ahead check r r') : r.name = r'.name := by
  cases ahead with
  | same => rfl
  | informed isOpen found => rfl
  | closed first second name => exact name

/-- Either reader gives the same reply, and then they are the same or have stayed what they were. -/
theorem Ahead.answered (ahead : Ahead check r r') (isOpen : r.closed = false) (asked : Request) :
    (r.answered check asked).1 = (r'.answered check asked).1 ∧
      ((r.answered check asked).2 = (r'.answered check asked).2 ∨
        (r.answered check asked).2 = r ∧ (r'.answered check asked).2 = r') := by
  cases ahead with
  | same => exact ⟨rfl, Or.inl rfl⟩
  | informed isOpen found =>
    have asking : { r' with footerRead := true }.aside asked = r'.aside asked := by
      cases asked <;> rfl
    cases asks : r'.aside asked with
    | some reply =>
      rw [answered_aside asks, answered_aside (asking.trans asks)]
      exact ⟨rfl, Or.inr ⟨rfl, rfl⟩⟩
    | none =>
      have known := (footerAnswer_known check r').trans (decoding_of_footerAnswer found)
      rw [answered_told asks found, answered_told (asking.trans asks) known]
      exact ⟨rfl, Or.inl rfl⟩
  | closed first second name =>
    rw [first] at isOpen
    cases isOpen

/-- If the first reader is open, both would close with the same result. -/
def ClosesAlike (r r' : Reader) : Prop :=
  r.closed = false → r.closeAnswer = r'.closeAnswer

/-- One reader is ahead of the other, and each has its file as long as it is open. -/
structure Following (check : Except Error Nat) (stands : φ → Prop) (stands' : ψ → Prop)
    (both : Reader × φ) (both' : Reader × ψ) : Prop where
  ahead : Ahead check both.1 both'.1
  place : both.1.closed = false → stands both.2
  place' : both'.1.closed = false → stands' both'.2

section

variable {file : ByteFile φ} {file' : ByteFile ψ} {stands : φ → Prop} {stands' : ψ → Prop}
  {both : Reader × φ} {both' : Reader × ψ}

theorem name_of_close (file : ByteFile φ) (both : Reader × φ) :
    (close file both).state.1.name = both.1.name := by
  cases isClosed : both.1.closed with
  | true => rw [(close_closed isClosed).state]
  | false =>
    rcases decoderClosed_eq { both.1 with closed := true } with ⟨used, same⟩
    rw [(close_ends file both.2 isClosed).state, same]

/-- A request to an open reader over a settled file. -/
theorem respond_judged (settled : file'.Settled check stands') (isOpen : both'.1.closed = false)
    (here : stands' both'.2) (asked : Request) :
    ∃ t, stands' t ∧ respond file' both' asked =
      ((both'.1.answered check asked).1, (both'.1.answered check asked).2, t) := by
  rcases settled.judged here with ⟨judged, there⟩
  rcases respond_ends isOpen file' both'.2 asked with ⟨t, left, responded⟩
  rw [judged] at responded
  refine ⟨t, ?_, responded⟩
  rcases left with rfl | rfl
  · exact here
  · exact there

/-- Closed readers do nothing any more. -/
theorem Following.of_closed (file : ByteFile φ) (file' : ByteFile ψ)
    (following : Following check stands stands' both both')
    (isClosed : both.1.closed = true) (op : Operation) :
    operate file both op = (refusal both.1.name op, both) ∧
      operate file' both' op = (refusal both.1.name op, both') := by
  have isClosed' : both'.1.closed = true := following.ahead.closed_eq.symm.trans isClosed
  have second := operate_closed file' isClosed' op
  rw [← following.ahead.name_eq] at second
  exact ⟨operate_closed file isClosed op, second⟩

theorem Following.of_both_closed (first : both.1.closed = true) (second : both'.1.closed = true)
    (name : both.1.name = both'.1.name) : Following check stands stands' both both' where
  ahead := .closed first second name
  place := by
    intro isOpen
    rw [first] at isOpen
    cases isOpen
  place' := by
    intro isOpen
    rw [second] at isOpen
    cases isOpen

/-! ### While faults last -/

/-- A fruitless attempt of one reader needs no answer of the other. -/
theorem Following.vain (faltering : file.Faltering check stands)
    (following : Following check stands stands' both both') {a : Attempt}
    (vain : fruitless file both a = true) :
    Following check stands stands' (attempt file both a).2 both' := by
  rcases both with ⟨r, s⟩
  rcases both' with ⟨r', s'⟩
  have isOpen : r.closed = false := by
    unfold fruitless at vain
    simp only [Bool.and_eq_true, Bool.not_eq_true'] at vain
    exact vain.1
  have here := following.place isOpen
  rcases attempt_fruitless isOpen a.trouble vain with ⟨asked, e, left, t, -, attempted, file, reader⟩
  have there : stands t := by
    rcases file with rfl | rfl
    · exact here
    · exact faltering.stays here
  have ends : attempt _ (r, s) a = (_, left, t) := attempted
  rw [ends]
  refine ⟨?_, fun _ => there, following.place'⟩
  rcases reader with rfl | ⟨-, rfl, d, found⟩
  · exact following.ahead
  · have ahead : Ahead check r r' := following.ahead
    have found := footerAnswer_of_passes (faltering.passes here) found
    cases ahead with
    | same => exact .informed isOpen found
    | informed still known => exact .informed still known
    | closed first second name =>
      rw [first] at isOpen
      cases isOpen

/-- What is not fruitless leads to the same place as without faults. -/
theorem Following.useful (faltering : file.Faltering check stands)
    (settled : file'.Settled check stands') (following : Following check stands stands' both both')
    {a : Attempt} (useful : fruitless file both a = false) :
    Following check stands stands' (attempt file both a).2 (operate file' both' a.operation).2 := by
  rcases both with ⟨r, s⟩
  rcases both' with ⟨r', s'⟩
  rcases a with ⟨op, trouble⟩
  rcases troubled_eq trouble r with ⟨during, same⟩
  cases isClosed : r.closed with
  | true =>
    rw [attempt_closed file isClosed s op trouble, (following.of_closed file file' isClosed op).2]
    exact following
  | false =>
    have isOpen' : r'.closed = false := following.ahead.closed_eq.symm.trans isClosed
    cases op with
    | close =>
      apply Following.of_both_closed
      · exact closed_of_close file (r.troubled trouble, s)
      · exact closed_of_close file' (r', s')
      · refine (name_of_close file _).trans (Eq.trans ?_ (name_of_close file' _).symm)
        rw [same]
        exact following.ahead.name_eq
    | request asked =>
      have here := following.place isClosed
      rcases attempt_fruitful isClosed trouble faltering here useful with ⟨t, there, attempted⟩
      have here' := following.place' isOpen'
      rcases respond_judged settled isOpen' here' asked with ⟨t', there', responded⟩
      rw [attempted]
      simp only [operate, responded]
      refine ⟨?_, fun _ => there, fun _ => there'⟩
      rcases following.ahead.answered isClosed asked with ⟨-, equal | ⟨stays, stays'⟩⟩
      · exact equal ▸ .same _
      · rw [stays, stays']
        exact following.ahead

/-- Whatever one reader went through, the other is not far behind. -/
theorem endure_following (faltering : file.Faltering check stands)
    (settled : file'.Settled check stands') (attempts : List Attempt)
    (following : Following check stands stands' both both') :
    Following check stands stands' (endure file attempts both).2
      (live file' (endure file attempts both).1 both').2 := by
  induction attempts generalizing both both' with
  | nil => exact following
  | cons a rest ih =>
    cases vain : fruitless file both a with
    | true =>
      simp only [endure, vain, if_true]
      exact ih (following.vain faltering vain)
    | false =>
      simp only [endure, vain]
      exact ih (following.useful faltering settled vain)

/-! ### Once the faults are over -/

variable (settled : file.Settled check stands) (settled' : file'.Settled check stands')

include settled settled'

/-- Both give the same reply.  If they would have closed alike before, they would after it. -/
theorem Following.request (following : Following check stands stands' both both')
    (asked : Request) :
    (respond file both asked).1 = (respond file' both' asked).1 ∧
      Following check stands stands' (respond file both asked).2 (respond file' both' asked).2 ∧
      (ClosesAlike both.1 both'.1 →
        ClosesAlike (respond file both asked).2.1 (respond file' both' asked).2.1) := by
  cases isClosed : both.1.closed with
  | true =>
    have refused := respond_closed file isClosed asked
    have isClosed' : both'.1.closed = true := following.ahead.closed_eq.symm.trans isClosed
    have refused' := respond_closed file' isClosed' asked
    rw [refused, refused', following.ahead.name_eq]
    exact ⟨rfl, following, id⟩
  | false =>
    have isOpen' : both'.1.closed = false := following.ahead.closed_eq.symm.trans isClosed
    have here := following.place isClosed
    have here' := following.place' isOpen'
    rcases respond_judged settled isClosed here asked with ⟨t, there, responded⟩
    rcases respond_judged settled' isOpen' here' asked with ⟨t', there', responded'⟩
    rcases following.ahead.answered isClosed asked with ⟨reply, equal | ⟨stays, stays'⟩⟩
    · rw [responded, responded', equal]
      exact ⟨reply, ⟨.same _, fun _ => there, fun _ => there'⟩, fun _ _ => rfl⟩
    · rw [responded, responded', stays, stays']
      exact ⟨reply, ⟨following.ahead, fun _ => there, fun _ => there'⟩, id⟩

theorem Following.replies (following : Following check stands stands' both both')
    (requests : List Request) : replies file requests both = replies file' requests both' := by
  induction requests generalizing both both' with
  | nil => rfl
  | cons asked rest ih =>
    rcases following.request settled settled' asked with ⟨reply, further, -⟩
    simp only [Reader.replies, reply, ih further]

/-- Readers that are ahead of one another close alike if their decoders do. -/
theorem Following.closing (following : Following check stands stands' both both')
    (closes : ClosesAlike both.1 both'.1) :
    (close file both).result = (close file' both').result := by
  cases isClosed : both.1.closed with
  | true =>
    have isClosed' : both'.1.closed = true := following.ahead.closed_eq.symm.trans isClosed
    rw [(close_closed isClosed).result, (close_closed isClosed').result]
  | false =>
    have isOpen' : both'.1.closed = false := following.ahead.closed_eq.symm.trans isClosed
    rcases close_open isClosed (settled.close (following.place isClosed)) with ⟨used, closed⟩
    rcases close_open isOpen' (settled'.close (following.place' isOpen')) with ⟨used', closed'⟩
    rw [closed.result, closed'.result, closes isClosed]

/-- What closing both would come to now decides whether they close alike. -/
theorem Following.closesAlike (following : Following check stands stands' both both')
    (alike : (live file [.close] both).1 = (live file' [.close] both').1) :
    ClosesAlike both.1 both'.1 := by
  intro isOpen
  have isOpen' : both'.1.closed = false := following.ahead.closed_eq.symm.trans isOpen
  rcases close_open isOpen (settled.close (following.place isOpen)) with ⟨used, closed⟩
  rcases close_open isOpen' (settled'.close (following.place' isOpen')) with ⟨used', closed'⟩
  simp only [Reader.live, operate, closed.result, closed'.result] at alike
  simpa using alike

theorem Following.live (following : Following check stands stands' both both')
    (closes : ClosesAlike both.1 both'.1)
    (later : List Operation) : (live file later both).1 = (live file' later both').1 := by
  induction later generalizing both both' with
  | nil => rfl
  | cons op rest ih =>
    cases op with
    | request asked =>
      rcases following.request settled settled' asked with ⟨reply, further, alike⟩
      simp only [Reader.live, operate, reply, ih further (alike closes)]
    | close =>
      have isClosed := closed_of_close file both
      have isClosed' := closed_of_close file' both'
      have further : Following check stands stands' (close file both).state
          (close file' both').state := by
        apply Following.of_both_closed isClosed isClosed'
        rw [name_of_close, name_of_close, following.ahead.name_eq]
      have onward := ih further fun isOpen => by
        rw [isClosed] at isOpen
        cases isOpen
      simp only [Reader.live, operate, following.closing settled settled' closes, onward]

end

/-! ## Over a file that fails for a while -/

theorem endure_decoding (file : ByteFile φ) (attempts : List Attempt) (both : Reader × φ) :
    (endure file attempts both).2.1.decoding = both.1.decoding := by
  induction attempts generalizing both with
  | nil => rfl
  | cons a rest ih => exact ih (attempt file both a).2

/-- One reader has closed, or its decoder is that of the other. -/
theorem Ahead.closesAlike (ahead : Ahead check r r') (closable : Closable r.decoding) :
    ClosesAlike r r' := by
  intro isOpen
  cases ahead with
  | same => rfl
  | informed _ _ => rw [closeAnswer_of_closable closable, closeAnswer_of_closable (r := r') closable]
  | closed first second name =>
    rw [first] at isOpen
    cases isOpen

/-- A reader over a file that may fail to seek, fail to read or be short of data at any call, and
whose decoder may fail along with it.  Whatever it went through, a fruitless attempt costs nothing:
it ends in an error, leaves the reader as it was, but for a footer that was read before the schema
could not be made out, and leaves the file open.  Once the faults are over, the reader is the same to
ask as one over a sound file that was never asked in vain: each sequence of requests has the same
replies.  The same holds with closing among the operations, as long as the two would now close alike,
and they do if closing the decoder meets no more than harmless faults. -/
theorem failing_leaves_no_trace {bytes : List UInt8} {size : Nat} {f : ScriptedFile}
    (opens : magicCheck bytes = .ok size) (holds : f.Holds bytes) (start : Reader)
    (attempts : List Attempt) :
    let reached := endure ScriptedFile.file attempts (start, f)
    let twin := (live ScriptedFile.file reached.1 (start, .ofBytes bytes [])).2
    (∀ a, fruitless ScriptedFile.file reached.2 a = true →
      let left := attempt ScriptedFile.file reached.2 a
      ∃ asked e, a.operation = .request asked ∧ left.1 = .reply (asked.failed e) ∧
        (left.2.1 = reached.2.1 ∨
          asked = .readSchema ∧ left.2.1 = { reached.2.1 with footerRead := true }) ∧
        left.2.2.memory.bytes = bytes ∧ left.2.2.memory.closed = false ∧
        left.2.2.countOf .close = reached.2.2.countOf .close) ∧
    (reached.2.2.Spent →
      (∀ requests, replies ScriptedFile.file requests reached.2 =
        replies ScriptedFile.file requests twin) ∧
      ((live ScriptedFile.file [.close] reached.2).1 = (live ScriptedFile.file [.close] twin).1 →
        ∀ later, (live ScriptedFile.file later reached.2).1 =
          (live ScriptedFile.file later twin).1) ∧
      (Closable start.decoding →
        ∀ later, (live ScriptedFile.file later reached.2).1 =
          (live ScriptedFile.file later twin).1)) := by
  intro reached twin
  have room := trailerSize_le_of_magicCheck opens
  have faltering := ScriptedFile.faltering room
  have settled := (ScriptedFile.honest bytes).settled room
  let calm : ScriptedFile → Prop := fun f => ∃ p, ScriptedFile.Recovered bytes p f
  -- What carries the proof: through all attempts the reader follows one over a sound file.
  have following : Following (footerCheck bytes) (ScriptedFile.Holds bytes) calm reached.2 twin :=
    endure_following faltering settled attempts
      ⟨.same start, fun _ => holds, fun _ => ⟨0, ScriptedFile.recovered_ofBytes bytes⟩⟩
  constructor
  · intro a vain left
    have isOpen : reached.2.1.closed = false := by
      unfold fruitless at vain
      simp only [Bool.and_eq_true, Bool.not_eq_true'] at vain
      exact vain.1
    have here := following.place isOpen
    rcases attempt_fruitless isOpen a.trouble vain with ⟨asked, e, r, t, is, attempted, file, reader⟩
    have ends : left = (_, r, t) := attempted
    have standing : ScriptedFile.standing t = ScriptedFile.standing reached.2.2 := by
      rcases file with rfl | rfl
      · rfl
      · exact ScriptedFile.keeps_standing_checkFooter _
    have there := here.congr standing
    rw [ends]
    refine ⟨asked, e, is, rfl, ?_, there.bytes, there.isOpen, ?_⟩
    · exact reader.imp_right fun ⟨is, same, _⟩ => ⟨is, same⟩
    · simp only [ScriptedFile.standing, Prod.mk.injEq] at standing
      exact standing.2.2.2
  · intro spent
    have recovered : Following (footerCheck bytes) calm calm reached.2 twin :=
      ⟨following.ahead, fun isOpen => ⟨_, (following.place isOpen).recovered spent⟩,
        following.place'⟩
    refine ⟨recovered.replies settled settled, ?_, ?_⟩
    · intro alike
      apply recovered.live settled settled
      exact recovered.closesAlike settled settled alike
    · intro closable
      apply recovered.live settled settled
      apply recovered.ahead.closesAlike
      rw [endure_decoding]
      exact closable

/-! ## Faults that pass -/

/-- A file that fails to move at first and is then short of data. -/
def flakyFile : ScriptedFile :=
  .ofBytes mixedFile.bytes
    [⟨.seek, 1, .raise (.fault ⟨.system .general, "gone"⟩)⟩, ⟨.read, 1, .short 3⟩]

/-- The decoder fails with the footer first and with the group then. -/
def flakyAttempts : List Attempt :=
  [⟨.request .readSchema, none⟩, ⟨.request .numRows, none⟩,
    ⟨.request .nextRowGroup, some (.footer (.fault ⟨.decoder .general, "cut off"⟩))⟩,
    ⟨.request .nextRowGroup, some (.pages (.fault ⟨.system .general, "gone"⟩))⟩]

/-- Only the last attempt counts.  The columns of the file are not described, so that asking for the
schema goes on to be fruitless. -/
theorem failing_leaves_no_trace_of_flaky :
    let reached := endure ScriptedFile.file flakyAttempts (mixedReader, flakyFile)
    let left := attempt ScriptedFile.file reached.2 ⟨.request .readSchema, none⟩
    reached.1 = [.request .nextRowGroup] ∧ (∃ e, left.1 = .reply (.schema (.error e))) ∧
      left.2.1.footerRead = true ∧ left.2.2.memory.closed = false ∧
      ∀ later, (live ScriptedFile.file later reached.2).1 =
        (live ScriptedFile.file later
          (live ScriptedFile.file [.request .nextRowGroup]
            (mixedReader, .ofBytes mixedFile.bytes [])).2).1 := by
  intro reached left
  have opens : magicCheck mixedFile.bytes = .ok 13 := rfl
  have holds : flakyFile.Holds mixedFile.bytes := ⟨rfl, rfl, by decide⟩
  have kept : reached.1 = [.request .nextRowGroup] := rfl
  have spent : reached.2.2.Spent := by decide
  have closable : Closable mixedReader.decoding := by
    rintro d ⟨⟩ e raised
    cases raised
  rcases failing_leaves_no_trace opens holds mixedReader flakyAttempts with ⟨vain, after⟩
  rcases vain ⟨.request .readSchema, none⟩ rfl with ⟨asked, e, is, response, reader, -, isOpen, -⟩
  cases is
  rcases after spent with ⟨-, -, alike⟩
  refine ⟨kept, ⟨e, response⟩, ?_, isOpen, alike closable⟩
  rcases reader with same | ⟨-, same⟩
  · rw [same]
    rfl
  · rw [same]

/-! ## A decoder that remains to be closed -/

/-- A file with a column of no known type, and whose decoder fails when it is closed. -/
def unknownDecoded : DecodedFile :=
  { raisingOnClose .runtime with
    leaves := .ok [⟨"v", "FOO", "None", 0, 0⟩], fields := [⟨"v", "int64", false⟩] }

def unknownReader : Reader :=
  { name := "bad", options := .standard, decoding := .ok unknownDecoded }

def unknownFile : ScriptedFile := .ofBytes mixedFile.bytes []

/-- What is left once this reader was asked for its schema in vain. -/
def unknownLeft : List Operation × Reader × ScriptedFile :=
  endure ScriptedFile.file [⟨.request .readSchema, none⟩] (unknownReader, unknownFile)

/-- Being asked in vain makes a difference to a reader if closing its decoder fails in earnest: a
reader that was never asked has no decoder to close, and closes its file. -/
theorem failing_leaves_a_decoder_to_close :
    unknownLeft.1 = [] ∧ unknownLeft.2.2.Spent ∧
      (live ScriptedFile.file [.close] unknownLeft.2).1 =
        [.closed (.error (.fault ⟨.runtime, "still in use"⟩))] ∧
      (live ScriptedFile.file [.close] unknownLeft.2).2.2.memory.closed = false ∧
      (live ScriptedFile.file [.close] (unknownReader, unknownFile)).1 = [.closed (.ok ())] ∧
      (live ScriptedFile.file [.close] (unknownReader, unknownFile)).2.2.memory.closed = true := by
  refine ⟨?_, ?_, ?_, ?_, ?_, ?_⟩
  · rfl
  · decide
  · rfl
  · rfl
  · rfl
  · rfl

end Reader
end RowReader
