import RowReader.Proofs.ByteFile.Honest
import RowReader.Proofs.Decoded.Fields
import RowReader.Proofs.RowGroup
import RowReader.Reader.Source

/-!
# Open readers

An open reader over an intact file: each call is a function of the decoded file, the options and the
reader's own position, and leaves the reader open.
-/

namespace RowReader

open RowReader.Action

namespace Reader

variable {φ : Type}

/-- The reader is open over this decoded file, and its file is open as well. -/
structure Ready (d : DecodedFile) (stands : φ → Prop) (both : Reader × φ) : Prop where
  isOpen : both.1.closed = false
  decoded : both.1.decoding = .ok d
  place : stands both.2

/-- The reader has been asked for one more group. -/
structure Advanced (r r' : Reader) : Prop where
  options : r'.options = r.options
  name : r'.name = r.name
  cursor : r'.cursor = r.cursor + 1
  asked : r'.used.groups ⊆ r.cursor :: r.used.groups

/-- The row group at an index as a reader hands it out. -/
def grouping (r : Reader) (index : Nat) (stored : StoredGroup) : Except Error RowGroup :=
  match limitExceeded? r.options stored with
  | some limit => .error (.rowGroupTooLarge index r.name stored.bytes limit)
  | none => r.decodeGroup index stored

theorem current_yields (both : Reader × φ) : Yields current both (.ok both.1) both :=
  ⟨rfl, rfl⟩

theorem update_yields (f : Reader → Reader) (r : Reader) (s : φ) :
    Yields (update f) (r, s) (.ok ()) (f r, s) :=
  ⟨rfl, rfl⟩

/-- Acting on the file leaves the reader as it is. -/
theorem onFile_yields {α : Type} {act : Action φ α} {s t : φ} {q : Except Error α}
    (ends : Yields act s q t) (r : Reader) : Yields (onFile act) (r, s) q (r, t) :=
  ⟨ends.result, congrArg (Prod.mk r) ends.state⟩

theorem requireOpen_yields {both : Reader × φ} (isOpen : both.1.closed = false) :
    Yields requireOpen both (.ok both.1) both := by
  apply (current_yields both).bind
  simp only [isOpen]
  exact yields_pure both.1 both

/-! ## Fields -/

theorem fieldsOf_spec (r : Reader) {d : DecodedFile} (described : d.Described)
    (present : ∀ names, r.options.columns = some names → ∀ name ∈ names, name ∈ d.fieldNames) :
    ∃ schema, r.fieldsOf d = .ok schema ∧ schema.names = r.options.namesIn d := by
  rcases DecodedFile.allFields_spec described with ⟨fields, described, names⟩
  rw [← names] at present
  rcases Schema.project_spec present with ⟨schema, chosen, same⟩
  refine ⟨schema, ?_, ?_⟩
  · rw [fieldsOf, described]
    exact chosen
  · rw [same, names, Options.namesIn]

/-! ## Groups and rows -/

/-- The reader once this stored group was taken.  The decoder is not asked for one that is too
large. -/
def taking (index : Nat) (stored : StoredGroup) (r : Reader) : Reader :=
  match limitExceeded? r.options stored with
  | some _ => r
  | none => { r with used := { r.used with groups := index :: r.used.groups } }

theorem takeGroup_ends (index : Nat) (stored : StoredGroup) (r : Reader) (s : φ) :
    Yields (takeGroup index stored) (r, s) (r.grouping index stored) (r.taking index stored, s) := by
  unfold grouping taking takeGroup
  refine (current_yields (r, s)).bind ?_
  cases limitExceeded? r.options stored with
  | some limit => exact yields_fail _ _
  | none =>
    apply (update_yields _ r s).bind
    cases r.decodeGroup index stored with
    | error e => exact (yields_ofExcept (.error e) _).bind_error
    | ok g =>
      exact (yields_ofExcept (.ok g) _).bind ((yields_note _ _ _ _).bind (yields_pure g _))

/-- The decoder is asked for this group at most. -/
theorem taking_eq (index : Nat) (stored : StoredGroup) (r : Reader) :
    ∃ used : DecoderUse, used.groups ⊆ index :: r.used.groups ∧
      r.taking index stored = { r with used } := by
  unfold taking
  split
  · exact ⟨r.used, List.subset_cons_self _ _, rfl⟩
  · exact ⟨_, List.Subset.refl _, rfl⟩

/-- Assembling a row asks an open reader for nothing else. -/
theorem assembleRow_yields {r : Reader} {s : φ} (isOpen : r.closed = false) (g : RowGroup)
    (schema : Schema) (i : Int) :
    Yields (assembleRow g schema i) (r, s)
      ((g.assemble schema i).result.map fun row => (row, (g.assemble schema i).state)) (r, s) := by
  have opened : Yields requireOpen (r, s) (.ok r) (r, s) := requireOpen_yields isOpen
  apply opened.bind
  dsimp only
  cases assembled : (g.assemble schema i).result with
  | error e => exact (yields_ofExcept (.error e) _).bind_error
  | ok row => exact (yields_ofExcept (.ok row) _).bind (yields_pure _ _)

section

variable {file : ByteFile φ} {stands : φ → Prop} {check : Except Error Nat} {d : DecodedFile}
  {r : Reader} {s : φ}

/-! ## The footer -/

/-- What a reader makes of a footer that is judged like this. -/
def footerAnswer (check : Except Error Nat) (r : Reader) : Except Error DecodedFile :=
  if r.footerRead then r.decoding
  else do
    let _ ← check.mapError (footerError r.name)
    r.decoding.mapError (footerError r.name)

/-- The reader after it was asked for the footer. -/
def afterFooter (check : Except Error Nat) (r : Reader) : Reader :=
  match r.footerAnswer check with
  | .ok _ => { r with footerRead := true }
  | .error _ => r

theorem afterFooter_of_ok {d : DecodedFile} (found : r.footerAnswer check = .ok d) :
    r.afterFooter check = { r with footerRead := true } := by
  rw [afterFooter, found]

theorem afterFooter_of_error {e : Error} (failed : r.footerAnswer check = .error e) :
    r.afterFooter check = r := by
  rw [afterFooter, failed]

/-- Asking for the footer changes nothing but whether it is known. -/
theorem afterFooter_eq (check : Except Error Nat) (r : Reader) :
    ∃ known, r.afterFooter check = { r with footerRead := known } := by
  cases answer : r.footerAnswer check with
  | ok d => exact ⟨true, afterFooter_of_ok answer⟩
  | error e => exact ⟨r.footerRead, afterFooter_of_error answer⟩

/-- A footer that is found is the one that the decoder has. -/
theorem decoding_of_footerAnswer (found : r.footerAnswer check = .ok d) : r.decoding = .ok d := by
  unfold footerAnswer at found
  split at found
  · exact found
  · cases check with
    | error e => cases found
    | ok length =>
      cases decoded : r.decoding with
      | error e =>
        rw [decoded] at found
        cases found
      | ok d' =>
        rw [decoded] at found
        cases found
        rfl

/-- The file once the footer is known.  It is checked the first time only. -/
def fileAfterFooter (file : ByteFile φ) (both : Reader × φ) : φ :=
  if both.1.footerRead then both.2 else (file.checkFooter both.2).state

/-- Asking for the footer comes to what the check comes to at this moment. -/
theorem footer_ends (file : ByteFile φ) (s : φ) (isOpen : r.closed = false) :
    Yields (footer file) (r, s) (r.footerAnswer (file.checkFooter s).result)
      (r.afterFooter (file.checkFooter s).result, fileAfterFooter file (r, s)) := by
  have opened : Yields requireOpen (r, s) (.ok r) (r, s) := requireOpen_yields isOpen
  unfold fileAfterFooter
  cases known : r.footerRead with
  | true =>
    have answer (check : Except Error Nat) : r.footerAnswer check = r.decoding := if_pos known
    have same (check : Except Error Nat) : r.afterFooter check = r := by
      cases decoded : r.decoding with
      | ok d => rw [afterFooter_of_ok ((answer check).trans decoded), ← known]
      | error e => rw [afterFooter_of_error ((answer check).trans decoded)]
    refine opened.bind ?_
    rw [if_pos known, answer, same]
    exact yields_ofExcept _ _
  | false =>
    have unknown : ¬ r.footerRead = true := by
      rw [known]
      decide
    have checked := yields_self file.checkFooter s
    generalize (file.checkFooter s).result = check at checked
    generalize (file.checkFooter s).state = t at checked
    have judged := (onFile_yields checked r).mapError (footerError r.name)
    have read := (yields_ofExcept r.decoding (r, t)).mapError (footerError r.name)
    have answer : r.footerAnswer check = (do
        let _ ← check.mapError (footerError r.name)
        r.decoding.mapError (footerError r.name)) := if_neg unknown
    refine opened.bind ?_
    rw [if_neg unknown]
    cases passes : check with
    | error e =>
      rw [passes] at judged answer
      rw [answer, afterFooter_of_error answer]
      exact judged.bind_error
    | ok length =>
      rw [passes] at judged answer
      cases decoded : r.decoding with
      | error e =>
        rw [decoded] at answer read
        rw [answer, afterFooter_of_error answer]
        exact judged.bind read.bind_error
      | ok d =>
        rw [decoded] at answer read
        rw [answer, afterFooter_of_ok answer]
        refine judged.bind (read.bind ?_)
        exact (update_yields _ r t).bind ((yields_note _ _ _ _).bind (yields_pure d _))

/-- The reader is open and its footer parses: it has been read before, or the file passes the check
that comes first. -/
structure Parses (file : ByteFile φ) (d : DecodedFile) (both : Reader × φ) : Prop where
  isOpen : both.1.closed = false
  decoded : both.1.decoding = .ok d
  checked : both.1.footerRead = true ∨ ∃ length, (file.checkFooter both.2).result = .ok length

theorem footer_parsed (parses : Parses file d (r, s)) :
    Yields (footer file) (r, s) (.ok d)
      ({ r with footerRead := true }, fileAfterFooter file (r, s)) := by
  rcases parses with ⟨isOpen, decoded, checked⟩
  simp only at decoded checked
  have found : r.footerAnswer (file.checkFooter s).result = .ok d := by
    unfold footerAnswer
    split
    · exact decoded
    · next unknown =>
      rcases checked with known | ⟨length, passed⟩
      · exact absurd known unknown
      · rw [passed, decoded]
        rfl
  have ends := footer_ends file s isOpen
  rw [found, afterFooter_of_ok found] at ends
  exact ends

/-! ## The schema -/

theorem readSchema_known (isOpen : r.closed = false) {schema : Schema}
    (known : r.schema = some schema) :
    Yields (readSchema file) (r, s) (.ok schema) (r, s) := by
  have opened : Yields requireOpen (r, s) (.ok r) (r, s) := requireOpen_yields isOpen
  apply opened.bind
  simp only [known]
  exact yields_pure schema _

/-- A schema that is not known yet cannot be found without the footer. -/
theorem readSchema_unfound {both : Reader × φ} {e : Error} (isOpen : r.closed = false)
    (unread : r.schema = none) (failed : Yields (footer file) (r, s) (.error e) both) :
    Yields (readSchema file) (r, s) (.error e) both := by
  have opened : Yields requireOpen (r, s) (.ok r) (r, s) := requireOpen_yields isOpen
  apply opened.bind
  simp only [unread]
  exact failed.bind_error

/-- Before the footer has been read, a schema cannot be found if the framing of the footer fails. -/
theorem readSchema_unchecked {t : φ} {e : Error} (isOpen : r.closed = false)
    (unread : r.schema = none) (unparsed : r.footerRead = false)
    (failed : Yields file.checkFooter s (.error e) t) :
    Yields (readSchema file) (r, s) (.error (footerError r.name e)) (r, t) := by
  have opened : Yields requireOpen (r, s) (.ok r) (r, s) := requireOpen_yields isOpen
  refine readSchema_unfound isOpen unread (opened.bind ?_)
  rw [if_neg (by rw [unparsed]; decide)]
  exact ((onFile_yields failed r).mapError _).bind_error

theorem readSchema_undescribed {both : Reader × φ} {e : Error} (isOpen : r.closed = false)
    (unread : r.schema = none) (found : Yields (footer file) (r, s) (.ok d) both)
    (fields : r.fieldsOf d = .error e) : Yields (readSchema file) (r, s) (.error e) both := by
  have opened : Yields requireOpen (r, s) (.ok r) (r, s) := requireOpen_yields isOpen
  apply opened.bind
  simp only [unread]
  apply found.bind
  rw [fields]
  exact (yields_ofExcept (.error e) _).bind_error

/-- The schema is read through the footer and kept. -/
theorem readSchema_described {r' : Reader} {t : φ} {schema : Schema} (isOpen : r.closed = false)
    (unread : r.schema = none) (found : Yields (footer file) (r, s) (.ok d) (r', t))
    (fields : r.fieldsOf d = .ok schema) :
    Yields (readSchema file) (r, s) (.ok schema) ({ r' with schema := some schema }, t) := by
  have opened : Yields requireOpen (r, s) (.ok r) (r, s) := requireOpen_yields isOpen
  apply opened.bind
  simp only [unread]
  apply found.bind
  rw [fields]
  apply (yields_ofExcept (.ok schema) _).bind
  exact (update_yields _ _ t).bind ((yields_note _ _ _ _).bind (yields_pure schema _))

/-! ## The next row group -/

/-- Without the footer there is no group to be had. -/
theorem nextRowGroup_unfound {both : Reader × φ} {e : Error}
    (failed : Yields (footer file) (r, s) (.error e) both) :
    Yields (nextRowGroup file) (r, s) (.error e) both :=
  failed.bind_error

theorem nextRowGroup_none {r' : Reader} {t : φ}
    (found : Yields (footer file) (r, s) (.ok d) (r', t)) (past : d.groups[r'.cursor]? = none) :
    Yields (nextRowGroup file) (r, s) (.ok none) (r', t) := by
  apply found.bind
  apply (current_yields _).bind
  simp only [past]
  exact (yields_note _ _ _ _).bind (yields_pure none _)

/-- The next row group depends on the reader's position alone, and moves it on. -/
theorem nextRowGroup_taken {r' : Reader} {t : φ}
    (found : Yields (footer file) (r, s) (.ok d) (r', t)) {stored : StoredGroup}
    (next : d.groups[r'.cursor]? = some stored) :
    Yields (nextRowGroup file) (r, s) ((r'.grouping r'.cursor stored).map some)
      ({ r' with cursor := r'.cursor + 1 }.taking r'.cursor stored, t) := by
  refine found.bind ((current_yields _).bind ?_)
  simp only [next]
  refine (update_yields _ _ _).bind ?_
  exact (takeGroup_ends r'.cursor stored { r' with cursor := r'.cursor + 1 } t).map some

theorem nextRowGroup_some {r' : Reader} {t : φ}
    (found : Yields (footer file) (r, s) (.ok d) (r', t)) {stored : StoredGroup}
    (next : d.groups[r'.cursor]? = some stored) :
    ∃ used : DecoderUse, used.groups ⊆ r'.cursor :: r'.used.groups ∧
      Yields (nextRowGroup file) (r, s) ((r'.grouping r'.cursor stored).map some)
        ({ r' with cursor := r'.cursor + 1, used }, t) := by
  have taken := nextRowGroup_taken found next
  rcases taking_eq r'.cursor stored { r' with cursor := r'.cursor + 1 } with ⟨used, asked, same⟩
  rw [same] at taken
  exact ⟨used, asked, taken⟩

/-- After the last row group there is none. -/
theorem nextRowGroup_past (parses : Parses file d (r, s)) (past : d.groups[r.cursor]? = none) :
    Yields (nextRowGroup file) (r, s) (.ok none)
      ({ r with footerRead := true }, fileAfterFooter file (r, s)) :=
  nextRowGroup_none (footer_parsed parses) past

theorem nextRowGroup_inside (parses : Parses file d (r, s)) {stored : StoredGroup}
    (next : d.groups[r.cursor]? = some stored) :
    ∃ used : DecoderUse, used.groups ⊆ r.cursor :: r.used.groups ∧
      Yields (nextRowGroup file) (r, s) ((r.grouping r.cursor stored).map some)
        ({ r with footerRead := true, cursor := r.cursor + 1, used }, fileAfterFooter file (r, s)) :=
  nextRowGroup_some (footer_parsed parses) next

/-! ## Over an intact file -/

variable (intact : file.Intact stands)

include intact

theorem Ready.parses (ready : Ready d stands (r, s)) : Parses file d (r, s) := by
  rcases intact.checkFooter ready.place with ⟨length, t, checked, -⟩
  exact ⟨ready.isOpen, ready.decoded, Or.inr ⟨length, checked.result⟩⟩

theorem Ready.place_after (ready : Ready d stands (r, s)) :
    stands (fileAfterFooter file (r, s)) := by
  rcases intact.checkFooter ready.place with ⟨length, t, checked, there⟩
  unfold fileAfterFooter
  cases r.footerRead with
  | true => exact ready.place
  | false => exact checked.state ▸ there

theorem nextRowGroup_end (ready : Ready d stands (r, s)) (past : d.groups[r.cursor]? = none) :
    ∃ both, Yields (nextRowGroup file) (r, s) (.ok none) both ∧ Ready d stands both ∧
      both.1.footerRead = true :=
  ⟨_, nextRowGroup_past (ready.parses intact) past,
    ⟨ready.isOpen, ready.decoded, ready.place_after intact⟩, rfl⟩

theorem nextRowGroup_group (ready : Ready d stands (r, s)) {stored : StoredGroup}
    (next : d.groups[r.cursor]? = some stored) :
    ∃ r' t, Yields (nextRowGroup file) (r, s) ((r.grouping r.cursor stored).map some) (r', t) ∧
      Ready d stands (r', t) ∧ Advanced r r' := by
  rcases nextRowGroup_inside (ready.parses intact) next with ⟨used, asked, taken⟩
  exact ⟨_, _, taken, ⟨ready.isOpen, ready.decoded, ready.place_after intact⟩,
    ⟨rfl, rfl, rfl, asked⟩⟩

end

/-! ## Closing -/

/-- What is left of a result once harmless faults are let pass. -/
def tolerated (harmless : Fault → Bool) : Except Error Unit → Except Error Unit
  | .ok _ => .ok ()
  | .error (.fault f) => if harmless f then .ok () else .error (.fault f)
  | .error e => .error e

theorem tolerate_yields {σ : Type} {act : Action σ Unit} {s t : σ} {r : Except Error Unit}
    (harmless : Fault → Bool) (warning : String) (ends : Yields act s r t) :
    Yields (tolerate harmless warning act) s (tolerated harmless r) t := by
  cases r with
  | ok _ => exact ends.rescue_ok
  | error e =>
    apply ends.rescue_error
    cases e with
    | fault f =>
      dsimp only [tolerated]
      split
      · exact yields_note _ _ _ t
      · exact yields_fail _ t
    | _ => exact yields_fail _ t

theorem tolerated_of_harmless {harmless : Fault → Bool} {r : Except Error Unit}
    (tolerable : ∀ e, r = .error e → ∃ f, e = .fault f ∧ harmless f = true) :
    tolerated harmless r = .ok () := by
  cases r with
  | ok _ => rfl
  | error e =>
    rcases tolerable e rfl with ⟨f, rfl, allowed⟩
    exact if_pos allowed

/-- What closing the decoder of a file results in. -/
def closingOf (d : DecodedFile) : Except Error Unit :=
  match d.closeError with
  | some e => .error e
  | none => .ok ()

/-- What closing the decoder results in.  There is one once the footer has been read. -/
def decoderClosing (r : Reader) : Except Error Unit :=
  if r.footerRead then
    match r.decoding with
    | .ok d => closingOf d
    | .error _ => .ok ()
  else .ok ()

/-- What closing a reader results in, as long as its file can be closed. -/
def closeAnswer (r : Reader) : Except Error Unit :=
  tolerated harmlessInDecoder r.decoderClosing

theorem tolerated_closingOf {d : DecodedFile}
    (harmless : ∀ e, d.closeError = some e → ∃ f, e = .fault f ∧ harmlessInDecoder f = true) :
    tolerated harmlessInDecoder (closingOf d) = .ok () := by
  apply tolerated_of_harmless
  intro e raised
  unfold closingOf at raised
  cases broken : d.closeError with
  | none => simp [broken] at raised
  | some other =>
    simp only [broken, Except.error.injEq] at raised
    exact harmless e (raised ▸ broken)

/-- Once the footer was read, closing depends on the decoded file alone. -/
theorem closeAnswer_of_read {d : DecodedFile} {r : Reader} (decoded : r.decoding = .ok d)
    (known : r.footerRead = true) :
    r.closeAnswer = tolerated harmlessInDecoder (closingOf d) := by
  rw [closeAnswer, decoderClosing, if_pos known, decoded]

theorem closeAnswer_of_harmless {d : DecodedFile} {r : Reader} (decoded : r.decoding = .ok d)
    (harmless : ∀ e, d.closeError = some e → ∃ f, e = .fault f ∧ harmlessInDecoder f = true) :
    r.closeAnswer = .ok () := by
  cases known : r.footerRead with
  | true => rw [closeAnswer_of_read decoded known, tolerated_closingOf harmless]
  | false =>
    rw [closeAnswer, decoderClosing, if_neg (by rw [known]; decide)]
    rfl

/-- The reader with the closing of its decoder counted. -/
def decoderClosed (r : Reader) : Reader :=
  if r.footerRead then { r with used := { r.used with closes := r.used.closes + 1 } } else r

theorem decoderClosed_eq (r : Reader) : ∃ used, r.decoderClosed = { r with used } := by
  unfold decoderClosed
  split
  · exact ⟨_, rfl⟩
  · exact ⟨r.used, rfl⟩

theorem closeDecoder_yields (r : Reader) (s : φ) :
    Yields closeDecoder (r, s) r.closeAnswer (r.decoderClosed, s) := by
  rcases r with ⟨name, options, decoding, footerRead, schema, cursor, closed, used⟩
  cases footerRead with
  | false => exact (current_yields _).bind (yields_pure () _)
  | true =>
    apply (current_yields _).bind
    apply (update_yields _ _ s).bind
    apply tolerate_yields
    cases decoding with
    | error e => exact yields_pure () _
    | ok d =>
      dsimp only [decoderClosing, closingOf]
      cases d.closeError with
      | none => exact yields_pure () _
      | some e => exact yields_fail e _

/-- A file is asked to close once, whatever comes of it. -/
theorem closeFile_yields (file : ByteFile φ) (name : String) (s : φ) :
    Yields (closeFile file name) s (tolerated Fault.isSystem (file.close s).result)
      (file.close s).state := by
  have closed := tolerate_yields Fault.isSystem ("Error closing " ++ name)
    (yields_self file.close s)
  cases answer : tolerated Fault.isSystem (file.close s).result with
  | ok _ =>
    rw [answer] at closed
    exact closed.bind (yields_note _ _ _ _)
  | error e =>
    rw [answer] at closed
    exact closed.bind_error

/-- What closing an open reader results in: the file's turn comes if the decoder's did not fail. -/
def closing (file : ByteFile φ) (r : Reader) (s : φ) : Except Error Unit :=
  match r.closeAnswer with
  | .ok _ => tolerated Fault.isSystem (file.close s).result
  | .error e => .error e

/-- The file once the reader has been closed. -/
def fileAfterClose (file : ByteFile φ) (r : Reader) (s : φ) : φ :=
  match r.closeAnswer with
  | .ok _ => (file.close s).state
  | .error _ => s

/-- An open reader closes its decoder and, if that does not fail, its file. -/
theorem close_ends (file : ByteFile φ) {r : Reader} (s : φ) (isOpen : r.closed = false) :
    Yields (close file) (r, s) (r.closing file s)
      ({ r with closed := true }.decoderClosed, r.fileAfterClose file s) := by
  have decoder := closeDecoder_yields { r with closed := true } s
  change Yields closeDecoder _ r.closeAnswer _ at decoder
  apply (current_yields (r, s)).bind
  simp only [isOpen]
  apply (update_yields _ r s).bind
  unfold closing fileAfterClose
  cases answer : r.closeAnswer with
  | error e =>
    rw [answer] at decoder
    exact decoder.bind_error
  | ok _ =>
    rw [answer] at decoder
    exact decoder.bind (onFile_yields (closeFile_yields file r.name s) _)

/-- Over a file that can be closed, only the decoder decides how closing ends. -/
theorem close_open {file : ByteFile φ} {r : Reader} {s : φ} (isOpen : r.closed = false)
    (closes : (file.close s).result = .ok ()) :
    ∃ used, Yields (close file) (r, s) r.closeAnswer
      ({ r with closed := true, used }, r.fileAfterClose file s) := by
  have ends := close_ends file s isOpen
  have answer : r.closing file s = r.closeAnswer := by
    unfold closing
    rw [closes]
    cases r.closeAnswer <;> rfl
  rcases decoderClosed_eq { r with closed := true } with ⟨used, same⟩
  rw [answer, same] at ends
  exact ⟨used, ends⟩

/-- A closed reader has nothing left to close. -/
theorem close_closed {file : ByteFile φ} {both : Reader × φ} (isClosed : both.1.closed = true) :
    Yields (close file) both (.ok ()) both := by
  apply (current_yields both).bind
  rw [if_pos isClosed]
  exact yields_pure () both

/-- After closing, a reader is closed, whether closing failed or not. -/
theorem closed_of_close (file : ByteFile φ) (both : Reader × φ) :
    (close file both).state.1.closed = true := by
  cases isClosed : both.1.closed with
  | true => rw [(close_closed isClosed).state, isClosed]
  | false =>
    rcases decoderClosed_eq { both.1 with closed := true } with ⟨used, same⟩
    rw [(close_ends file both.2 isClosed).state, same]

/-- Closing succeeds if the file does and the decoder meets no more than a harmless fault. -/
theorem close_yields {file : ByteFile φ} {stands : φ → Prop} {d : DecodedFile} {r : Reader}
    {s : φ} (intact : file.Intact stands) (ready : Ready d stands (r, s))
    (harmless : ∀ e, d.closeError = some e → ∃ f, e = .fault f ∧ harmlessInDecoder f = true) :
    ∃ used, Yields (close file) (r, s) (.ok ())
      ({ r with closed := true, used }, (file.close s).state) := by
  have closed := close_open ready.isOpen (intact.close ready.place)
  simp only [fileAfterClose, closeAnswer_of_harmless ready.decoded harmless] at closed
  exact closed

/-! ## Opening -/

section

variable {file : ByteFile φ} {name : String} {s t : φ} (options : Options) (decoding : Decoding)

theorem openFile_framed {size : Nat} (checked : Yields file.checkMagic s (.ok size) t) :
    Yields (openFile file name options decoding) s (.ok { name, options, decoding }) t :=
  checked.rescue_ok.bind ((yields_note _ _ _ t).bind (yields_pure _ t))

/-- The file is closed before an error is reported. -/
theorem openFile_reported {e reported : Error} (checked : Yields file.checkMagic s (.error e) t)
    (reports : openingError? name e = some reported) :
    Yields (openFile file name options decoding) s
      (lastly (.error reported) (tolerated Fault.isSystem (file.close t).result))
      (file.close t).state := by
  have closed := closeFile_yields file name t
  cases ending : tolerated Fault.isSystem (file.close t).result with
  | ok _ =>
    rw [ending] at closed
    apply (checked.rescue_error ?_).bind_error
    simp only [reports]
    exact closed.bind (yields_fail reported _)
  | error f =>
    rw [ending] at closed
    apply (checked.rescue_error ?_).bind_error
    simp only [reports]
    exact closed.bind_error

/-- An error that has no report comes out as it is, and the file is left alone. -/
theorem openFile_unreported {e : Error} (checked : Yields file.checkMagic s (.error e) t)
    (unreported : openingError? name e = none) :
    Yields (openFile file name options decoding) s (.error e) t := by
  apply (checked.rescue_error ?_).bind_error
  simp only [unreported]
  exact yields_fail e t

end

end Reader
end RowReader
