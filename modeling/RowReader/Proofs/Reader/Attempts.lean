import RowReader.Proofs.Reader.Answers

/-!
# Attempts

An operation on a reader may meet faults of the file, and the decoder may meet them as well while it
reads the footer or the pages of a group.  A request is fruitless if it fails because the footer cannot
be checked or read at that moment, or because the fields it describes cannot be made sense of.  Such
an attempt leaves the reader as it was, except that a footer which was read stays read.  Any other
attempt leaves it as the same operation would without faults.
-/

namespace RowReader

open RowReader.Action

/-- The same footer over groups whose pages cannot be read. -/
def DecodedFile.spoiled (e : Error) (d : DecodedFile) : DecodedFile :=
  { d with groups := d.groups.map fun stored => { stored with table := .error e } }

namespace Reader

/-- What faults of the file can come to in the decoder. -/
inductive Trouble where
  | footer (e : Error)
  | pages (e : Error)

/-- An operation, and the trouble that the decoder meets meanwhile. -/
structure Attempt where
  operation : Operation
  trouble : Option Trouble := none

/-- The reader while its decoder is in trouble.  A footer that has been read is not read again. -/
def troubled (trouble : Option Trouble) (r : Reader) : Reader :=
  match trouble with
  | none => r
  | some (.footer e) => if r.footerRead then r else { r with decoding := .error e }
  | some (.pages e) => { r with decoding := r.decoding.map (DecodedFile.spoiled e) }

variable {φ ψ : Type}

/-- The trouble ends with the operation. -/
def attempt (file : ByteFile φ) (both : Reader × φ) (a : Attempt) : Response × Reader × φ :=
  let (response, left) := operate file (both.1.troubled a.trouble, both.2) a.operation
  (response, { left.1 with decoding := both.1.decoding }, left.2)

/-- Whether an open reader is asked in vain: for something that needs the footer, which is not to be
had at this moment, or for a schema that cannot be made out. -/
def fruitless (file : ByteFile φ) (both : Reader × φ) (a : Attempt) : Bool :=
  let met := (both.1.troubled a.trouble, both.2)
  !both.1.closed && match a.operation with
  | .request .readSchema => !(readSchema file met).result.isOk
  | .request .numRows | .request .numRowGroups | .request .nextRowGroup =>
    !(footer file met).result.isOk
  | _ => false

/-- Attempts one after another: the operations that were not fruitless, and how the reader and its
file are left. -/
def endure (file : ByteFile φ) : List Attempt → Reader × φ → List Operation × Reader × φ
  | [], both => ([], both)
  | a :: rest, both =>
    let (others, last) := endure file rest (attempt file both a).2
    (if fruitless file both a then others else a.operation :: others, last)

variable {check : Except Error Nat} {d : DecodedFile} {r r' : Reader} {s : φ}

/-! ## Trouble -/

/-- Trouble is a matter of the decoder. -/
theorem troubled_eq (trouble : Option Trouble) (r : Reader) :
    ∃ decoding, r.troubled trouble = { r with decoding } := by
  unfold troubled
  cases trouble with
  | none => exact ⟨r.decoding, rfl⟩
  | some met =>
    cases met with
    | footer e =>
      dsimp only
      split
      · exact ⟨r.decoding, rfl⟩
      · exact ⟨.error e, rfl⟩
    | pages e => exact ⟨_, rfl⟩

theorem footerAnswer_map (check : Except Error Nat) (f : DecodedFile → DecodedFile) (r : Reader) :
    { r with decoding := r.decoding.map f }.footerAnswer check = (r.footerAnswer check).map f := by
  unfold footerAnswer
  dsimp only
  split
  · rfl
  · cases check with
    | error e => rfl
    | ok length => cases r.decoding <;> rfl

theorem footerAnswer_known (check : Except Error Nat) (r : Reader) :
    { r with footerRead := true }.footerAnswer check = r.decoding :=
  if_pos rfl

/-- A judgement that passes only when another one does finds no other footer. -/
theorem footerAnswer_of_passes {now : Except Error Nat}
    (passes : ∀ {length : Nat}, now = .ok length → check = .ok length)
    (found : r.footerAnswer now = .ok d) : r.footerAnswer check = .ok d := by
  unfold footerAnswer at found ⊢
  split
  · next known =>
    rw [if_pos known] at found
    exact found
  · next unknown =>
    rw [if_neg unknown] at found
    cases judged : now with
    | error e =>
      rw [judged] at found
      cases found
    | ok length =>
      rw [judged] at found
      rw [passes judged]
      exact found

/-- A footer that is found in spite of trouble is the one there is, though its groups may not be
readable. -/
theorem footerAnswer_troubled {trouble : Option Trouble} {d' : DecodedFile}
    (found : (r.troubled trouble).footerAnswer check = .ok d') :
    ∃ d f, r.footerAnswer check = .ok d ∧ d' = { d with groups := d.groups.map f } ∧
      ∀ stored : StoredGroup, (f stored).bytes = stored.bytes := by
  cases trouble with
  | none => exact ⟨d', id, found, by rw [List.map_id], fun _ => rfl⟩
  | some met =>
    cases met with
    | footer e =>
      unfold troubled at found
      dsimp only at found
      split at found
      · exact ⟨d', id, found, by rw [List.map_id], fun _ => rfl⟩
      · cases decoding_of_footerAnswer found
    | pages e =>
      change Reader.footerAnswer check { r with decoding := r.decoding.map _ } = _ at found
      rw [footerAnswer_map] at found
      cases answer : r.footerAnswer check with
      | error e =>
        rw [answer] at found
        cases found
      | ok d =>
        rw [answer] at found
        cases found
        exact ⟨d, _, rfl, rfl, fun _ => rfl⟩

/-- What a footer tells changes a reader in the same way whether or not its groups can be read. -/
theorem told_troubled {f : StoredGroup → StoredGroup}
    (sizes : ∀ stored : StoredGroup, (f stored).bytes = stored.bytes) (d : DecodedFile) (r : Reader)
    (during after : Decoding) (asked : Request) :
    { (told { d with groups := d.groups.map f } { r with decoding := during } asked).2 with
      decoding := after } = (told d { r with decoding := after } asked).2 := by
  cases asked with
  | readSchema =>
    have same (decoding : Decoding) (groups : List StoredGroup) :
        { r with decoding }.fieldsOf { d with groups } = r.fieldsOf d := rfl
    simp only [told, same]
    cases r.fieldsOf d <;> rfl
  | nextRowGroup =>
    simp only [told, List.getElem?_map]
    cases d.groups[r.cursor]? with
    | none => rfl
    | some stored =>
      simp only [Option.map_some, taking, limitExceeded?, sizes]
      split <;> rfl
  | _ => rfl

/-! ## One attempt -/

theorem aside_troubled (trouble : Option Trouble) (r : Reader) :
    (r.troubled trouble).aside = r.aside := by
  rcases troubled_eq trouble r with ⟨decoding, same⟩
  rw [same]
  funext asked
  cases asked <;> rfl

theorem attempt_closed (file : ByteFile φ) (isClosed : r.closed = true) (s : φ) (op : Operation)
    (trouble : Option Trouble) : attempt file (r, s) ⟨op, trouble⟩ = (refusal r.name op, r, s) := by
  rcases troubled_eq trouble r with ⟨during, same⟩
  have met : (r.troubled trouble, s).1.closed = true := by
    rw [same]
    exact isClosed
  have idle := operate_closed file met op
  simp only [attempt, idle]
  rw [same]

theorem isOk_error_iff {α : Type} (x : Except Error α) :
    (!x.isOk) = true ↔ ∃ e, x = .error e := by
  cases x with
  | ok a => simp [Except.isOk, Except.toBool]
  | error e => simp [Except.isOk, Except.toBool]

section

variable {file : ByteFile φ} {asked : Request} (isOpen : r.closed = false) (trouble : Option Trouble)

include isOpen

theorem closed_troubled : (r.troubled trouble).closed = false := by
  rcases troubled_eq trouble r with ⟨decoding, same⟩
  rw [same]
  exact isOpen

theorem attempt_request (file : ByteFile φ) (s : φ) (asked : Request) :
    ∃ t, (t = s ∨ t = (file.checkFooter s).state) ∧
      attempt file (r, s) ⟨.request asked, trouble⟩ =
        (.reply ((r.troubled trouble).answered (file.checkFooter s).result asked).1,
          { ((r.troubled trouble).answered (file.checkFooter s).result asked).2 with
            decoding := r.decoding }, t) := by
  rcases respond_ends (closed_troubled isOpen trouble) file s asked with ⟨t, left, responded⟩
  refine ⟨t, left, ?_⟩
  simp only [attempt, operate, responded]

/-- A request is fruitless if it needs a footer and there is none to be had, or if it is for a schema
and there is none in the footer. -/
theorem fruitless_iff : fruitless file (r, s) ⟨.request asked, trouble⟩ = true ↔
    r.aside asked = none ∧
      ∀ d, (r.troubled trouble).footerAnswer (file.checkFooter s).result = .ok d →
        asked = .readSchema ∧ ∃ e, r.fieldsOf d = .error e := by
  have open' := closed_troubled isOpen trouble
  have schemas : (r.troubled trouble).schema = r.schema ∧
      ∀ d, (r.troubled trouble).fieldsOf d = r.fieldsOf d := by
    rcases troubled_eq trouble r with ⟨decoding, same⟩
    rw [same]
    exact ⟨rfl, fun _ => rfl⟩
  have footers := footer_ends file s open'
  unfold fruitless
  simp only [isOpen, Bool.not_false, Bool.true_and]
  cases asked with
  | readSchema =>
    simp only [aside, Option.map_eq_none_iff, isOk_error_iff, true_and]
    cases known : r.schema with
    | some schema =>
      have ends : Yields (readSchema file) (r.troubled trouble, s) _ _ :=
        readSchema_known open' (schemas.1.trans known)
      simp [ends.result]
    | none =>
      rw [(readSchema_ends file s open' (schemas.1.trans known)).result, schemaAnswer]
      cases answer : (r.troubled trouble).footerAnswer (file.checkFooter s).result with
      | error e => simp [bind, Except.bind]
      | ok d => simp [bind, Except.bind, schemas.2]
  | assembleRow g schema i => simp [aside]
  | _ =>
    simp only [aside, isOk_error_iff, footers.result, true_and]
    cases (r.troubled trouble).footerAnswer (file.checkFooter s).result <;> simp

/-- A fruitless attempt ends in an error.  It leaves the reader as it was, but for a footer that was
read on the way to the schema. -/
theorem attempt_fruitless {op : Operation} (vain : fruitless file (r, s) ⟨op, trouble⟩ = true) :
    ∃ asked e left t, op = .request asked ∧
      attempt file (r, s) ⟨op, trouble⟩ = (.reply (asked.failed e), left, t) ∧
      (t = s ∨ t = (file.checkFooter s).state) ∧
      (left = r ∨ asked = .readSchema ∧ left = { r with footerRead := true } ∧
        ∃ d, r.footerAnswer (file.checkFooter s).result = .ok d) := by
  cases op with
  | close => simp [fruitless] at vain
  | request asked =>
    rcases (fruitless_iff isOpen trouble).mp vain with ⟨asks, unfound⟩
    rcases attempt_request isOpen trouble file s asked with ⟨t, left, attempted⟩
    rcases troubled_eq trouble r with ⟨during, same⟩
    have asks' : (r.troubled trouble).aside asked = none := by rw [aside_troubled, asks]
    cases answer : (r.troubled trouble).footerAnswer (file.checkFooter s).result with
    | error e =>
      rw [answered_failed asks' answer, same] at attempted
      exact ⟨asked, e, r, t, rfl, attempted, left, Or.inl rfl⟩
    | ok d' =>
      rcases unfound d' answer with ⟨rfl, e, undescribed⟩
      rcases footerAnswer_troubled answer with ⟨d, -, found, -⟩
      have told_error : told d' { r.troubled trouble with footerRead := true } .readSchema =
          (.schema (.error e), { r.troubled trouble with footerRead := true }) := by
        have fields : { r.troubled trouble with footerRead := true }.fieldsOf d' = .error e := by
          rw [same]
          exact undescribed
        simp only [told, fields]
      rw [answered_told asks' answer, told_error, same] at attempted
      exact ⟨_, e, _, t, rfl, attempted, left, Or.inr ⟨rfl, rfl, d, found⟩⟩

/-- Any other request leaves the reader as it would without faults. -/
theorem attempt_fruitful {stands : φ → Prop} (faltering : file.Faltering check stands)
    (here : stands s) (useful : fruitless file (r, s) ⟨.request asked, trouble⟩ = false) :
    ∃ t, stands t ∧
      (attempt file (r, s) ⟨.request asked, trouble⟩).2 = ((r.answered check asked).2, t) := by
  rcases attempt_request isOpen trouble file s asked with ⟨t, left, attempted⟩
  have there : stands t := by
    rcases left with rfl | rfl
    · exact here
    · exact faltering.stays here
  refine ⟨t, there, ?_⟩
  rcases troubled_eq trouble r with ⟨during, same⟩
  have asking : (r.troubled trouble).aside asked = r.aside asked := by rw [aside_troubled]
  rw [attempted]
  cases asks : r.aside asked with
  | some reply => rw [answered_aside asks, answered_aside (asking.trans asks), same]
  | none =>
    have fruit : ¬ fruitless file (r, s) ⟨.request asked, trouble⟩ = true := by
      rw [useful]
      decide
    rw [fruitless_iff isOpen trouble] at fruit
    cases answer : (r.troubled trouble).footerAnswer (file.checkFooter s).result with
    | error e =>
      apply absurd _ fruit
      refine ⟨asks, ?_⟩
      intro d found
      rw [answer] at found
      cases found
    | ok d' =>
      rcases footerAnswer_troubled answer with ⟨d, f, found, rfl, sizes⟩
      have found := footerAnswer_of_passes (faltering.passes here) found
      rw [answered_told asks found, answered_told (asking.trans asks) answer, same]
      have changed := told_troubled sizes d { r with footerRead := true } during r.decoding asked
      exact congrArg (fun reader => (reader, t)) changed

end

end Reader
end RowReader
