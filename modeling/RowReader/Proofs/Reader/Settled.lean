import RowReader.Proofs.Reader.Ready

/-!
# Readers over settled files

A file is settled if its footer is judged the same way as often as it is checked.  What an open
reader makes of the footer is then a function of the reader and of this judgement, and no state of
the file enters it.
-/

namespace RowReader

open RowReader.Action

variable {φ : Type}

/-- The footer of the file is always judged like this, and the file can be closed. -/
structure ByteFile.Settled (file : ByteFile φ) (check : Except Error Nat) (stands : φ → Prop) :
    Prop where
  checkFooter : ∀ {s : φ}, stands s → ∃ t, Yields file.checkFooter s check t ∧ stands t
  close : ∀ {s : φ}, stands s → (file.close s).result = .ok ()

theorem ByteFile.Honest.settled {file : ByteFile φ} {bytes : List UInt8}
    {stands : Nat → φ → Prop} (honest : file.Honest bytes stands)
    (room : trailerSize ≤ bytes.length) :
    file.Settled (footerCheck bytes) fun s => ∃ p, stands p s where
  checkFooter := by
    rintro s ⟨p, here⟩
    rcases honest.checkFooter here room with ⟨t, checked, front⟩
    exact ⟨t, checked, 0, front⟩
  close := by
    rintro s ⟨p, here⟩
    exact honest.close here

/-- A settled file is judged as it always is, and stays. -/
theorem ByteFile.Settled.judged {file : ByteFile φ} {check : Except Error Nat} {stands : φ → Prop}
    {s : φ} (settled : file.Settled check stands) (here : stands s) :
    (file.checkFooter s).result = check ∧ stands (file.checkFooter s).state := by
  rcases settled.checkFooter here with ⟨t, checked, there⟩
  rw [checked.state]
  exact ⟨checked.result, there⟩

theorem ByteFile.Settled.intact {file : ByteFile φ} {length : Nat} {stands : φ → Prop}
    (settled : file.Settled (.ok length) stands) : file.Intact stands where
  checkFooter := fun here => ⟨length, settled.checkFooter here⟩
  close := settled.close

/-- The check of the footer may fail at any time, but it does not pass unless this judgement does.
The file can be closed. -/
structure ByteFile.Faltering (file : ByteFile φ) (check : Except Error Nat) (stands : φ → Prop) :
    Prop where
  stays : ∀ {s : φ}, stands s → stands (file.checkFooter s).state
  passes : ∀ {s : φ} {length : Nat}, stands s → (file.checkFooter s).result = .ok length →
    check = .ok length
  close : ∀ {s : φ}, stands s → (file.close s).result = .ok ()

/-- A file that passes the check of its magic has room for a trailer. -/
theorem trailerSize_le_of_magicCheck {bytes : List UInt8} {size : Nat}
    (passed : magicCheck bytes = .ok size) : trailerSize ≤ bytes.length := by
  have leastSize : minFileSize = 12 := rfl
  have trailer : trailerSize = 8 := rfl
  unfold magicCheck at passed
  split at passed
  · cases passed
  · omega

/-- What the check of the magic has to say is no fault of the file. -/
theorem magicCheck_error {bytes : List UInt8} {e : Error} (failed : magicCheck bytes = .error e) :
    e.kind? = some .opening ∧ ∀ name, Reader.openingError? name e = some e := by
  have wrong {fileEnd : FileEnd} {found : List UInt8} {e : Error}
      (unexpected : ByteFile.expectMagic fileEnd found = .error e) :
      e = .wrongMagic fileEnd found := by
    unfold ByteFile.expectMagic at unexpected
    split at unexpected
    · cases unexpected
    · cases unexpected
      rfl
  unfold magicCheck at failed
  split at failed
  · cases failed
    exact ⟨rfl, fun _ => rfl⟩
  · split at failed
    · next header =>
      cases failed
      rw [wrong header]
      exact ⟨rfl, fun _ => rfl⟩
    · split at failed
      · next footer =>
        cases failed
        rw [wrong footer]
        exact ⟨rfl, fun _ => rfl⟩
      · cases failed

namespace Reader

variable {file : ByteFile φ} {check : Except Error Nat} {stands : φ → Prop} {r : Reader} {s : φ}

/-! ## Opening -/

/-- An honest file opens if its bytes begin and end with the magic.  Otherwise it is closed again. -/
theorem openFile_honest {bytes : List UInt8} {stands : Nat → φ → Prop} {p : Nat}
    (honest : file.Honest bytes stands) (here : stands p s) (name : String) (options : Options)
    (decoding : Decoding) :
    ∃ q t, stands q t ∧
      match magicCheck bytes with
      | .ok _ => Yields (openFile file name options decoding) s (.ok { name, options, decoding }) t
      | .error e => Yields (openFile file name options decoding) s (.error e) (file.close t).state := by
  rcases honest.checkMagic here with ⟨q, t, checked, there⟩
  refine ⟨q, t, there, ?_⟩
  cases judged : magicCheck bytes with
  | ok size =>
    rw [judged] at checked
    exact openFile_framed options decoding checked
  | error e =>
    rw [judged] at checked
    have failed := openFile_reported options decoding checked ((magicCheck_error judged).2 name)
    rw [honest.close there] at failed
    exact failed

/-! ## The footer -/

theorem fileAfterFooter_stays (r : Reader) (here : stands s)
    (there : stands (file.checkFooter s).state) : stands (fileAfterFooter file (r, s)) := by
  unfold fileAfterFooter
  split
  · exact here
  · exact there

theorem footer_settled (settled : file.Settled check stands) (isOpen : r.closed = false)
    (here : stands s) :
    ∃ t, stands t ∧ Yields (footer file) (r, s) (r.footerAnswer check) (r.afterFooter check, t) := by
  rcases settled.judged here with ⟨judged, there⟩
  have ends := footer_ends file s isOpen
  rw [judged] at ends
  exact ⟨_, fileAfterFooter_stays r here there, ends⟩

/-! ## The schema -/

/-- What a reader that does not know its schema yet makes of the footer's fields. -/
def schemaAnswer (check : Except Error Nat) (r : Reader) : Except Error Schema := do
  let d ← r.footerAnswer check
  r.fieldsOf d

theorem found_of_schemaAnswer {schema : Schema} (answered : r.schemaAnswer check = .ok schema) :
    ∃ d, r.footerAnswer check = .ok d ∧ r.fieldsOf d = .ok schema := by
  unfold schemaAnswer at answered
  cases found : r.footerAnswer check with
  | error e =>
    rw [found] at answered
    cases answered
  | ok d =>
    rw [found] at answered
    exact ⟨d, rfl, answered⟩

/-- Without a schema, reading it comes to what the footer comes to, and its fields. -/
theorem readSchema_ends (file : ByteFile φ) (s : φ) (isOpen : r.closed = false)
    (unknown : r.schema = none) :
    Yields (readSchema file) (r, s) (r.schemaAnswer (file.checkFooter s).result)
      ({ r.afterFooter (file.checkFooter s).result with
          schema := (r.schemaAnswer (file.checkFooter s).result).toOption },
        fileAfterFooter file (r, s)) := by
  have found := footer_ends file s isOpen
  generalize (file.checkFooter s).result = check at found ⊢
  generalize fileAfterFooter file (r, s) = t at found ⊢
  have same : { r.afterFooter check with schema := none } = r.afterFooter check := by
    rcases afterFooter_eq check r with ⟨known, after⟩
    rw [after, ← unknown]
  unfold schemaAnswer
  cases answer : r.footerAnswer check with
  | error e =>
    rw [answer] at found
    exact same.symm ▸ readSchema_unfound isOpen unknown found
  | ok d =>
    rw [answer] at found
    change Yields _ _ (r.fieldsOf d) ({ r.afterFooter check with schema := (r.fieldsOf d).toOption }, t)
    cases described : r.fieldsOf d with
    | error e => exact same.symm ▸ readSchema_undescribed isOpen unknown found described
    | ok schema => exact readSchema_described isOpen unknown found described

theorem readSchema_settled (settled : file.Settled check stands) (isOpen : r.closed = false)
    (unknown : r.schema = none) (here : stands s) :
    ∃ schema t, stands t ∧ Yields (readSchema file) (r, s) (r.schemaAnswer check)
      ({ r.afterFooter check with schema }, t) := by
  have ends := readSchema_ends file s isOpen unknown
  rcases settled.judged here with ⟨judged, there⟩
  rw [judged] at ends
  exact ⟨_, _, fileAfterFooter_stays r here there, ends⟩

end Reader
end RowReader
