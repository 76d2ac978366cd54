import RowReader.Proofs.Reader.Lifetime
import RowReader.Proofs.Reader.Settled

/-!
# What a request comes to

Some requests an open reader can answer by itself: for a row of a group that was handed out, and for
a schema that is known.  For all others it asks for the footer first, and then the footer tells
everything.  So the reply and the reader that is left are a function of the reader and of how the
footer is judged at this moment.
-/

namespace RowReader

open RowReader.Action

namespace Reader

variable {φ : Type} {check : Except Error Nat} {d : DecodedFile} {r : Reader} {s : φ}

/-- The reply to a request for a row. -/
def rowReply (g : RowGroup) (schema : Schema) (i : Int) : Reply :=
  .row ((g.assemble schema i).result.map fun row => (row, (g.assemble schema i).state))

/-- The reply to a request that needs no footer. -/
def aside (r : Reader) : Request → Option Reply
  | .readSchema => r.schema.map fun schema => .schema (.ok schema)
  | .assembleRow g schema i => some (rowReply g schema i)
  | _ => none

/-- The reply that a footer tells, and the reader that is left. -/
def told (d : DecodedFile) (r : Reader) : Request → Reply × Reader
  | .readSchema =>
    match r.fieldsOf d with
    | .ok schema => (.schema (.ok schema), { r with schema := some schema })
    | .error e => (.schema (.error e), r)
  | .numRows => (.rows (.ok d.rows), r)
  | .numRowGroups => (.groups (.ok d.groups.length), r)
  | .assembleRow g schema i => (rowReply g schema i, r)
  | .nextRowGroup =>
    match d.groups[r.cursor]? with
    | none => (.group (.ok none), r)
    | some stored =>
      (.group ((r.grouping r.cursor stored).map some),
        { r with cursor := r.cursor + 1 }.taking r.cursor stored)

/-- The reply to a request of an open reader whose footer is judged like this, and the reader that
is left. -/
def answered (check : Except Error Nat) (r : Reader) (asked : Request) : Reply × Reader :=
  match r.aside asked with
  | some reply => (reply, r)
  | none =>
    match r.footerAnswer check with
    | .ok d => told d { r with footerRead := true } asked
    | .error e => (asked.failed e, r)

theorem answered_aside {asked : Request} {reply : Reply} (alone : r.aside asked = some reply) :
    r.answered check asked = (reply, r) := by
  simp only [answered, alone]

theorem answered_told {asked : Request} (asks : r.aside asked = none)
    (found : r.footerAnswer check = .ok d) :
    r.answered check asked = told d { r with footerRead := true } asked := by
  simp only [answered, asks, found]

theorem answered_failed {asked : Request} {e : Error} (asks : r.aside asked = none)
    (failed : r.footerAnswer check = .error e) :
    r.answered check asked = (asked.failed e, r) := by
  simp only [answered, asks, failed]

section

variable {file : ByteFile φ} {t : φ} {asked : Request} (isOpen : r.closed = false)

include isOpen

/-- A reader that needs no footer leaves everything as it is. -/
theorem respond_aside {reply : Reply} (alone : r.aside asked = some reply) :
    respond file (r, s) asked = (reply, r, s) := by
  cases asked with
  | readSchema =>
    rcases Option.map_eq_some_iff.mp alone with ⟨schema, known, rfl⟩
    have ends : Yields (readSchema file) (r, s) _ _ := readSchema_known isOpen known
    simp only [respond, ends.result, ends.state]
  | assembleRow g schema i =>
    cases alone
    have ends := assembleRow_yields (s := s) isOpen g schema i
    simp only [respond, ends.result, ends.state, rowReply]
  | _ => cases alone

theorem respond_failed {e : Error} (asks : r.aside asked = none)
    (failed : Yields (footer file) (r, s) (.error e) (r, t)) :
    respond file (r, s) asked = (asked.failed e, r, t) := by
  cases asked with
  | readSchema =>
    have ends := readSchema_unfound isOpen (Option.map_eq_none_iff.mp asks) failed
    simp only [respond, ends.result, ends.state, Request.failed]
  | numRows =>
    have ends : Yields (numRows file) (r, s) _ _ := failed.bind_error
    simp only [respond, ends.result, ends.state, Request.failed]
  | numRowGroups =>
    have ends : Yields (numRowGroups file) (r, s) _ _ := failed.bind_error
    simp only [respond, ends.result, ends.state, Request.failed]
  | assembleRow g schema i => cases asks
  | nextRowGroup =>
    have ends := nextRowGroup_unfound failed
    simp only [respond, ends.result, ends.state, Request.failed]

theorem respond_told (asks : r.aside asked = none)
    (found : Yields (footer file) (r, s) (.ok d) ({ r with footerRead := true }, t)) :
    respond file (r, s) asked =
      ((told d { r with footerRead := true } asked).1,
        (told d { r with footerRead := true } asked).2, t) := by
  cases asked with
  | readSchema =>
    have unread := Option.map_eq_none_iff.mp asks
    have same : { r with footerRead := true }.fieldsOf d = r.fieldsOf d := rfl
    cases fields : r.fieldsOf d with
    | error e =>
      have ends := readSchema_undescribed isOpen unread found fields
      simp only [respond, ends.result, ends.state, told, same, fields]
    | ok schema =>
      have ends := readSchema_described isOpen unread found fields
      simp only [respond, ends.result, ends.state, told, same, fields]
  | numRows =>
    have ends : Yields (numRows file) (r, s) _ _ := found.bind (yields_pure d.rows _)
    simp only [respond, ends.result, ends.state, told]
  | numRowGroups =>
    have ends : Yields (numRowGroups file) (r, s) _ _ :=
      found.bind (yields_pure d.groups.length _)
    simp only [respond, ends.result, ends.state, told]
  | assembleRow g schema i => cases asks
  | nextRowGroup =>
    cases next : d.groups[r.cursor]? with
    | none =>
      have ends := nextRowGroup_none found next
      simp only [respond, ends.result, ends.state, told, next]
    | some stored =>
      have ends := nextRowGroup_taken found next
      simp only [respond, ends.result, ends.state, told, next]

/-- What a request comes to, over any file in any state.  The file is left alone, or its footer has
been checked once. -/
theorem respond_ends (file : ByteFile φ) (s : φ) (asked : Request) :
    ∃ t, (t = s ∨ t = (file.checkFooter s).state) ∧
      respond file (r, s) asked =
        ((r.answered (file.checkFooter s).result asked).1,
          (r.answered (file.checkFooter s).result asked).2, t) := by
  have found := footer_ends file s isOpen
  have left : fileAfterFooter file (r, s) = s ∨
      fileAfterFooter file (r, s) = (file.checkFooter s).state := by
    unfold fileAfterFooter
    split
    · exact Or.inl rfl
    · exact Or.inr rfl
  generalize (file.checkFooter s).result = check at found
  generalize fileAfterFooter file (r, s) = t at found left
  cases asks : r.aside asked with
  | some reply =>
    rw [answered_aside asks]
    exact ⟨s, Or.inl rfl, respond_aside isOpen asks⟩
  | none =>
    refine ⟨t, left, ?_⟩
    cases answer : r.footerAnswer check with
    | error e =>
      rw [answer, afterFooter_of_error answer] at found
      rw [answered_failed asks answer]
      exact respond_failed isOpen asks found
    | ok d =>
      rw [answer, afterFooter_of_ok answer] at found
      rw [answered_told asks answer]
      exact respond_told isOpen asks found

end

end Reader
end RowReader
