import RowReader.Proofs.Pass.Matching
import RowReader.Proofs.Reader.Settled

/-!
# Readers that differ in name

Two readers over files with the same bytes may call their files differently and keep them in
different ways.  They match as sources if an error counts as the same when it is of the same class:
names occur in the messages of errors and nowhere else.
-/

namespace RowReader

open RowReader.Action

namespace Error

def faultKind? : Error → Option FaultKind
  | fault f => some f.kind
  | _ => none

/-- Errors of one class, whatever they say: of the same kind of the reader's own, or faults of the
same kind. -/
def SameClass (e f : Error) : Prop :=
  e.kind? = f.kind? ∧ e.faultKind? = f.faultKind?

theorem SameClass.refl (e : Error) : SameClass e e :=
  ⟨rfl, rfl⟩

/-- One error or another for either name, as the same fault decides. -/
theorem SameClass.ite {e f : Error} (same : SameClass e f) (caught : Bool) (passed : Error) :
    SameClass (if caught then e else passed) (if caught then f else passed) := by
  cases caught with
  | false => exact .refl passed
  | true => exact same

theorem faultKind?_outOfIteration (e : Error) :
    e.outOfIteration.faultKind? =
      e.faultKind?.map fun kind => if kind = .endOfIteration then .runtime else kind := by
  cases e with
  | fault f =>
    rcases f with ⟨kind, message⟩
    cases kind <;> rfl
  | _ => rfl

theorem SameClass.outOfIteration {e f : Error} (same : SameClass e f) :
    SameClass e.outOfIteration f.outOfIteration := by
  refine ⟨?_, ?_⟩
  · rw [kind?_outOfIteration, kind?_outOfIteration, same.1]
  · rw [faultKind?_outOfIteration, faultKind?_outOfIteration, same.2]

end Error

open Error

namespace Reader

/-! ## Names in errors -/

theorem footerError_sameClass (name name' : String) (e : Error) :
    SameClass (footerError name e) (footerError name' e) := by
  cases e with
  | fault f =>
    have worded : SameClass (.footerUnparsed name f) (.footerUnparsed name' f) := ⟨rfl, rfl⟩
    exact worded.ite _ _
  | _ => exact ⟨rfl, rfl⟩

theorem schemaError_sameClass (name name' : String) (e : Error) :
    SameClass (schemaError name e) (schemaError name' e) := by
  cases e with
  | fault f =>
    have worded : SameClass (.schemaUnreadable name f) (.schemaUnreadable name' f) := ⟨rfl, rfl⟩
    exact worded.ite _ _
  | _ => exact ⟨rfl, rfl⟩

theorem groupError_sameClass (index : Nat) (name name' : String) (e : Error) :
    SameClass (groupError index name e) (groupError index name' e) := by
  cases e with
  | fault f =>
    have worded : SameClass (.undecodable index name f) (.undecodable index name' f) := ⟨rfl, rfl⟩
    exact worded.ite _ _
  | _ => exact ⟨rfl, rfl⟩

theorem corresponds_refl {α : Type} (r : Except Error α) : Corresponds SameClass Eq r r :=
  .refl r fun e _ => .refl e

/-- An error that is reworded under two names stays in one class. -/
theorem corresponds_mapError {α : Type} (r : Except Error α) {reword : String → Error → Error}
    (same : ∀ name name' e, SameClass (reword name e) (reword name' e)) (name name' : String) :
    Corresponds SameClass Eq (r.mapError (reword name)) (r.mapError (reword name')) := by
  cases r with
  | ok a => exact .ok rfl
  | error e => exact .error (same name name' e)

/-! ## Twins -/

/-- The same reader under another name.  What it has asked of the decoder may differ as well. -/
def Twin (r r' : Reader) : Prop :=
  ∃ name used, r' = { r with name, used }

theorem Twin.schema_eq {r r' : Reader} (twin : Twin r r') : r'.schema = r.schema := by
  rcases twin with ⟨name, used, rfl⟩
  rfl

theorem Twin.cursor_eq {r r' : Reader} (twin : Twin r r') : r'.cursor = r.cursor := by
  rcases twin with ⟨name, used, rfl⟩
  rfl

theorem Twin.closed_eq {r r' : Reader} (twin : Twin r r') : r'.closed = r.closed := by
  rcases twin with ⟨name, used, rfl⟩
  rfl

theorem Twin.keep {r r' : Reader} (twin : Twin r r') (schema : Option Schema) :
    Twin { r with schema } { r' with schema } := by
  rcases twin with ⟨name, used, rfl⟩
  exact ⟨name, used, rfl⟩

theorem Twin.move {r r' : Reader} (twin : Twin r r') (cursor : Nat) (used used' : DecoderUse) :
    Twin { r with cursor, used } { r' with cursor, used := used' } := by
  rcases twin with ⟨name, _, rfl⟩
  exact ⟨name, used', rfl⟩

theorem Twin.footerAnswer {r r' : Reader} (twin : Twin r r') (check : Except Error Nat) :
    Corresponds SameClass Eq (r.footerAnswer check) (r'.footerAnswer check) := by
  rcases twin with ⟨name, used, rfl⟩
  unfold Reader.footerAnswer
  cases r.footerRead with
  | true => exact corresponds_refl r.decoding
  | false =>
    apply (corresponds_mapError check footerError_sameClass r.name name).bind
    rintro length _ rfl
    exact corresponds_mapError r.decoding footerError_sameClass r.name name

theorem Twin.afterFooter {r r' : Reader} (twin : Twin r r') (check : Except Error Nat) :
    Twin (r.afterFooter check) (r'.afterFooter check) := by
  have answers := twin.footerAnswer check
  rcases twin with ⟨name, used, rfl⟩
  unfold Reader.afterFooter
  generalize r.footerAnswer check = answer at answers
  generalize Reader.footerAnswer check _ = answer' at answers
  cases answers with
  | ok _ => exact ⟨name, used, rfl⟩
  | error _ => exact ⟨name, used, rfl⟩

theorem Twin.fieldsOf {r r' : Reader} (twin : Twin r r') (d : DecodedFile) :
    Corresponds SameClass Eq (r.fieldsOf d) (r'.fieldsOf d) := by
  rcases twin with ⟨name, used, rfl⟩
  apply (corresponds_mapError d.allFields schemaError_sameClass r.name name).bind
  rintro fields _ rfl
  exact corresponds_refl _

theorem Twin.grouping {r r' : Reader} (twin : Twin r r') (index : Nat) (stored : StoredGroup) :
    Corresponds SameClass Eq (r.grouping index stored) (r'.grouping index stored) := by
  rcases twin with ⟨name, used, rfl⟩
  unfold Reader.grouping
  cases limitExceeded? r.options stored with
  | some limit => exact .error ⟨rfl, rfl⟩
  | none =>
    apply (corresponds_mapError stored.table (groupError_sameClass index) r.name name).bind
    rintro table _ rfl
    exact corresponds_refl _

theorem Twin.closeAnswer {r r' : Reader} (twin : Twin r r') : r.closeAnswer = r'.closeAnswer := by
  rcases twin with ⟨name, used, rfl⟩
  rfl

/-! ## Twins over settled files -/

variable {φ ψ : Type}

/-- Twin readers, both open, each over its own file. -/
structure Twins (stands : φ → Prop) (stands' : ψ → Prop) (both : Reader × φ) (both' : Reader × ψ) :
    Prop where
  twin : Twin both.1 both'.1
  isOpen : both.1.closed = false
  place : stands both.2
  place' : stands' both'.2

section

variable {stands : φ → Prop} {stands' : ψ → Prop} {file : ByteFile φ} {file' : ByteFile ψ}
  {check : Except Error Nat} {both : Reader × φ} {both' : Reader × ψ}

theorem Twins.isOpen' (twins : Twins stands stands' both both') : both'.1.closed = false :=
  twins.twin.closed_eq.trans twins.isOpen

/-- Both read their footers, or neither does. -/
theorem footer_twins (settled : file.Settled check stands) (settled' : file'.Settled check stands')
    (twins : Twins stands stands' both both') :
    ∃ q q' t t', Corresponds SameClass Eq q q' ∧
      Twins stands stands' (both.1.afterFooter check, t) (both'.1.afterFooter check, t') ∧
      Yields (footer file) both q (both.1.afterFooter check, t) ∧
      Yields (footer file') both' q' (both'.1.afterFooter check, t') := by
  rcases footer_settled settled twins.isOpen twins.place with ⟨t, there, found⟩
  rcases footer_settled settled' twins.isOpen' twins.place' with ⟨t', there', found'⟩
  refine ⟨_, _, t, t', twins.twin.footerAnswer check, ⟨twins.twin.afterFooter check, ?_, there, there'⟩,
    found, found'⟩
  rcases afterFooter_eq check both.1 with ⟨known, same⟩
  rw [same]
  exact twins.isOpen

/-- Calls that end alike and leave twins behind. -/
def EndAlike {α : Type} (stands : φ → Prop) (stands' : ψ → Prop) (o : Outcome (Reader × φ) α)
    (o' : Outcome (Reader × ψ) α) : Prop :=
  Corresponds SameClass Eq o.result o'.result ∧ Twins stands stands' o.state o'.state

theorem endAlike_of_yields {α : Type} {act : Action (Reader × φ) α} {act' : Action (Reader × ψ) α}
    {q q' : Except Error α} {one : Reader × φ} {other : Reader × ψ} (ends : Yields act both q one)
    (ends' : Yields act' both' q' other) (results : Corresponds SameClass Eq q q')
    (states : Twins stands stands' one other) :
    EndAlike stands stands' (act both) (act' both') := by
  rw [EndAlike, ends.result, ends.state, ends'.result, ends'.state]
  exact ⟨results, states⟩

theorem readSchema_twins (settled : file.Settled check stands)
    (settled' : file'.Settled check stands') (twins : Twins stands stands' both both') :
    EndAlike stands stands' (readSchema file both) (readSchema file' both') := by
  rcases footer_twins settled settled' twins with ⟨q, q', t, t', answers, after, found, found'⟩
  have isOpen := twins.isOpen
  have isOpen' := twins.isOpen'
  have describe := twins.twin.fieldsOf
  have same := twins.twin.schema_eq
  cases known : both.1.schema with
  | some schema =>
    exact endAlike_of_yields (readSchema_known isOpen known)
      (readSchema_known isOpen' (same.trans known)) (.ok rfl) twins
  | none =>
    cases answers with
    | error alike =>
      exact endAlike_of_yields (readSchema_unfound isOpen known found)
        (readSchema_unfound isOpen' (same.trans known) found') (.error alike) after
    | @ok d _ equal =>
      cases equal
      have fields := describe d
      generalize described : both.1.fieldsOf d = f at fields
      generalize described' : both'.1.fieldsOf d = f' at fields
      cases fields with
      | error alike =>
        exact endAlike_of_yields (readSchema_undescribed isOpen known found described)
          (readSchema_undescribed isOpen' (same.trans known) found' described') (.error alike) after
      | ok equal =>
        cases equal
        exact endAlike_of_yields (readSchema_described isOpen known found described)
          (readSchema_described isOpen' (same.trans known) found' described') (.ok rfl)
          ⟨after.twin.keep _, after.isOpen, after.place, after.place'⟩

theorem nextRowGroup_twins (settled : file.Settled check stands)
    (settled' : file'.Settled check stands') (twins : Twins stands stands' both both') :
    EndAlike stands stands' (nextRowGroup file both) (nextRowGroup file' both') := by
  rcases footer_twins settled settled' twins with ⟨q, q', t, t', answers, after, found, found'⟩
  cases answers with
  | error alike =>
    exact endAlike_of_yields (nextRowGroup_unfound found) (nextRowGroup_unfound found')
      (.error alike) after
  | @ok d _ equal =>
    cases equal
    have groups := after.twin.grouping (both.1.afterFooter check).cursor
    have cursor : (both'.1.afterFooter check).cursor = (both.1.afterFooter check).cursor :=
      after.twin.cursor_eq
    cases next : d.groups[(both.1.afterFooter check).cursor]? with
    | none =>
      exact endAlike_of_yields (nextRowGroup_none found next)
        (nextRowGroup_none found' (cursor ▸ next)) (.ok rfl) after
    | some stored =>
      rcases nextRowGroup_some found next with ⟨used, -, taken⟩
      rcases nextRowGroup_some found' (cursor ▸ next) with ⟨used', -, taken'⟩
      rw [cursor] at taken'
      exact endAlike_of_yields taken taken' ((groups stored).map fun _ _ => congrArg some)
        ⟨after.twin.move _ used used', after.isOpen, after.place, after.place'⟩

theorem assembleRow_twins (twins : Twins stands stands' both both') (g : RowGroup)
    (schema : Schema) (i : Int) :
    EndAlike stands stands' (assembleRow g schema i both) (assembleRow g schema i both') :=
  endAlike_of_yields (assembleRow_yields twins.isOpen g schema i)
    (assembleRow_yields twins.isOpen' g schema i) (corresponds_refl _) twins

/-- Twin readers close with the same result. -/
theorem close_twins (settled : file.Settled check stands) (settled' : file'.Settled check stands')
    (twins : Twins stands stands' both both') :
    Corresponds SameClass Eq (close file both).result (close file' both').result := by
  rcases close_open twins.isOpen (settled.close twins.place) with ⟨used, closed⟩
  rcases close_open twins.isOpen' (settled'.close twins.place') with ⟨used', closed'⟩
  rw [closed.result, closed'.result, twins.twin.closeAnswer]
  exact corresponds_refl _

/-- Twin readers match as sources. -/
theorem source_matches (settled : file.Settled check stands)
    (settled' : file'.Settled check stands') :
    (source file).Matches (source file') (Twins stands stands') (fun _ => True) SameClass where
  index := rfl
  numRows := rfl
  readSchema := readSchema_twins settled settled'
  nextRowGroup := by
    intro both both' twins
    rcases nextRowGroup_twins settled settled' twins with ⟨results, after⟩
    exact ⟨results.mono (fun _ _ => id) fun _ _ same => ⟨same, fun _ _ => trivial⟩, after⟩
  assembleRow := by
    intro both both' g i left schema twins _
    rcases assembleRow_twins twins g schema (Int.ofNat i) with ⟨results, after⟩
    exact ⟨results.mono (fun _ _ => id) fun _ _ same => ⟨same, trivial⟩, after⟩
  rowWidth := fun _ _ _ _ => .refl _
  outOfIteration := fun _ _ => SameClass.outOfIteration
  close := close_twins settled settled'

end

end Reader
end RowReader
