import RowReader.Proofs.Faults
import RowReader.Proofs.Pass.Matching
import RowReader.Proofs.Reader.Alongside
import RowReader.Proofs.Reader.Groups
import RowReader.Proofs.Reader.Settled

/-!
# How readers fail

A reader that is open over a tame content fails in one of two ways.  Either it does not find what
the file holds, and the error is about the schema, or it does, and then an error is about decoding
row groups.  No fault of a collaborator comes through, and the reader can be closed at any time.
-/

namespace RowReader

open RowReader.Action

variable {φ α β : Type}

/-- An error about the decoding of row groups. -/
def Error.OfDecoding (e : Error) : Prop :=
  e.kind? = some .decoding ∨ e.kind? = some .rowGroupTooLarge

/-- How a call may end.  It opens its file or fails to, then finds what it looks for or fails to, and
only after that a call that decodes row groups may fail to decode them. -/
inductive Fate (opens found decodes : Prop) : Except Error α → Prop where
  | unopened {e : Error} (refused : ¬ opens) (kind : e.kind? = some .opening) :
      Fate opens found decodes (.error e)
  | unfound {e : Error} (opened : opens) (missing : ¬ found) (kind : e.kind? = some .schema) :
      Fate opens found decodes (.error e)
  | undecoded {e : Error} (opened : opens) (here : found) (reads : decodes) (kind : e.OfDecoding) :
      Fate opens found decodes (.error e)
  | done {a : α} (opened : opens) (here : found) : Fate opens found decodes (.ok a)

/-- In an open file a call finds what it looks for, or fails with an error about the schema. -/
inductive Finds (there : Prop) : Except Error α → Prop where
  | found {a : α} (here : there) : Finds there (.ok a)
  | missing {e : Error} (absent : ¬ there) (kind : e.kind? = some .schema) :
      Finds there (.error e)

section

variable {opens found there : Prop} {r : Except Error α}

/-- Every stage has an error of the reader's own. -/
theorem Fate.isSome_kind? {e : Error}
    (fate : Fate opens found there (.error e : Except Error α)) : e.kind?.isSome := by
  cases fate with
  | unopened _ kind => rw [kind, Option.isSome_some]
  | unfound _ _ kind => rw [kind, Option.isSome_some]
  | undecoded _ _ _ kind => rcases kind with kind | kind <;> rw [kind, Option.isSome_some]

/-- What is found in an open file decides how a call on the file ends. -/
theorem Finds.opened (finds : Finds found r) (opened : opens) : Fate opens found False r := by
  cases finds with
  | found here => exact .done opened here
  | missing absent kind => exact .unfound opened absent kind

theorem Finds.of_found {a : α} (finds : Finds there r) (value : r = .ok a) : there := by
  subst value
  cases finds with
  | found here => exact here

theorem Finds.error_of_absent (finds : Finds there r) (absent : ¬ there) :
    ∃ e, r = .error e ∧ e.kind? = some .schema := by
  cases finds with
  | found here => exact absurd here absent
  | missing _ kind => exact ⟨_, rfl, kind⟩

theorem Finds.map (f : α → β) (finds : Finds there r) : Finds there (r.map f) := by
  cases finds with
  | found here => exact .found here
  | missing absent kind => exact .missing absent kind

end

/-! ## Groups -/

namespace RowGroup

/-- A group over a tame table, whose kept columns are those it would convert again. -/
structure Tame (g : RowGroup) : Prop where
  faithful : g.Faithful
  columns : g.table.Tame
  sized : g.table.Sized

theorem convert_error {g : RowGroup} (tame : g.table.Tame) {names : List String} {e : Error}
    (failed : g.convert names = .error e) : e.kind? = some .decoding := by
  unfold convert at failed
  dsimp only at failed
  split at failed
  · split at failed
    · cases failed
    · next other stopped =>
      cases failed
      rcases exists_error_of_mapM stopped with ⟨name, -, unread⟩
      unfold soleColumn at unread
      split at unread
      · next column sole =>
        have chosen : column ∈ g.table.named name := by
          rw [sole]
          exact List.mem_singleton_self column
        rcases tame column (List.mem_of_mem_filter chosen) other unread with ⟨f, rfl, own⟩
        simp [conversionError, conversionFault, own, Error.kind?]
      · cases unread
        rfl
  · cases failed
    rfl

/-- Columns that were converted have a value for each row of the group. -/
theorem exists_pick {g : RowGroup} (sized : g.table.Sized) {names : List String} {c : Converted}
    (converted : g.convert names = .ok c) {i : Int} (inside : 0 ≤ i ∧ i < g.numRows) :
    ∃ values, pick c.columns i.toNat = .ok values := by
  have collected := mapM_eq_some_iff.mp (convert_eq_ok_iff.mp converted).2
  cases picked : pick c.columns i.toNat with
  | ok values => exact ⟨values, rfl⟩
  | error e =>
    rcases exists_error_of_mapM picked with ⟨column, member, short⟩
    have listed : some column ∈ names.map g.table.column? := by
      rw [collected]
      exact List.mem_map_of_mem member
    rcases List.mem_map.mp listed with ⟨name, -, found⟩
    have size : Int.ofNat column.size = g.numRows := sized.size_eq found
    have within : i.toNat < column.size := by
      simp only [Int.ofNat_eq_natCast] at size
      omega
    rw [Array.getElem?_eq_getElem within] at short
    cases short

/-- Assembling a row inside of a tame group leaves it tame, with as many rows, and fails with errors of
decoding alone. -/
theorem Tame.assemble {g : RowGroup} (tame : g.Tame) (schema : Schema) {i : Int}
    (inside : 0 ≤ i ∧ i < g.numRows) :
    (∀ e, (g.assemble schema i).result = .error e → e.kind? = some .decoding) ∧
      (g.assemble schema i).state.Tame ∧ (g.assemble schema i).state.numRows = g.numRows := by
  rcases assemble_faithful tame.faithful schema i with ⟨-, -, same, faithful⟩
  refine ⟨?_, ⟨faithful, same ▸ tame.columns, same ▸ tame.sized⟩, congrArg Table.rows same⟩
  intro e failed
  unfold RowGroup.assemble at failed
  rw [if_pos inside, columnsFor_eq tame.faithful] at failed
  cases converted : g.convert schema.names with
  | error other =>
    rw [converted] at failed
    cases failed
    exact convert_error tame.columns converted
  | ok c =>
    rcases exists_pick tame.sized converted inside with ⟨values, picked⟩
    rw [converted] at failed
    simp only [picked] at failed
    cases failed

end RowGroup

/-! ## What a file holds -/

namespace Content

/-- The decoder is constructed from the footer, after the footer's length was found to be sound. -/
def Parses (content : Content) (d : DecodedFile) : Prop :=
  (∃ length, footerCheck content.bytes = .ok length) ∧ content.decoding = .ok d

/-- The fields that options ask for are among those that the footer describes. -/
def Describes (content : Content) (options : Options) (schema : Schema) : Prop :=
  ∃ d fields, content.Parses d ∧ d.allFields = .ok fields ∧
    fields.project options.columns = .ok schema

theorem describes_iff {content : Content} {d : DecodedFile} (parses : content.Parses d)
    {options : Options} :
    (∃ fields schema, d.allFields = .ok fields ∧ fields.project options.columns = .ok schema) ↔
      ∃ schema, content.Describes options schema := by
  constructor
  · rintro ⟨fields, schema, described, chosen⟩
    exact ⟨schema, d, fields, parses, described, chosen⟩
  · rintro ⟨schema, other, fields, ⟨-, decoded⟩, described, chosen⟩
    cases parses.2.symm.trans decoded
    exact ⟨fields, schema, described, chosen⟩

end Content

theorem footerCheck_error {bytes : List UInt8} {e : Error} (failed : footerCheck bytes = .error e) :
    e.kind? = some .schema ∧ ∀ name, Reader.footerError name e = e := by
  unfold footerCheck ByteFile.footerLengthIn at failed
  split at failed
  · dsimp only at failed
    split at failed
    · cases failed
      exact ⟨rfl, fun _ => rfl⟩
    · cases failed
  · cases failed
    exact ⟨rfl, fun _ => rfl⟩

namespace Reader

/-! ## Rewording -/

theorem kind?_footerError {e : Error} (parsing : e.FaultOf Fault.ofParsing) (name : String) :
    (footerError name e).kind? = some .schema := by
  rcases parsing with ⟨f, rfl, sort⟩
  exact congrArg Error.kind? (if_pos sort)

theorem kind?_schemaError {e : Error} (describing : e.FaultOf Fault.ofDescribing) (name : String) :
    (schemaError name e).kind? = some .schema := by
  rcases describing with ⟨f, rfl, sort⟩
  exact congrArg Error.kind? (if_pos sort)

theorem kind?_groupError {e : Error} (parsing : e.FaultOf Fault.ofParsing) (index : Nat)
    (name : String) : (groupError index name e).kind? = some .decoding := by
  rcases parsing with ⟨f, rfl, sort⟩
  exact congrArg Error.kind? (if_pos sort)

theorem project_error {schema : Schema} {columns : Option (List String)} {e : Error}
    (failed : schema.project columns = .error e) : e.kind? = some .schema := by
  unfold Schema.project Schema.choose at failed
  split at failed
  · cases failed
  · dsimp only at failed
    split at failed
    · cases failed
    · cases failed
      rfl

theorem grouping_error {d : DecodedFile} (tame : d.Tame) {r : Reader} {index : Nat}
    {stored : StoredGroup} (member : stored ∈ d.groups) {e : Error}
    (failed : r.grouping index stored = .error e) : e.OfDecoding := by
  unfold grouping at failed
  split at failed
  · cases failed
    exact Or.inr rfl
  · left
    cases read : stored.table with
    | error other =>
      rw [decodeGroup_of_error r index read] at failed
      cases failed
      exact kind?_groupError (tame.tables stored member other read) index r.name
    | ok t =>
      rw [decodeGroup_of_table r index read] at failed
      split at failed
      · cases failed
      · cases failed
        rfl

theorem grouping_tame {d : DecodedFile} (tame : d.Tame) {r : Reader} {index : Nat}
    {stored : StoredGroup} (member : stored ∈ d.groups) {g : RowGroup}
    (taken : r.grouping index stored = .ok g) : g.Tame := by
  rcases grouping_eq_ok_iff.mp taken with ⟨-, t, read, -, rfl⟩
  exact ⟨RowGroup.faithful_of_fresh rfl, (tame.columns stored member t read).project _ _,
    Selection.sized_project (tame.sized stored member t read)⟩

/-! ## Finding the footer and the schema -/

variable {file : ByteFile φ} {stands : φ → Prop} {content : Content} {d : DecodedFile}
  {r : Reader} {s : φ} {both : Reader × φ}

/-- The reader is open over this content, and its file is open as well. -/
structure Over (content : Content) (stands : φ → Prop) (both : Reader × φ) : Prop where
  isOpen : both.1.closed = false
  decoding : both.1.decoding = content.decoding
  place : stands both.2

/-- A reader that has not read the footer finds it if it parses. -/
theorem footerAnswer_finds (tame : content.Tame) (decoding : r.decoding = content.decoding)
    (unread : r.footerRead = false) :
    Finds (∃ d, content.Parses d) (r.footerAnswer (footerCheck content.bytes)) ∧
      ∀ d, r.footerAnswer (footerCheck content.bytes) = .ok d → content.decoding = .ok d := by
  unfold footerAnswer
  rw [if_neg (by rw [unread]; decide), decoding]
  cases checked : footerCheck content.bytes with
  | error e =>
    rcases footerCheck_error checked with ⟨kind, same⟩
    have absent : ¬ ∃ d, content.Parses d := by
      rintro ⟨d, ⟨length, passed⟩, -⟩
      rw [checked] at passed
      cases passed
    change Finds _ (.error (footerError r.name e)) ∧ ∀ d, Except.error _ = .ok d → _
    exact ⟨.missing absent (by rw [same, kind]), fun _ found => by cases found⟩
  | ok length =>
    cases decoded : content.decoding with
    | error e =>
      have absent : ¬ ∃ d, content.Parses d := by
        rintro ⟨d, -, parsed⟩
        rw [decoded] at parsed
        cases parsed
      have kind := kind?_footerError (tame.parsing e decoded) r.name
      change Finds _ (.error (footerError r.name e)) ∧ ∀ d, Except.error _ = .ok d → _
      exact ⟨.missing absent kind, fun _ found => by cases found⟩
    | ok d => exact ⟨.found ⟨d, ⟨length, checked⟩, decoded⟩, fun _ same => same⟩

/-- The fields are found if the columns are described and those that are asked for are there. -/
theorem fieldsOf_finds (tame : d.Tame) (r : Reader) :
    Finds (∃ fields schema, d.allFields = .ok fields ∧
      fields.project r.options.columns = .ok schema) (r.fieldsOf d) := by
  unfold fieldsOf
  cases described : d.allFields with
  | error e =>
    exact .missing nofun (kind?_schemaError (tame.allFields_error described) r.name)
  | ok fields =>
    change Finds _ (fields.project r.options.columns)
    cases chosen : fields.project r.options.columns with
    | error e =>
      refine .missing ?_ (project_error chosen)
      rintro ⟨_, schema, same, projected⟩
      cases same
      rw [chosen] at projected
      cases projected
    | ok schema => exact .found ⟨fields, schema, rfl, chosen⟩

/-- A reader that knows nothing yet finds its schema if the content describes it. -/
theorem schemaAnswer_finds (tame : content.Tame) (decoding : r.decoding = content.decoding)
    (unread : r.footerRead = false) :
    Finds (∃ schema, content.Describes r.options schema)
      (r.schemaAnswer (footerCheck content.bytes)) := by
  rcases footerAnswer_finds tame decoding unread with ⟨finds, decoded⟩
  unfold schemaAnswer
  cases answer : r.footerAnswer (footerCheck content.bytes) with
  | error e =>
    rw [answer] at finds
    cases finds with
    | missing absent kind =>
      refine .missing ?_ kind
      rintro ⟨schema, d, fields, parses, -⟩
      exact absent ⟨d, parses⟩
  | ok d =>
    rcases finds.of_found answer with ⟨_, checked, -⟩
    have given := decoded d answer
    have fields := fieldsOf_finds (tame.decoded d given) r
    rwa [Content.describes_iff ⟨checked, given⟩] at fields

section

variable (settled : file.Settled (footerCheck content.bytes) stands) (tame : content.Tame)
  (held : Over content stands (r, s)) (unread : r.footerRead = false)

include settled held

include tame unread

theorem readSchema_finds (unknown : r.schema = none) :
    ∃ q both, Yields (readSchema file) (r, s) q both ∧ Over content stands both ∧
      Finds (∃ schema, content.Describes r.options schema) q := by
  rcases readSchema_settled settled held.isOpen unknown held.place with ⟨schema, t, there, asked⟩
  rcases afterFooter_eq (footerCheck content.bytes) r with ⟨known, after⟩
  refine ⟨_, _, asked, ?_, schemaAnswer_finds tame held.decoding unread⟩
  rw [after]
  exact ⟨held.isOpen, held.decoding, there⟩

end

/-! ## Closing -/

theorem closable_of_tame (tame : content.Tame) : Closable content.decoding :=
  fun d decoded => (tame.decoded d decoded).closes

theorem closeAnswer_of_tame (tame : content.Tame) (decoding : r.decoding = content.decoding) :
    r.closeAnswer = .ok () := by
  apply closeAnswer_of_closable
  rw [decoding]
  exact closable_of_tame tame

/-- A reader over a tame content can be closed at any time, and its file is closed with it. -/
theorem Over.close (tame : content.Tame) (held : Over content stands both)
    (closes : (file.close both.2).result = .ok ()) :
    ∃ used, Yields (close file) both (.ok ())
      ({ both.1 with closed := true, used }, (file.close both.2).state) := by
  have closed := close_open held.isOpen closes
  simp only [fileAfterClose, closeAnswer_of_tame tame held.decoding] at closed
  exact closed

/-! ## A pass over a reader -/

/-- The reader is open over this decoded file, and the schema is there to be found. -/
structure Describes (d : DecodedFile) (schema : Schema) (stands : φ → Prop) (both : Reader × φ) :
    Prop extends Ready d stands both where
  fields : both.1.fieldsOf d = .ok schema

theorem Describes.over_content {schema : Schema} (described : Describes d schema stands both)
    (decoded : content.decoding = .ok d) : Over content stands both :=
  ⟨described.isOpen, described.decoded.trans decoded.symm, described.place⟩

section

variable {schema : Schema} (intact : file.Intact stands) (tame : d.Tame)

include intact

theorem Describes.readSchema (described : Describes d schema stands (r, s)) :
    ∃ schema' both, Yields (readSchema file) (r, s) (.ok schema') both ∧
      Describes d schema stands both := by
  have ready := described.toReady
  cases known : r.schema with
  | some schema' => exact ⟨schema', _, readSchema_known ready.isOpen known, described⟩
  | none =>
    refine ⟨schema, _, readSchema_described ready.isOpen known
      (footer_parsed (ready.parses intact)) described.fields, ?_⟩
    exact ⟨⟨ready.isOpen, ready.decoded, ready.place_after intact⟩, described.fields⟩

include tame

theorem Describes.nextRowGroup (described : Describes d schema stands (r, s)) :
    ∃ q both, Yields (nextRowGroup file) (r, s) q both ∧ Describes d schema stands both ∧
      Corresponds (fun e _ => e.OfDecoding) (Agree fun g? => ∀ g ∈ g?, g.Tame) q q := by
  have ready := described.toReady
  have place := ready.place_after intact
  cases next : d.groups[r.cursor]? with
  | none =>
    exact ⟨_, _, nextRowGroup_past (ready.parses intact) next,
      ⟨⟨ready.isOpen, ready.decoded, place⟩, described.fields⟩, .ok ⟨rfl, nofun⟩⟩
  | some stored =>
    have member := List.mem_of_getElem? next
    rcases nextRowGroup_inside (ready.parses intact) next with ⟨used, -, taken⟩
    refine ⟨_, _, taken, ⟨⟨ready.isOpen, ready.decoded, place⟩, described.fields⟩, ?_⟩
    cases grouped : r.grouping r.cursor stored with
    | error e => exact .error (grouping_error tame member grouped)
    | ok g =>
      refine .ok ⟨rfl, ?_⟩
      intro g' same
      cases same
      exact grouping_tame tame member grouped

/-- A place in a tame group, with no more rows left than it has behind the place. -/
structure Inside (place : Place RowGroup) : Prop where
  tame : place.group.Tame
  within : place.next + place.left ≤ place.group.numRows.toNat

/-- All through a pass, a reader whose schema is there to be found fails with errors of decoding
alone. -/
theorem source_tame :
    (source file).Matches (source file) (Agree (Describes d schema stands)) Inside
      (fun e _ => e.OfDecoding) where
  index := rfl
  numRows := rfl
  readSchema := by
    rintro both _ ⟨rfl, described⟩
    rcases described.readSchema intact with ⟨schema', after, read, still⟩
    simp only [source, read.result, read.state]
    exact ⟨.ok rfl, rfl, still⟩
  nextRowGroup := by
    rintro both _ ⟨rfl, described⟩
    rcases described.nextRowGroup intact tame with ⟨q, after, taken, still, alike⟩
    simp only [source, taken.result, taken.state]
    refine ⟨alike.mono (fun _ _ => id) fun _ _ agree => ?_, rfl, still⟩
    exact ⟨agree.1, fun g found => ⟨agree.2 g found, Nat.le_of_eq (Nat.zero_add _)⟩⟩
  assembleRow := by
    rintro both _ g i left schema' ⟨rfl, described⟩ ⟨known, within⟩
    have assembled := assembleRow_yields (s := both.2) described.isOpen g schema' (Int.ofNat i)
    have inside : 0 ≤ Int.ofNat i ∧ Int.ofNat i < g.numRows := by
      simp only [Int.ofNat_eq_natCast] at within ⊢
      omega
    rcases known.assemble schema' inside with ⟨errors, kept, same⟩
    change Yields _ both _ both at assembled
    simp only [source, assembled.result, assembled.state]
    refine ⟨?_, rfl, described⟩
    cases answer : (g.assemble schema' (Int.ofNat i)).result with
    | error e => exact .error (Or.inl (errors e answer))
    | ok row =>
      refine .ok ⟨rfl, kept, ?_⟩
      rw [same]
      dsimp only at within ⊢
      omega
  rowWidth := fun _ _ _ _ => Or.inl rfl
  outOfIteration := by
    intro e f kind
    rwa [Error.OfDecoding, Error.kind?_outOfIteration]
  close := by
    rintro both _ ⟨rfl, described⟩
    rcases close_yields intact described.toReady tame.closes with ⟨used, closed⟩
    have result : (close file both).result = .ok () := closed.result
    simp only [source, result]
    exact .ok rfl

end

end Reader
end RowReader
