import RowReader.Proofs.Reader.Groups
import RowReader.Proofs.RowFile.Opening

/-!
# Reading a row file

A framed local file whose footer can be read is read completely if all of its row groups are
readable under the names that the options ask for, and not at all otherwise.  What is read is then
the transpose of the decoded columns, group after group.
-/

namespace RowReader

open RowReader.Action

variable {ω : Type}

namespace Dataset

/-- The values at the first place of a name are its column. -/
theorem column_eq_ok {ds : Dataset} {name : String} {values : List Value}
    (member : name ∈ ds.fieldNames)
    (listed : ∀ place : Nat, ds.fieldNames[place]? = some name →
      ds.rows.map (fun row => row.values[place]?) = values.map some) :
    ds.column name = .ok values := by
  unfold column
  cases found : ds.fieldNames.findIdx? (fun other => other == name) with
  | none =>
    have absent := List.findIdx?_eq_none_iff.mp found name member
    simp at absent
  | some place =>
    rcases List.findIdx?_eq_some_iff_getElem.mp found with ⟨inside, named, -⟩
    have here : ds.fieldNames[place]? = some name := by
      rw [List.getElem?_eq_getElem inside, eq_of_beq named]
    have value : ∀ row : Row, ((row.valueAtPlace place).mapError DatasetError.row).toOption =
        row.values[place]? := by
      intro row
      unfold Row.valueAtPlace
      cases row.values[place]? <;> rfl
    dsimp only
    rw [← toOption_eq_some, toOption_mapM, mapM_eq_some_iff]
    simp only [value]
    exact listed place here

end Dataset

namespace RowFile

/-! ## Once the schema is found -/

section

variable {srv : Server ω} {pf : RowFile} {w : World ω} {content : Content} {d : DecodedFile}
  {stands : Nat → Handle × World ω → Prop} {size length : Nat} {schema : Schema}
  (leads : Leads srv pf.location w content stands) (sized : magicCheck content.bytes = .ok size)
  (checked : footerCheck content.bytes = .ok length) (decoded : content.decoding = .ok d)
  (fields : (pf.freshReader content).fieldsOf d = .ok schema)

include leads sized checked decoded fields

/-- Reading is a pass over an open reader that stands before the first group and knows its
schema. -/
theorem read_pass :
    ∃ (r : Reader) (both : Handle × World ω),
      (Handle.file srv).Intact (fun s => ∃ p, stands p s) ∧
      Reader.Ready d (fun s => ∃ p, stands p s) (r, both) ∧
      r.options = pf.options ∧ r.cursor = 0 ∧
      let batch := (Reader.source (Handle.file srv)).deliverGroups schema (r, both)
      (pf.read srv w).result = lastly (batch.dataset schema)
        (Reader.close (Handle.file srv) batch.state).result := by
  rcases openReader_yields leads with ⟨p, handle, w', there, opened⟩
  rw [sized] at opened
  have settled := leads.honest.settled (trailerSize_le_of_magicCheck sized)
  rw [checked] at settled
  have fresh : Reader.Ready d (fun s => ∃ p, stands p s) (pf.freshReader content, handle, w') :=
    ⟨rfl, decoded, p, there⟩
  have asked := Reader.readSchema_described fresh.isOpen rfl
    (Reader.footer_parsed (fresh.parses settled.intact)) fields
  have pass := Pass.materialize_read (Reader.source (Handle.file srv)) _ asked.result
  have left : ((Reader.source (Handle.file srv)).readSchema
      (pf.freshReader content, handle, w')).state = _ := asked.state
  rw [left] at pass
  refine ⟨{ pf.freshReader content with footerRead := true, schema := some schema },
    Reader.fileAfterFooter (Handle.file srv) (pf.freshReader content, handle, w'),
    settled.intact, ⟨fresh.isOpen, fresh.decoded, fresh.place_after settled.intact⟩,
    rfl, rfl, (read_opened opened (yields_self _ _)).result.trans pass.result⟩

variable (covers : pf.options.Covers schema.names)

include covers

/-- Where every group has its rows, reading returns them unless closing fails. -/
theorem read_delivered (delivers : ∀ g ∈ d.groups, g.Delivers pf.options schema.names) :
    ∃ rows, rows.map some = d.groups.flatMap (·.rowsUnder schema.names) ∧
      (pf.read srv w).result = lastly (.ok { rows, schema })
        (Reader.tolerated Reader.harmlessInDecoder (Reader.closingOf d)) := by
  rcases read_pass leads sized checked decoded fields
      with ⟨r, both, intact, ready, options, cursor, result⟩
  rw [← options] at delivers covers
  have ahead : d.groups.drop r.cursor = d.groups := by rw [cursor, List.drop_zero]
  rcases Reader.deliverGroups_all intact ready covers ahead delivers
      with ⟨rows, last, log, delivered, ready, known, whole⟩
  rcases Reader.close_open ready.isOpen (intact.close ready.place) with ⟨used, closed⟩
  refine ⟨rows, whole, ?_⟩
  rw [result, delivered, ← Reader.closeAnswer_of_read ready.decoded known]
  exact congrArg (lastly (.ok ({ rows, schema } : Dataset))) closed.result

/-- Where some group has not, reading fails. -/
theorem read_undelivered (undelivered : ¬ ∀ g ∈ d.groups, g.Delivers pf.options schema.names) :
    ∃ e, (pf.read srv w).result = .error e := by
  rcases read_pass leads sized checked decoded fields
      with ⟨r, both, intact, ready, options, cursor, result⟩
  rw [← options] at undelivered covers
  have ahead : d.groups.drop r.cursor = d.groups := by rw [cursor, List.drop_zero]
  rcases Reader.deliverGroups_some intact ready covers ahead undelivered
      with ⟨rows, e, last, log, delivered, -⟩
  rw [result, delivered]
  exact lastly_error e.outOfIteration _

end

/-! ## Framed local files -/

/-- The row file leads to a local file whose bytes are framed and whose footer can be read.  The
stored columns are described, closing the decoder does no harm, and the options ask for fields that
are there.  Nothing is assumed about which row groups decode. -/
structure Locates (pf : RowFile) (w : World ω) (d : DecodedFile) : Prop where
  isLocal : pf.location.url? = none
  stored : ∃ content body footer, w.files.read pf.location.name = .ok content ∧
    Framed content.bytes body footer ∧ content.decoding = .ok d
  described : d.Described
  sized : ∀ g ∈ d.groups, g.Sized
  closes : ∀ e, d.closeError = some e → ∃ f, e = .fault f ∧ Reader.harmlessInDecoder f = true
  asked : ∀ names, pf.options.columns = some names → ∀ name ∈ names, name ∈ d.fieldNames

section

variable {pf : RowFile} {w : World ω} {d : DecodedFile}

/-- A file that is located passes the checks before its groups are read. -/
theorem Locates.prepared (located : pf.Locates w d) :
    ∃ content size length schema, w.files.read pf.location.name = .ok content ∧
      magicCheck content.bytes = .ok size ∧ footerCheck content.bytes = .ok length ∧
      content.decoding = .ok d ∧ (pf.freshReader content).fieldsOf d = .ok schema ∧
      schema.names = pf.options.namesIn d := by
  rcases located.stored with ⟨content, body, footer, found, framed, decoded⟩
  rcases Reader.fieldsOf_spec (pf.freshReader content) located.described located.asked
      with ⟨schema, fields, same⟩
  exact ⟨content, _, _, schema, found, framed.magicCheck_eq, framed.footerCheck_eq, decoded, fields,
    same⟩

/-- Where every group is readable, reading returns their rows. -/
theorem read_of_readable (srv : Server ω) (located : pf.Locates w d)
    (readable : ∀ g ∈ d.groups, g.Readable pf.options (pf.options.namesIn d)) :
    ∃ ds : Dataset, (pf.read srv w).result = .ok ds ∧ ds.fieldNames = pf.options.namesIn d ∧
      ds.rows.map some = d.groups.flatMap (·.rowsUnder (pf.options.namesIn d)) := by
  rcases located.prepared
      with ⟨content, size, length, schema, found, sized, checked, decoded, fields, same⟩
  have covers := pf.options.covers_namesIn d
  rw [← same] at readable covers ⊢
  have delivers : ∀ g ∈ d.groups, g.Delivers pf.options schema.names :=
    fun g member => (located.sized g member).delivers_iff.mpr (readable g member)
  rcases read_delivered (leads_local srv located.isLocal found) sized checked decoded fields covers
      delivers with ⟨rows, whole, result⟩
  rw [Reader.tolerated_closingOf located.closes] at result
  exact ⟨{ rows, schema }, result, rfl, whole⟩

/-- Where some group is not readable, reading fails. -/
theorem read_of_unreadable (srv : Server ω) (located : pf.Locates w d)
    (unreadable : ¬ ∀ g ∈ d.groups, g.Readable pf.options (pf.options.namesIn d)) :
    ∃ e, (pf.read srv w).result = .error e := by
  rcases located.prepared
      with ⟨content, size, length, schema, found, sized, checked, decoded, fields, same⟩
  have covers := pf.options.covers_namesIn d
  rw [← same] at unreadable covers
  have undelivered : ¬ ∀ g ∈ d.groups, g.Delivers pf.options schema.names :=
    fun delivers => unreadable fun g member => (delivers g member).readable
  exact read_undelivered (leads_local srv located.isLocal found) sized checked decoded fields covers
    undelivered

/-- A file is read exactly if every group is readable, and the dataset is then the transpose of the
decoded columns: its rows are those of the groups in file order, each row has the schema's names in
order, and every column of the dataset is made of the groups' columns of that name, one after
another. -/
theorem read_exact (srv : Server ω) (located : pf.Locates w d) :
    let fields := pf.options.namesIn d
    let result := (pf.read srv w).result
    ((∃ ds, result = .ok ds) ↔ ∀ g ∈ d.groups, g.Readable pf.options fields) ∧
    ∀ ds, result = .ok ds →
      ds.schema.names = fields ∧
      ds.rows.map some = d.groups.flatMap (·.rowsUnder fields) ∧
      (∀ row ∈ ds.rows, row.fields = fields) ∧
      ∀ name ∈ fields, ds.column name = .ok (d.groups.flatMap (·.valuesUnder name)) := by
  intro fields result
  by_cases readable : ∀ g ∈ d.groups, g.Readable pf.options fields
  · rcases read_of_readable srv located readable with ⟨ds, ended, same, rows⟩
    refine ⟨⟨fun _ => readable, fun _ => ⟨ds, ended⟩⟩, ?_⟩
    intro other also
    cases ended.symm.trans also
    refine ⟨same, rows, StoredGroup.fields_of_rows rows, ?_⟩
    intro name member
    have known : name ∈ ds.fieldNames := by rwa [same]
    apply Dataset.column_eq_ok known
    intro place named
    rw [same] at named
    exact StoredGroup.values_of_rows rows readable located.sized named
  · rcases read_of_unreadable srv located readable with ⟨e, ended⟩
    have failed : ∀ ds, result ≠ .ok ds := by
      intro ds also
      cases ended.symm.trans also
    exact ⟨⟨fun ⟨ds, also⟩ => absurd also (failed ds), fun all => absurd all readable⟩,
      fun ds also => absurd also (failed ds)⟩

end

/-! ## Letters and numbers -/

/-- Two row groups; the second has its columns in the other order. -/
def lettersDecoded : DecodedFile where
  leaves := .ok [⟨"id", "INT64", "None", 0, 0⟩, ⟨"letter", "BYTE_ARRAY", "String", 0, 0⟩]
  fields := [⟨"id", "int64", false⟩, ⟨"letter", "string", false⟩]
  rows := 3
  groups := [
    { rows := 2
      bytes := 40
      table := .ok ⟨2, [⟨"id", .ok #[.int 1, .int 2]⟩, ⟨"letter", .ok #[.text "a", .text "b"]⟩]⟩ },
    { rows := 1
      bytes := 30
      table := .ok ⟨1, [⟨"letter", .ok #[.text "c"]⟩, ⟨"id", .ok #[.int 3]⟩]⟩ }]

def lettersWorld : World Unit where
  files :=
    { entries := [(["letters"], .file
        { bytes := magic ++ [] ++ [0] ++ littleEndianBytes 4 1 ++ magic
          decoding := .ok lettersDecoded })] }
  server := ()
  remote := .error .notAUrl

theorem sound_letters : ∀ names, some ["letter", "id"] = some names → names ≠ [] ∧ names.Nodup := by
  intro names same
  cases same
  decide

theorem unlimited_letters : ∀ limit, (none : Option Int) = some limit → 0 < limit := by
  intro limit same
  cases same

/-- The letters are asked for before the numbers. -/
def lettersFirst : RowFile where
  location := .path "letters"
  options :=
    { columns := some ["letter", "id"]
      columns_sound := sound_letters
      limit_pos := unlimited_letters }

theorem located_lettersFirst : lettersFirst.Locates lettersWorld lettersDecoded where
  isLocal := rfl
  stored := ⟨_, [], [0], by rfl, ⟨rfl, by decide, by decide⟩, rfl⟩
  described := ⟨_, rfl, by decide⟩
  sized := by simp [lettersDecoded, StoredGroup.Sized, Table.Sized]
  closes := fun e raised => absurd raised (by simp [lettersDecoded])
  asked := by
    intro names same
    cases same
    decide

theorem readable_lettersFirst : ∀ g ∈ lettersDecoded.groups,
    g.Readable lettersFirst.options (lettersFirst.options.namesIn lettersDecoded) := by
  intro g member
  have listed : g = lettersDecoded.groups[0] ∨ g = lettersDecoded.groups[1] := by
    simpa [lettersDecoded] using member
  have unlimited : ∀ limit, lettersFirst.options.maxRowGroupBytes = some limit → g.bytes ≤ limit := by
    intro limit same
    cases same
  rcases listed with rfl | rfl
  · exact ⟨⟨unlimited, _, rfl, rfl⟩, fun _ => by decide⟩
  · exact ⟨⟨unlimited, _, rfl, rfl⟩, fun _ => by decide⟩

/-- Every letter stays with its number, whatever the order they are stored and asked for in. -/
theorem read_exact_of_letters :
    lettersFirst.Locates lettersWorld lettersDecoded ∧
    ∃ ds, (lettersFirst.read Server.unreachable lettersWorld).result = .ok ds ∧
      ds.schema.names = ["letter", "id"] ∧
      ds.rows.map some = [
        some ⟨[("letter", .text "a"), ("id", .int 1)]⟩,
        some ⟨[("letter", .text "b"), ("id", .int 2)]⟩,
        some ⟨[("letter", .text "c"), ("id", .int 3)]⟩] ∧
      ds.column "id" = .ok [.int 1, .int 2, .int 3] := by
  have exact := read_exact Server.unreachable located_lettersFirst
  rcases exact.1.mpr readable_lettersFirst with ⟨ds, read⟩
  rcases exact.2 ds read with ⟨names, rows, -, columns⟩
  refine ⟨located_lettersFirst, ds, read, names, rows.trans rfl, ?_⟩
  exact (columns "id" (by decide)).trans rfl

end RowFile
end RowReader
