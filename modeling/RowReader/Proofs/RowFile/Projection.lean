import Mathlib.Data.List.Nodup
import RowReader.Proofs.Pass.Materialize
import RowReader.Proofs.Row.Dictionary
import RowReader.Proofs.RowFile.Read

/-!
# Choosing fields

Reading with a choice of fields is reading all of them and then picking, in the order of the choice.
To compare the two readings, what it takes to read a content completely is said once, for any
options: `Content.Reads`.  A name that is no field is noticed when the schema is read, so that no
row group is asked for.
-/

namespace RowReader

open RowReader.Action

variable {ω : Type}

namespace Table

/-- The value of a row under one of its names is that of the column of the name. -/
theorem valueOf?_of_row? {t : Table} {names : List String} {i : Nat} {row : Row}
    (found : t.row? names i = some row) {name : String} (member : name ∈ names) :
    row.valueOf? name = (t.column? name).bind fun values => values[i]? := by
  rcases Option.map_eq_some_iff.mp found with ⟨values, collected, rfl⟩
  exact Row.valueOf?_zip (mapM_eq_some_iff.mp collected) member

/-- A row that is there under some names is there under any choice of them. -/
theorem isSome_row?_of_subset {t : Table} {names chosen : List String} {i : Nat}
    (present : (t.row? names i).isSome) (subset : ∀ name ∈ chosen, name ∈ names) :
    (t.row? chosen i).isSome := by
  rw [row?, Option.isSome_map, isSome_mapM_iff] at present ⊢
  exact fun name member => present name (subset name member)

end Table

namespace StoredGroup

theorem Delivers.of_subset {options chosenOptions : Options} {names chosen : List String}
    {g : StoredGroup} (delivers : g.Delivers options names)
    (limit : chosenOptions.maxRowGroupBytes = options.maxRowGroupBytes)
    (subset : ∀ name ∈ chosen, name ∈ names) : g.Delivers chosenOptions chosen := by
  refine ⟨⟨limit ▸ delivers.within, delivers.counted⟩, fun i inside => ?_⟩
  have present := delivers.rows i inside
  unfold row? at present ⊢
  cases decoded : g.table.toOption with
  | none =>
    rw [decoded] at present
    cases present
  | some t =>
    rw [decoded] at present
    exact Table.isSome_row?_of_subset present subset

/-- The same row under two lists of names has the same value under a name of both. -/
theorem value_eq_valueOf? {g : StoredGroup} {names chosen : List String} {i place : Nat}
    {whole row : Row} (full : g.row? names i = some whole) (part : g.row? chosen i = some row)
    {name : String} (named : chosen[place]? = some name) (member : name ∈ names) :
    row.values[place]? = whole.valueOf? name := by
  rcases Option.bind_eq_some_iff.mp full with ⟨t, decoded, inside⟩
  rw [row?, decoded, Option.bind_some] at part
  have value := Table.value_of_row? (by rw [part]; rfl) named
  rw [part, Option.bind_some] at value
  rw [value, Table.valueOf?_of_row? inside member]

/-- Every row of the groups, as its group and its position there. -/
def places (groups : List StoredGroup) : List (StoredGroup × Nat) :=
  groups.flatMap fun g => (List.range g.rows.toNat).map fun i => (g, i)

/-- The rows of the groups are read off their places, under whatever names. -/
theorem flatMap_rowsUnder (groups : List StoredGroup) (names : List String) :
    groups.flatMap (·.rowsUnder names) = (places groups).map fun p => p.1.row? names p.2 := by
  rw [places, List.map_flatMap]
  apply List.flatMap_congr
  intro g _
  rw [List.map_map]
  rfl

end StoredGroup

/-! ## Chosen fields of a schema -/

namespace Schema

/-- Among distinct names the last field of a name is the first. -/
theorem lastNamed?_eq_find? {schema : Schema} (distinct : schema.names.Nodup) {name : String}
    (present : name ∈ schema.names) :
    schema.lastNamed? name = schema.find? fun f => f.name == name := by
  rcases lastNamed?_spec present with ⟨last, found, same⟩
  have listed : last ∈ schema := List.mem_reverse.mp (List.mem_of_find?_eq_some found)
  have there : (schema.find? fun f => f.name == name).isSome :=
    List.find?_isSome.mpr ⟨last, listed, beq_iff_eq.mpr same⟩
  rcases Option.isSome_iff_exists.mp there with ⟨first, here⟩
  have matched := List.find?_some here
  have alike : first.name = last.name := (eq_of_beq matched).trans same.symm
  rw [found, here, List.inj_on_of_nodup_map distinct (List.mem_of_find?_eq_some here) listed alike]

/-- A choice of names that are all there picks the fields of these names. -/
theorem choose_present {schema : Schema} {names : List String}
    (present : ∀ name ∈ names, name ∈ schema.names) :
    schema.choose names = .ok (names.filterMap schema.lastNamed?) := by
  have missing : names.filter (fun name => !schema.names.contains name) = [] := by
    apply List.filter_eq_nil_iff.mpr
    intro name member
    simpa using present name member
  simp only [choose, missing, List.isEmpty_nil, if_true]

theorem map_chosen {schema : Schema} (distinct : schema.names.Nodup) {names : List String}
    (present : ∀ name ∈ names, name ∈ schema.names) :
    (names.filterMap schema.lastNamed?).map some =
      names.map fun name => schema.find? fun f => f.name == name := by
  induction names with
  | nil => rfl
  | cons name rest ih =>
    rcases List.forall_mem_cons.mp present with ⟨here, there⟩
    rcases lastNamed?_spec here with ⟨f, found, -⟩
    rw [List.filterMap_cons_some found, List.map_cons, List.map_cons, ih there,
      ← lastNamed?_eq_find? distinct here, found]

/-- A choice with names that are not there fails, and the error lists them in their order. -/
theorem choose_absent {schema : Schema} {names : List String} {name : String}
    (member : name ∈ names) (absent : name ∉ schema.names) :
    schema.choose names = .error
      (.columnsNotFound (names.filter fun name => !schema.names.contains name)
        schema.names.eraseDups) := by
  have missing : name ∈ names.filter fun name => !schema.names.contains name :=
    List.mem_filter.mpr ⟨member, by simpa using absent⟩
  have some : (names.filter fun name => !schema.names.contains name).isEmpty = false :=
    List.isEmpty_eq_false_iff_exists_mem.mpr ⟨name, missing⟩
  simp only [choose, some, Bool.false_eq_true, if_false]

/-- The fields that are chosen have the names that are asked for. -/
theorem covers_of_project {options : Options} {fields schema : Schema}
    (chosen : fields.project options.columns = .ok schema) : options.Covers schema.names := by
  intro names asked
  rw [asked] at chosen
  by_cases present : ∀ name ∈ names, name ∈ fields.names
  · rw [project, choose_present present] at chosen
    cases chosen
    rw [names_filterMap_lastNamed? present]
    exact fun name member => member
  · exfalso
    simp only [not_forall] at present
    rcases present with ⟨name, member, absent⟩
    rw [project, choose_absent member absent] at chosen
    cases chosen

end Schema

/-! ## Complete readings -/

/-- Everything that it takes to read a content completely. -/
structure Content.Reads (content : Content) (options : Options) (d : DecodedFile)
    (fields schema : Schema) : Prop where
  sized : ∃ size, magicCheck content.bytes = .ok size
  checked : ∃ length, footerCheck content.bytes = .ok length
  decoded : content.decoding = .ok d
  described : d.allFields = .ok fields
  chosen : fields.project options.columns = .ok schema
  delivers : ∀ g ∈ d.groups, g.Delivers options schema.names
  closes : Reader.tolerated Reader.harmlessInDecoder (Reader.closingOf d) = .ok ()

namespace Reader

variable {content : Content} {r : Reader}

/-- The footer of a reader that knows nothing yet. -/
theorem footerAnswer_eq_ok_iff (decoding : r.decoding = content.decoding)
    (unread : r.footerRead = false) {d : DecodedFile} :
    r.footerAnswer (footerCheck content.bytes) = .ok d ↔
      (∃ length, footerCheck content.bytes = .ok length) ∧ content.decoding = .ok d := by
  unfold footerAnswer
  rw [if_neg (by rw [unread]; decide), decoding]
  cases checked : footerCheck content.bytes with
  | error e =>
    constructor
    · intro answered
      cases answered
    · rintro ⟨⟨length, passed⟩, -⟩
      cases passed
  | ok length =>
    cases decoded : content.decoding with
    | error e =>
      constructor
      · intro answered
        cases answered
      · rintro ⟨-, known⟩
        cases known
    | ok other =>
      constructor
      · intro answered
        exact ⟨⟨length, rfl⟩, answered⟩
      · rintro ⟨-, known⟩
        exact known

theorem fieldsOf_described {d : DecodedFile} {fields : Schema} (described : d.allFields = .ok fields) :
    r.fieldsOf d = fields.project r.options.columns := by
  rw [fieldsOf, described]
  rfl

theorem fieldsOf_eq_ok_iff {d : DecodedFile} {schema : Schema} :
    r.fieldsOf d = .ok schema ↔
      ∃ fields, d.allFields = .ok fields ∧ fields.project r.options.columns = .ok schema := by
  cases described : d.allFields with
  | error e =>
    rw [fieldsOf, described]
    constructor
    · intro found
      cases found
    · rintro ⟨fields, other, -⟩
      cases other
  | ok fields =>
    rw [fieldsOf_described described]
    constructor
    · exact fun chosen => ⟨fields, rfl, chosen⟩
    · rintro ⟨_, same, chosen⟩
      cases same
      exact chosen

/-- A reader that knows nothing yet finds its schema through the footer. -/
theorem schemaAnswer_eq_ok {schema : Schema}
    (answered : r.schemaAnswer (footerCheck content.bytes) = .ok schema)
    (decoding : r.decoding = content.decoding) (unread : r.footerRead = false) :
    ∃ d, (∃ length, footerCheck content.bytes = .ok length) ∧ content.decoding = .ok d ∧
      r.fieldsOf d = .ok schema := by
  rcases found_of_schemaAnswer answered with ⟨d, found, described⟩
  rcases (footerAnswer_eq_ok_iff decoding unread).mp found with ⟨checked, decoded⟩
  exact ⟨d, checked, decoded, described⟩

end Reader

namespace RowFile

section

variable {srv : Server ω} {pf : RowFile} {w : World ω} {content : Content}
  {stands : Nat → Handle × World ω → Prop}

/-- A content that can be opened is handed to a new reader, whose schema is that of the content. -/
theorem readSchema_opened (leads : Leads srv pf.location w content stands) {size : Nat}
    (sized : magicCheck content.bytes = .ok size) :
    ∃ handle w' schema s, Yields (pf.openReader srv) w (.ok (pf.freshReader content, handle)) w' ∧
      (∃ p, stands p s) ∧
      Yields (Reader.readSchema (Handle.file srv)) (pf.freshReader content, handle, w')
        ((pf.freshReader content).schemaAnswer (footerCheck content.bytes))
        ({ (pf.freshReader content).afterFooter (footerCheck content.bytes) with schema }, s) := by
  rcases openReader_yields leads with ⟨p, handle, w', there, opened⟩
  rw [sized] at opened
  have settled := leads.honest.settled (trailerSize_le_of_magicCheck sized)
  have here : ∃ p, stands p (handle, w') := ⟨p, there⟩
  rcases Reader.readSchema_settled settled (r := pf.freshReader content) rfl rfl here
      with ⟨schema, s, place, asked⟩
  exact ⟨handle, w', schema, s, opened, place, asked⟩

/-- What has been read had everything that it takes, and its rows are those of the groups. -/
theorem reads_of_read (leads : Leads srv pf.location w content stands) {ds : Dataset}
    (read : (pf.read srv w).result = .ok ds) :
    ∃ d fields, content.Reads pf.options d fields ds.schema ∧
      ds.rows.map some = d.groups.flatMap (·.rowsUnder ds.schema.names) := by
  cases sized : magicCheck content.bytes with
  | error e =>
    rcases openReader_yields leads with ⟨p, handle, w', -, failed⟩
    rw [sized] at failed
    rw [(read_unopened failed).result] at read
    cases read
  | ok size =>
    rcases readSchema_opened leads sized with ⟨handle, w', kept, s, opened, -, asked⟩
    cases answer : (pf.freshReader content).schemaAnswer (footerCheck content.bytes) with
    | error e =>
      rw [answer] at asked
      have pass := Pass.materialize_unread (Reader.source (Handle.file srv)) _ asked.result
      rw [(read_opened opened pass).result] at read
      exact absurd read (lastly_error_ne_ok e _ ds)
    | ok schema =>
      rcases Reader.schemaAnswer_eq_ok answer rfl rfl with ⟨d, ⟨length, checked⟩, decoded, described⟩
      rcases Reader.fieldsOf_eq_ok_iff.mp described with ⟨fields, all, chosen⟩
      have covers := Schema.covers_of_project chosen
      by_cases delivers : ∀ g ∈ d.groups, g.Delivers pf.options schema.names
      · rcases read_delivered leads sized checked decoded described covers delivers
            with ⟨rows, whole, result⟩
        rw [result] at read
        cases closes : Reader.tolerated Reader.harmlessInDecoder (Reader.closingOf d) with
        | error e =>
          rw [closes] at read
          cases read
        | ok _ =>
          rw [closes] at read
          cases read
          exact ⟨d, fields, ⟨⟨size, sized⟩, ⟨length, checked⟩, decoded, all, chosen, delivers,
            closes⟩, whole⟩
      · rcases read_undelivered leads sized checked decoded described covers delivers
            with ⟨e, failed⟩
        rw [failed] at read
        cases read

/-- A content that has everything that it takes is read. -/
theorem read_of_reads (leads : Leads srv pf.location w content stands) {d : DecodedFile}
    {fields schema : Schema} (reads : content.Reads pf.options d fields schema) :
    ∃ rows, (pf.read srv w).result = .ok { rows, schema } ∧
      rows.map some = d.groups.flatMap (·.rowsUnder schema.names) := by
  rcases reads.sized with ⟨size, sized⟩
  rcases reads.checked with ⟨length, checked⟩
  have described : (pf.freshReader content).fieldsOf d = .ok schema :=
    Reader.fieldsOf_eq_ok_iff.mpr ⟨fields, reads.described, reads.chosen⟩
  have covers := Schema.covers_of_project reads.chosen
  rcases read_delivered leads sized checked reads.decoded described covers reads.delivers
      with ⟨rows, whole, result⟩
  rw [reads.closes] at result
  exact ⟨rows, result, whole⟩

/-- A reader whose schema fails for the choice of fields is closed at once.  Reading everything and
the first pull of a stream end with this failure, and no row group has been asked for. -/
theorem fails_unchosen (leads : Leads srv pf.location w content stands) {d : DecodedFile}
    {fields : Schema} {size length : Nat} (sized : magicCheck content.bytes = .ok size)
    (checked : footerCheck content.bytes = .ok length) (decoded : content.decoding = .ok d)
    (described : d.allFields = .ok fields)
    (closes : Reader.tolerated Reader.harmlessInDecoder (Reader.closingOf d) = .ok ()) {e : Error}
    (unchosen : fields.project pf.options.columns = .error e) (own : e.kind?.isSome) :
    (pf.read srv w).result = .error e ∧
    (RowStream.next srv pf (.unopened, w)).result = .error e ∧
    ∃ reader handle w', Yields (pf.openReader srv) w (.ok (reader, handle)) w' ∧
      let src := Reader.source (Handle.file srv)
      src.materializeCalls (reader, handle, w') = [.readSchema (.error e), .close (.ok ())] ∧
      Streaming.callsAfter src (reader, handle, w') 1 =
        [.readSchema (.error e), .close (.ok ())] := by
  let src := Reader.source (Handle.file srv)
  rcases readSchema_opened leads sized with ⟨handle, w', kept, s, opened, ⟨p, there⟩, asked⟩
  have found : (pf.freshReader content).footerAnswer (footerCheck content.bytes) = .ok d :=
    (Reader.footerAnswer_eq_ok_iff rfl rfl).mpr ⟨⟨length, checked⟩, decoded⟩
  have answer : (pf.freshReader content).schemaAnswer (footerCheck content.bytes) = .error e := by
    rw [Reader.schemaAnswer, found]
    exact (Reader.fieldsOf_described described).trans unchosen
  rw [answer, Reader.afterFooter_of_ok found] at asked
  have unread : (src.readSchema (pf.freshReader content, handle, w')).result = .error e := asked.result
  rcases Reader.close_open (r := { pf.freshReader content with footerRead := true, schema := kept })
      rfl (leads.honest.close there) with ⟨used, closed⟩
  rw [Reader.closeAnswer_of_read decoded rfl, closes] at closed
  have shut : (src.close (src.readSchema (pf.freshReader content, handle, w')).state).result =
      .ok () := by
    rw [show (src.readSchema (pf.freshReader content, handle, w')).state = _ from asked.state]
    exact closed.result
  have pass := Pass.materialize_unread src _ unread
  have nothing := Streaming.owed_of_unread src unread
  have pulled := Streaming.next_end src (Streaming.fresh_live _) (by rw [nothing])
  have calls := src.materializeCalls_unread unread
  rw [nothing] at pulled
  rw [shut] at calls
  simp only [shut, Streaming.endResult, lastly_ok, error_mapError,
    Error.outOfIteration_of_kind? own] at pass pulled
  refine ⟨(read_opened opened pass).result, ?_, _, handle, w', opened, calls, ?_⟩
  · exact (RowStream.next_opened srv pf opened).result.trans pulled.result
  · rw [Streaming.callsAfter_end src (by rw [nothing]; exact Nat.one_pos), calls]

end

/-! ## All fields and some of them -/

end RowFile

/-- The same options with a choice of fields. -/
def Options.choosing (options : Options) (names : List String)
    (sound : names ≠ [] ∧ names.Nodup) : Options where
  columns := some names
  useThreads := options.useThreads
  maxRowGroupBytes := options.maxRowGroupBytes
  columns_sound := by
    rintro _ ⟨⟩
    exact sound
  limit_pos := options.limit_pos

namespace RowFile

/-- The same file to be read with a choice of fields. -/
def choosing (pf : RowFile) (names : List String) (sound : names ≠ [] ∧ names.Nodup) : RowFile where
  location := pf.location
  options := pf.options.choosing names sound

/-- The row file names a local file, or one that its server serves as it is. -/
def Steady (srv : Server ω) (pf : RowFile) (w : World ω) : Prop :=
  pf.location.url? = none ∨ ∃ content stands, Leads srv pf.location w content stands

/-- Where something was read there is a file. -/
theorem Steady.leads {srv : Server ω} {pf : RowFile} {w : World ω} (steady : pf.Steady srv w)
    {ds : Dataset} (read : (pf.read srv w).result = .ok ds) :
    ∃ content stands, Leads srv pf.location w content stands := by
  rcases steady with isLocal | leads
  · cases found : w.files.read pf.location.name with
    | ok content => exact ⟨content, _, leads_local srv isLocal found⟩
    | error e =>
      have acquired := World.acquire_missing srv isLocal found
      have unopened : Yields (pf.openReader srv) w (.error _) w :=
        (yields_note _ _ _ w).bind acquired.bind_error
      rw [(read_unopened unopened).result] at read
      cases read
  · exact leads

/-- The rows under a choice of names beside the rows under all of them: equally many, and each value
is the one that the name it was chosen by looks up. -/
theorem rows_agree {groups : List StoredGroup} {rows wholes : List Row} {chosen names : List String}
    (part : rows.map some = groups.flatMap (·.rowsUnder chosen))
    (full : wholes.map some = groups.flatMap (·.rowsUnder names))
    (subset : ∀ name ∈ chosen, name ∈ names) :
    rows.length = wholes.length ∧
    ∀ (i : Nat) row whole, rows[i]? = some row → wholes[i]? = some whole → row.fields = chosen ∧
      ∀ (j : Nat) name, chosen[j]? = some name →
        ∃ v, row.values[j]? = some v ∧ whole.lookUp (.text name) = .ok v := by
  rw [StoredGroup.flatMap_rowsUnder] at part full
  have count : rows.length = (StoredGroup.places groups).length := by
    simpa using congrArg List.length part
  have count' : wholes.length = (StoredGroup.places groups).length := by
    simpa using congrArg List.length full
  refine ⟨count.trans count'.symm, ?_⟩
  intro i row whole found found'
  have here := congrArg (fun items => items[i]?) part
  have here' := congrArg (fun items => items[i]?) full
  simp only [List.getElem?_map, found, found', Option.map_some] at here here'
  rcases Option.map_eq_some_iff.mp here.symm with ⟨place, listed, inGroup⟩
  rw [listed, Option.map_some, Option.some.injEq] at here'
  have fields := StoredGroup.fields_of_row? inGroup
  refine ⟨fields, ?_⟩
  intro j name named
  have member := List.mem_of_getElem? named
  have same := StoredGroup.value_eq_valueOf? here'.symm inGroup named (subset name member)
  have inside : j < row.values.length := by
    rw [Row.length_values, ← Row.length_fields, fields]
    exact (List.getElem?_eq_some_iff.mp named).1
  refine ⟨row.values[j], List.getElem?_eq_getElem inside, ?_⟩
  rw [List.getElem?_eq_getElem inside] at same
  simp only [Row.lookUp, ← same]

/-- Reading a choice of the fields of a file that can be read completely.  If all names are those of
fields, the choice is read: its schema has the fields of the names in their order, and its rows are
the rows of the file, each with the value of the row under the name that stands at its place.
Otherwise reading fails, and so does the first pull of a stream, with an error that lists the names
that are not there in their order, and the reader was asked for no row group. -/
theorem read_chosen (srv : Server ω) {pf : RowFile} {w : World ω} (steady : pf.Steady srv w)
    (unchosen : pf.options.columns = none) {full : Dataset}
    (read : (pf.read srv w).result = .ok full) (distinct : full.fieldNames.Nodup)
    {names : List String} (sound : names ≠ [] ∧ names.Nodup) :
    let chosen := pf.choosing names sound
    let src := Reader.source (Handle.file srv)
    ((∀ name ∈ names, name ∈ full.fieldNames) →
      ∃ ds, (chosen.read srv w).result = .ok ds ∧
        ds.schema.map some = names.map (fun name => full.schema.find? fun f => f.name == name) ∧
        ds.rows.length = full.rows.length ∧
        ∀ (i : Nat) row whole, ds.rows[i]? = some row → full.rows[i]? = some whole →
          row.fields = names ∧
          ∀ (j : Nat) name, names[j]? = some name →
            ∃ v, row.values[j]? = some v ∧ whole.lookUp (.text name) = .ok v) ∧
    ((∃ name ∈ names, name ∉ full.fieldNames) →
      let missing := names.filter fun name => !full.fieldNames.contains name
      let e := Error.columnsNotFound missing full.fieldNames
      e.kind? = some .schema ∧
      (chosen.read srv w).result = .error e ∧
      (RowStream.next srv chosen (.unopened, w)).result = .error e ∧
      ∃ reader handle w', Yields (chosen.openReader srv) w (.ok (reader, handle)) w' ∧
        src.materializeCalls (reader, handle, w') = [.readSchema (.error e), .close (.ok ())] ∧
        Streaming.callsAfter src (reader, handle, w') 1 =
          [.readSchema (.error e), .close (.ok ())]) := by
  intro chosen src
  rcases steady.leads read with ⟨content, stands, leads⟩
  rcases reads_of_read leads read with ⟨d, fields, reads, whole⟩
  have all : fields = full.schema := by
    have picked := reads.chosen
    rw [unchosen] at picked
    injection picked
  have described : d.allFields = .ok full.schema := all ▸ reads.described
  have leads' : Leads srv chosen.location w content stands := leads
  constructor
  · intro present
    have picks : Schema.project chosen.options.columns full.schema = .ok _ :=
      Schema.choose_present present
    have same := Schema.names_filterMap_lastNamed? present
    have delivers : ∀ g ∈ d.groups, g.Delivers chosen.options names :=
      fun g member => (reads.delivers g member).of_subset rfl present
    rw [← same] at delivers
    rcases read_of_reads leads' ⟨reads.sized, reads.checked, reads.decoded, described, picks,
      delivers, reads.closes⟩ with ⟨rows, result, part⟩
    rw [same] at part
    exact ⟨_, result, Schema.map_chosen distinct present, rows_agree part whole present⟩
  · rintro ⟨name, member, absent⟩ missing e
    have fails : Schema.project chosen.options.columns full.schema = .error e := by
      have failed := Schema.choose_absent member absent
      rwa [show full.schema.names.eraseDups = full.schema.names from eraseDups_of_nodup distinct]
        at failed
    rcases reads.sized with ⟨size, sized⟩
    rcases reads.checked with ⟨length, checked⟩
    exact ⟨rfl, fails_unchosen leads' sized checked reads.decoded described reads.closes fails
      (by rfl)⟩

/-! ## Letters and numbers -/

/-- All fields are read. -/
def letters : RowFile where
  location := .path "letters"

def lettersRead : Dataset where
  schema := [
    { name := "id", typeName := "int64", physical := some .int64, repetition := .required },
    { name := "letter", typeName := "string", physical := some .byteArray, logical := some "String",
      repetition := .required }]
  rows := [
    ⟨[("id", .int 1), ("letter", .text "a")]⟩,
    ⟨[("id", .int 2), ("letter", .text "b")]⟩,
    ⟨[("id", .int 3), ("letter", .text "c")]⟩]

theorem read_letters : (letters.read Server.unreachable lettersWorld).result = .ok lettersRead := by
  rcases located_lettersFirst.stored with ⟨content, body, footer, found, framed, decoded⟩
  have reads : content.Reads letters.options lettersDecoded lettersRead.schema lettersRead.schema := by
    refine ⟨⟨_, framed.magicCheck_eq⟩, ⟨_, framed.footerCheck_eq⟩, decoded, rfl, rfl, ?_, rfl⟩
    intro g member
    have delivers := (located_lettersFirst.sized g member).delivers_iff.mpr
      (readable_lettersFirst g member)
    exact delivers.of_subset rfl (by decide)
  have leads : Leads Server.unreachable letters.location lettersWorld content _ :=
    leads_local Server.unreachable rfl found
  rcases read_of_reads leads reads with ⟨rows, result, whole⟩
  have same : rows = lettersRead.rows := (List.map_inj_right fun _ _ => Option.some.inj).mp whole
  rw [result, same]

/-- The letters are chosen before the numbers; and of three names the two that are no field are
listed. -/
theorem read_chosen_of_letters :
    (∃ ds, ((letters.choosing ["letter", "id"] (by decide)).read Server.unreachable
        lettersWorld).result = .ok ds ∧
      ds.schema.map some = [lettersRead.schema[1]?, lettersRead.schema[0]?] ∧
      ds.rows.length = 3 ∧
      ∀ row, ds.rows[1]? = some row → row.fields = ["letter", "id"] ∧
        row.values[0]? = some (.text "b")) ∧
    ∃ available, ((letters.choosing ["tint", "id", "hue"] (by decide)).read Server.unreachable
      lettersWorld).result = .error (.columnsNotFound ["tint", "hue"] available) := by
  have steady : letters.Steady Server.unreachable lettersWorld := .inl rfl
  have distinct : lettersRead.fieldNames.Nodup := by decide
  have chosen {names : List String} (sound : names ≠ [] ∧ names.Nodup) :=
    read_chosen Server.unreachable steady rfl read_letters distinct sound
  constructor
  · rcases (chosen (by decide : ["letter", "id"] ≠ [] ∧ ["letter", "id"].Nodup)).1 (by decide)
      with ⟨ds, read, schema, count, rows⟩
    refine ⟨ds, read, schema, count, ?_⟩
    intro row found
    rcases rows 1 row _ found rfl with ⟨fields, values⟩
    rcases values 0 "letter" rfl with ⟨v, here, there⟩
    cases there
    exact ⟨fields, here⟩
  · have fails := (chosen (by decide : ["tint", "id", "hue"] ≠ [] ∧ ["tint", "id", "hue"].Nodup)).2
      (by decide)
    exact ⟨_, fails.2.1⟩

end RowFile
end RowReader
