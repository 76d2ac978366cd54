import RowReader.Proofs.Reader.Reach
import RowReader.Proofs.RowFile.Projection

/-!
# How many rows there are

The number of rows is obtained in two ways.  Reading and streaming count the rows of the groups, as
many as each of them declares.  The number that can be asked for by itself is the one that the
footer states, and nothing compares the two.
-/

namespace RowReader

open RowReader.Action

variable {ω : Type}

/-! ## Rows taken from a stream -/

/-- So many of these rows were taken, in order, and the stream ended by itself if there were
fewer. -/
structure Batch.HandsOut {σ : Type} (rows : List Row) (count : Nat) (taken : Batch σ) : Prop where
  rows_eq : taken.rows = rows.take count
  within : count ≤ rows.length → taken.ending = .more
  beyond : rows.length < count → taken.ending = .exhausted

/-- What is not told of a batch does not matter. -/
theorem Batch.HandsOut.of_told {σ : Type} {rows : List Row} {count : Nat} {taken other : Batch σ}
    (hands : taken.HandsOut rows count) (same : other.told = taken.told) :
    other.HandsOut rows count := by
  simp only [told, Prod.mk.injEq] at same
  rcases same with ⟨rows_eq, ending, -⟩
  exact ⟨rows_eq.trans hands.rows_eq, fun room => ending.trans (hands.within room),
    fun short => ending.trans (hands.beyond short)⟩

/-- A stream over a source that can be read completely hands out the rows that are read. -/
theorem Streaming.handsOut_of_materialize {σ γ : Type} (src : Source σ γ) {s : σ} {ds : Dataset}
    (read : (Pass.materialize src ({}, s)).result = .ok ds) (count : Nat) :
    (takeRows (next src) count (fresh s)).HandsOut ds.rows count := by
  rcases materialize_owed src s with ⟨schema, p, r, whole, alike⟩
  cases whole.result.symm.trans read
  have found := mapError_eq_ok_iff.mp alike.symm
  have ends := of_dataset ((fresh s).owed src) schema (src.close ((fresh s).owed src).state).result
  rw [found] at ends
  rw [rows_of_dataset found]
  rcases takeRows_owed src (fresh_live s) count with ⟨rows, within, beyond⟩
  exact ⟨rows, within, fun short => (beyond short).1.trans ends.symm⟩

/-- Rows that are those of some groups are as many as these declare. -/
theorem StoredGroup.length_eq_declaredRows {rows : List Row} {groups : List StoredGroup}
    {names : List String} (whole : rows.map some = groups.flatMap (·.rowsUnder names)) :
    rows.length = declaredRows groups := by
  rw [← length_rowsUnder groups names, ← whole, List.length_map]

/-- What a stored file leads to is settled. -/
theorem Leads.decoding_eq {srv : Server ω} {location : Location} {w : World ω} {content : Content}
    {stands : Nat → Handle × World ω → Prop} (leads : Leads srv location w content stands)
    (isLocal : location.url? = none) {stored : Content}
    (found : w.files.read location.name = .ok stored) : content.decoding = stored.decoding := by
  rcases leads.acquired with ⟨handle, w', acquired, -⟩
  have same := (acquired.unique (World.acquire_stored srv isLocal found)).1
  exact congrArg Prod.snd (Except.ok.inj same)

namespace RowFile

variable {srv : Server ω} {pf : RowFile} {w : World ω} {content : Content}
  {stands : Nat → Handle × World ω → Prop}

/-- What has been read was read from a reader that was opened for it. -/
theorem exists_reader_of_read {ds : Dataset} (read : (pf.read srv w).result = .ok ds) :
    ∃ reader handle w', Yields (pf.openReader srv) w (.ok (reader, handle)) w' ∧
      (Pass.materialize (Reader.source (Handle.file srv)) ({}, reader, handle, w')).result =
        .ok ds := by
  have opening := yields_self (pf.openReader srv) w
  generalize (pf.openReader srv w).result = opened at opening
  rcases opened with e | ⟨reader, handle⟩
  · rw [(read_unopened opening).result] at read
    cases read
  · have pass := yields_self (Pass.materialize (Reader.source (Handle.file srv)))
      ({}, reader, handle, (pf.openReader srv w).state)
    exact ⟨reader, handle, _, opening, (read_opened opening pass).result.symm.trans read⟩

/-- A stream over a row file hands out the rows that reading it brings. -/
theorem handsOut_of_read {ds : Dataset} (read : (pf.read srv w).result = .ok ds) (count : Nat) :
    (takeRows (RowStream.next srv pf) count (.unopened, w)).HandsOut ds.rows count := by
  rcases exists_reader_of_read read with ⟨reader, handle, w', opened, pass⟩
  cases count with
  | zero => exact ⟨rfl, fun _ => rfl, nofun⟩
  | succ count =>
    have taken := Streaming.handsOut_of_materialize _ pass (count + 1)
    have outer := RowStream.takeRows_opened srv pf opened count
    refine Batch.HandsOut.of_told ?_ outer
    exact ⟨taken.rows_eq, taken.within, taken.beyond⟩

/-! ## The number that the footer states -/

/-- A content that can be read has its number of rows told, as its footer states it. -/
theorem numRows_of_reads (leads : Leads srv pf.location w content stands) {d : DecodedFile}
    {fields schema : Schema} (reads : content.Reads pf.options d fields schema) :
    (pf.numRows srv w).result = .ok d.rows := by
  rcases reads.sized with ⟨size, sized⟩
  rcases openReader_yields leads with ⟨p, handle, w', there, opened⟩
  rw [sized] at opened
  have settled := leads.honest.settled (trailerSize_le_of_magicCheck sized)
  have found : (pf.freshReader content).footerAnswer (footerCheck content.bytes) = .ok d :=
    (Reader.footerAnswer_eq_ok_iff rfl rfl).mpr ⟨reads.checked, reads.decoded⟩
  have here : ∃ p, stands p (handle, w') := ⟨p, there⟩
  rcases Reader.footer_settled settled (r := pf.freshReader content) rfl here
    with ⟨t, ⟨q, still⟩, footer⟩
  rw [found, Reader.afterFooter_of_ok found] at footer
  have asked : Yields (Reader.numRows (Handle.file srv)) (pf.freshReader content, handle, w')
      (.ok d.rows) ({ pf.freshReader content with footerRead := true }, t) :=
    footer.bind (yields_pure d.rows _)
  rcases Reader.close_open (r := { pf.freshReader content with footerRead := true }) rfl
    (leads.honest.close still) with ⟨used, closed⟩
  rw [Reader.closeAnswer_of_read reads.decoded rfl, reads.closes] at closed
  exact (withReader_opened opened asked closed).result

/-- For a file that can be read, a stream hands out the rows that are read, and then ends.  They are
as many as the groups declare.  The number of rows that can be asked for is the one that the footer
states: asking for it never fails, and it is the number of the rows exactly if the footer states as
many as the groups declare. -/
theorem num_rows_as_stated (srv : Server ω) {pf : RowFile} {w : World ω}
    (steady : pf.Steady srv w) {ds : Dataset} (read : (pf.read srv w).result = .ok ds) :
    (∀ count, (takeRows (RowStream.next srv pf) count (.unopened, w)).HandsOut ds.rows count) ∧
    ∃ content stands d, Leads srv pf.location w content stands ∧ content.decoding = .ok d ∧
      ds.rows.length = StoredGroup.declaredRows d.groups ∧
      (pf.numRows srv w).result = .ok d.rows ∧
      ((pf.numRows srv w).result = .ok ds.rows.length ↔
        d.rows = StoredGroup.declaredRows d.groups) := by
  refine ⟨handsOut_of_read read, ?_⟩
  rcases steady.leads read with ⟨content, stands, leads⟩
  rcases reads_of_read leads read with ⟨d, fields, reads, whole⟩
  have counted := StoredGroup.length_eq_declaredRows whole
  have told := numRows_of_reads leads reads
  refine ⟨content, stands, d, leads, reads.decoded, counted, told, ?_⟩
  rw [told, counted, Except.ok.injEq]

/-- Of the letters there are three, by the footer and by the groups. -/
theorem num_rows_as_stated_of_letters :
    (letters.numRows Server.unreachable lettersWorld).result = .ok 3 ∧
    (takeRows (RowStream.next Server.unreachable letters) 4 (.unopened, lettersWorld)).HandsOut
      lettersRead.rows 4 := by
  have steady : letters.Steady Server.unreachable lettersWorld := .inl rfl
  rcases num_rows_as_stated Server.unreachable steady read_letters with
    ⟨streams, content, stands, d, leads, decoded, counted, told, agree⟩
  rcases located_lettersFirst.stored with ⟨stored, body, footer, found, framed, decoded'⟩
  have same : content.decoding = stored.decoding := leads.decoding_eq rfl found
  rw [decoded, decoded'] at same
  cases same
  exact ⟨told, streams 4⟩

/-- One group of two rows, under a footer that states five. -/
def overstated : DecodedFile where
  leaves := .ok [⟨"id", "INT64", "None", 0, 0⟩]
  fields := [⟨"id", "int64", false⟩]
  rows := 5
  groups := [{ rows := 2, bytes := 10, table := .ok ⟨2, [⟨"id", .ok #[.int 1, .int 2]⟩]⟩ }]

def overstatedContent : Content where
  bytes := magic ++ [] ++ [0] ++ littleEndianBytes 4 1 ++ magic
  decoding := .ok overstated

def overstatedWorld : World Unit where
  files := { entries := [(["f"], .file overstatedContent)] }
  server := ()
  remote := .error .notAUrl

def overstatedFile : RowFile where
  location := .path "f"

/-- The footer is not held against the groups: the file is read without complaint, and has two rows
or five, depending on how one asks. -/
theorem overstated_rows_pass :
    (∃ ds, (overstatedFile.read Server.unreachable overstatedWorld).result = .ok ds ∧
      ds.rows.length = 2) ∧
    (overstatedFile.numRows Server.unreachable overstatedWorld).result = .ok 5 := by
  have found : overstatedWorld.files.read overstatedFile.location.name = .ok overstatedContent := by
    rfl
  have leads := leads_local Server.unreachable rfl found
  have framed : Framed overstatedContent.bytes [] [0] := ⟨rfl, by decide, by decide⟩
  let fields : Schema :=
    [{ name := "id", typeName := "int64", physical := some .int64, repetition := .required }]
  have reads : overstatedContent.Reads overstatedFile.options overstated fields fields := by
    refine ⟨⟨_, framed.magicCheck_eq⟩, ⟨_, framed.footerCheck_eq⟩, rfl, rfl, rfl, ?_, rfl⟩
    intro g member
    rcases List.mem_singleton.mp member with rfl
    refine ⟨⟨nofun, _, rfl, rfl⟩, ?_⟩
    intro i inside
    have few : i = 0 ∨ i = 1 := by
      change (i : Int) < 2 at inside
      omega
    rcases few with rfl | rfl
    · rfl
    · rfl
  rcases read_of_reads leads reads with ⟨rows, result, whole⟩
  exact ⟨⟨_, result, StoredGroup.length_eq_declaredRows whole⟩, numRows_of_reads leads reads⟩

end RowFile
end RowReader
