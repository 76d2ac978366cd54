import RowReader.Proofs.FileSystem
import RowReader.Proofs.Reader.Onward
import RowReader.Proofs.RowFile.Failures
import RowReader.Proofs.RowFile.Projection

/-!
# Rows of a local file

The rows that are pulled from a stored file are those of its row groups, in the order of the file.
The schema and each row are a matter of the bytes and of the decoded groups, and of no more groups
than the number of rows calls for: where files begin with the same groups, pulling rows from them
comes to the same.
-/

namespace RowReader

open RowReader.Action

/-- The same file with other row groups behind its footer. -/
def Content.regrouped (content : Content) (d : DecodedFile) (groups : List StoredGroup) : Content :=
  { content with decoding := .ok { d with groups } }

namespace RowFile

variable {ω : Type}

/-! ## The schema of a content -/

/-- What the content says about the fields that are asked for. -/
def schemaOf (pf : RowFile) (content : Content) : Except Error Schema := do
  let _ ← magicCheck content.bytes
  (pf.freshReader content).schemaAnswer (footerCheck content.bytes)

section

variable {pf : RowFile} {content : Content} {schema : Schema}

theorem describes_of_schemaOf (found : pf.schemaOf content = .ok schema) :
    content.Opens ∧ content.Describes pf.options schema := by
  cases judged : magicCheck content.bytes with
  | error e =>
    rw [schemaOf, judged] at found
    cases found
  | ok size =>
    rw [schemaOf, judged] at found
    rcases Reader.schemaAnswer_eq_ok found rfl rfl with ⟨d, checked, decoded, described⟩
    rcases Reader.fieldsOf_eq_ok_iff.mp described with ⟨fields, all, chosen⟩
    exact ⟨⟨size, judged⟩, d, fields, ⟨checked, decoded⟩, all, chosen⟩

/-- What is wrong with a content is reported with an error of the reader's own. -/
theorem kind?_of_schemaOf (tame : content.Tame) {e : Error}
    (failed : pf.schemaOf content = .error e) : e.kind?.isSome := by
  unfold schemaOf at failed
  cases judged : magicCheck content.bytes with
  | error other =>
    rw [judged] at failed
    cases failed
    rw [(magicCheck_error judged).1, Option.isSome_some]
  | ok size =>
    rw [judged] at failed
    change (pf.freshReader content).schemaAnswer (footerCheck content.bytes) = .error e at failed
    have finds := Reader.schemaAnswer_finds (r := pf.freshReader content) tame rfl rfl
    rw [failed] at finds
    cases finds with
    | missing absent kind => rw [kind, Option.isSome_some]

/-- The row groups do not enter the schema. -/
theorem schemaOf_regrouped (pf : RowFile) {d : DecodedFile} (decoded : content.decoding = .ok d)
    (groups : List StoredGroup) :
    pf.schemaOf (content.regrouped d groups) = pf.schemaOf content := by
  unfold schemaOf Reader.schemaAnswer Reader.footerAnswer freshReader Content.regrouped
  rw [decoded]
  cases magicCheck content.bytes with
  | error e => rfl
  | ok size => cases footerCheck content.bytes <;> rfl

end

section

variable (srv : Server ω) {pf : RowFile} {w : World ω} {content : Content}
  (isLocal : pf.location.url? = none) (stored : w.files.read pf.location.name = .ok content)

include isLocal stored

theorem opened_stored (opens : content.Opens) : ∃ s, Opened srv pf w content s := by
  rcases openReader_yields (leads_local srv isLocal stored) with ⟨p, handle, w', there, opened⟩
  rcases opens with ⟨size, passed⟩
  rw [passed] at opened
  exact ⟨(handle, w'), stored, ⟨size, passed⟩, opened, p, there⟩

/-- The schema of a stored file is that of its content, and reading it leaves nothing open. -/
theorem readSchema_stored (tame : content.Tame) (unknown : pf.schema = none) :
    ∃ kept, Yields (readSchema srv) (pf, w) (pf.schemaOf content) (kept, w) := by
  refine ⟨_, readSchema_learned unknown ?_⟩
  unfold schemaOf
  cases judged : magicCheck content.bytes with
  | error e =>
    rcases openReader_yields (leads_local srv isLocal stored) with ⟨p, handle, w', there, failed⟩
    rw [judged, Handle.close_at srv there] at failed
    exact withReader_unopened failed
  | ok size =>
    rcases opened_stored srv isLocal stored ⟨size, judged⟩ with ⟨s, opened⟩
    rcases Reader.readSchema_settled opened.settled (r := pf.freshReader content) rfl rfl
        opened.place with ⟨schema, t, there, asked⟩
    rcases Reader.afterFooter_eq (footerCheck content.bytes) (pf.freshReader content)
        with ⟨known, after⟩
    rw [after] at asked
    have held : Reader.Over content (Standing content w)
        ({ { pf.freshReader content with footerRead := known } with schema }, t) :=
      ⟨rfl, rfl, there⟩
    rcases close_standing srv tame held with ⟨closes, same⟩
    have whole := withReader_opened opened.yields asked (closes ▸ yields_self _ _)
    rw [lastly_ok] at whole
    exact same ▸ whole

/-- However the rows end, their stream can be closed then, and an error that ends them is one of the
reader's own. -/
theorem rows_closable (tame : content.Tame) (count : Nat) :
    let taken := takeRows (RowStream.next srv pf) count (.unopened, w)
    Yields (RowStream.close srv) taken.state (.ok ()) (.ended, w) ∧
      ∀ e, taken.ending = .failed e → e.kind?.isSome := by
  intro taken
  have tame_stored : ∀ other, w.files.read pf.location.name = .ok other → other.Tame := by
    intro other also
    cases stored.symm.trans also
    exact tame
  rcases rows_fate srv isLocal (FileSystem.readable_of_read stored) tame_stored count
      with ⟨finish, closes⟩
  refine ⟨closes, fun e failed => ?_⟩
  rcases finish (by rw [failed]; exact nofun) with ⟨-, r, same, fate⟩
  cases r with
  | ok done => cases failed.symm.trans same
  | error other =>
    cases failed.symm.trans same
    exact fate.isSome_kind?

end

/-! ## A stream that knows the schema -/

/-- The reader of an open file after the schema was read and before any group was asked for. -/
structure Begun (pf : RowFile) (w : World ω) (content : Content) (d : DecodedFile)
    (schema : Schema) (both : Reader × Handle × World ω) : Prop
    extends Reader.Describes d schema (Standing content w) both where
  name : both.1.name = pf.location.name
  options : both.1.options = pf.options
  known : both.1.footerRead = true
  cursor : both.1.cursor = 0

section

variable {srv : Server ω} {pf : RowFile} {w : World ω} {content : Content} {d : DecodedFile}
  {schema : Schema} {s : Handle × World ω}

theorem Opened.begun (opened : Opened srv pf w content s) (tame : content.Tame)
    (found : content.Describes pf.options schema) (decoded : content.decoding = .ok d) :
    ∃ both, Begun pf w content d schema both ∧
      Yields (Reader.source (Handle.file srv)).readSchema (pf.freshReader content, s) (.ok schema)
        both := by
  rcases opened.describes tame found with ⟨_, -, also, intact, described⟩
  cases decoded.symm.trans also
  have ready := described.toReady
  have asked := Reader.readSchema_described ready.isOpen rfl
    (Reader.footer_parsed (ready.parses intact)) described.fields
  refine ⟨_, ?_, asked⟩
  exact ⟨⟨⟨ready.isOpen, ready.decoded, ready.place_after intact⟩, described.fields⟩,
    rfl, rfl, rfl, rfl⟩

theorem Begun.informed {both : Reader × Handle × World ω}
    (begun : Begun pf w content d schema both) : Reader.Informed d both.1 :=
  ⟨begun.isOpen, begun.decoded, begun.known⟩

theorem Begun.covers {both : Reader × Handle × World ω}
    (begun : Begun pf w content d schema both) : both.1.options.Covers schema.names := by
  rcases Reader.fieldsOf_eq_ok_iff.mp begun.fields with ⟨fields, -, chosen⟩
  exact Schema.covers_of_project chosen

end

/-! ## Rows that are pulled -/

/-- So many rows were taken from everything that is delivered, and after the last of them it ended as it
comes out of the iteration. -/
structure TakenFrom {σ τ : Type} (count : Nat) (batch : Batch σ) (taken : Batch τ) : Prop where
  rows : taken.rows = batch.rows.take count
  within : count ≤ batch.rows.length → taken.ending = .more
  beyond : batch.rows.length < count →
    taken.ending = (Ending.of (Streaming.endResult batch.ending)).outOfIteration

theorem TakenFrom.ending_eq {σ τ : Type} {count : Nat} {batch : Batch σ} {taken : Batch τ}
    (from_batch : TakenFrom count batch taken) :
    count ≤ batch.rows.length ∧ taken.ending = .more ∨
      batch.rows.length < count ∧
        taken.ending = (Ending.of (Streaming.endResult batch.ending)).outOfIteration := by
  rcases Nat.lt_or_ge batch.rows.length count with short | room
  · exact Or.inr ⟨short, from_batch.beyond short⟩
  · exact Or.inl ⟨room, from_batch.within room⟩

/-- The rows that are taken are as many as are wanted, or all that there are, unless the batch failed
before. -/
theorem TakenFrom.in_order {σ τ : Type} {count : Nat} {batch : Batch σ} {taken : Batch τ}
    {all : List (Option Row)} (from_batch : TakenFrom count batch taken)
    (begins : batch.rows.map some <+: all)
    (complete : (∀ e, batch.ending ≠ .failed e) → batch.rows.map some = all) :
    taken.rows.map some <+: all ∧
      (taken.ending = .more → taken.rows.map some = all.take count) ∧
      (taken.ending ≠ .more → taken.rows.length < count) ∧
      (taken.ending = .exhausted → taken.rows.map some = all) := by
  have rows := from_batch.rows
  have begun : taken.rows.map some <+: all := by
    rw [rows, List.map_take]
    exact (List.take_prefix _ _).trans begins
  rcases from_batch.ending_eq with ⟨room, ending⟩ | ⟨short, ending⟩
  · have filled : taken.rows.map some = all.take count := by
      rcases begins with ⟨rest, rfl⟩
      rw [rows, List.map_take, List.take_append_of_le_length (by simpa using room)]
    refine ⟨begun, fun _ => filled, fun ended => absurd ending ended, ?_⟩
    rw [ending]
    exact nofun
  · have whole : taken.rows = batch.rows := by
      rw [rows, List.take_of_length_le (Nat.le_of_lt short)]
    refine ⟨begun, ?_, fun _ => whole ▸ short, ?_⟩
    · rw [ending]
      cases batch.ending <;> exact nofun
    · intro exhausted
      rw [whole]
      apply complete
      intro e failed
      rw [ending, failed] at exhausted
      cases exhausted

/-- Batches that deliver the same are the same to all who take rows from them. -/
theorem TakenFrom.same {σ σ' τ τ' : Type} {count : Nat} {batch : Batch σ} {other : Batch σ'}
    {taken : Batch τ} {taken' : Batch τ'} (from_batch : TakenFrom count batch taken)
    (from_other : TakenFrom count other taken') (rows : other.rows = batch.rows)
    (ending : other.ending = batch.ending) :
    taken'.rows = taken.rows ∧ taken'.ending = taken.ending := by
  refine ⟨by rw [from_batch.rows, from_other.rows, rows], ?_⟩
  rcases from_batch.ending_eq with ⟨room, ends⟩ | ⟨short, ends⟩
  · rw [ends, from_other.within (rows ▸ room)]
  · rw [ends, from_other.beyond (rows ▸ short), ending]

/-- Rows that are taken from batches that are the same up to more rows than that are the same. -/
theorem TakenFrom.alike {σ σ' τ τ' : Type} {count most : Nat} {batch : Batch σ} {batch' : Batch σ'}
    {taken : Batch τ} {taken' : Batch τ'} (from_first : TakenFrom count batch taken)
    (from_second : TakenFrom count batch' taken') (same : Reader.SameUpTo most batch batch')
    (few : count ≤ most) : taken'.rows = taken.rows ∧ taken'.ending = taken.ending := by
  cases same with
  | delivered rows rest rest' first second all =>
    have enough : count ≤ rows.length := all ▸ few
    have room : ∀ more : List Row, count ≤ (rows ++ more).length := by
      intro more
      rw [List.length_append]
      omega
    constructor
    · rw [from_first.rows, from_second.rows, first, second, List.take_append_of_le_length enough,
        List.take_append_of_le_length enough]
    · rw [from_first.within (first ▸ room rest), from_second.within (second ▸ room rest')]
  | failed e first second rows => exact from_first.same from_second rows (second.trans first.symm)

section

variable {srv : Server ω} {pf : RowFile} {w : World ω} {content : Content} {d : DecodedFile}
  {schema : Schema} {s : Handle × World ω}

/-- Rows that are pulled from a row file are taken from everything that its reader delivers, and are
followed by nothing else if the decoder can be closed. -/
theorem takenFrom_owed {reader : Reader} {handle : Handle} {w' : World ω}
    (opened : Yields (pf.openReader srv) w (.ok (reader, handle)) w')
    (isOpen : reader.closed = false) (closable : Reader.Closable reader.decoding) (count : Nat) :
    TakenFrom count ((Streaming.fresh (reader, handle, w')).owed (RowStream.source srv))
      (RowReader.takeRows (RowStream.next srv pf) count (.unopened, w)) := by
  have onward := Streaming.owed_onward (Handle.file srv) (reader, handle, w')
  rcases Reader.close_open (onward.closed.trans isOpen) (Handle.close_ok srv _) with ⟨used, closed⟩
  rw [Reader.closeAnswer_of_closable (onward.decoding ▸ closable)] at closed
  let batch := (Streaming.fresh (reader, handle, w')).owed (RowStream.source srv)
  have closes : ((RowStream.source srv).close batch.state).result = .ok () := closed.result
  cases count with
  | zero => exact ⟨List.take_zero.symm, fun _ => rfl, nofun⟩
  | succ count =>
    have outer := RowStream.takeRows_opened srv pf opened count
    have inner := Streaming.takeRows_owed (RowStream.source srv)
      (Streaming.fresh_live (reader, handle, w')) (count + 1)
    simp only [Batch.told, Batch.mapState, Prod.mk.injEq] at outer
    dsimp only at inner
    rw [closes, lastly_ok] at inner
    rcases inner with ⟨rows, within, beyond⟩
    exact ⟨outer.1.trans rows, fun room => outer.2.1.trans (within room),
      fun short => outer.2.1.trans (beyond short).1⟩

theorem Opened.taken (opened : Opened srv pf w content s) (tame : content.Tame)
    (found : content.Describes pf.options schema) (decoded : content.decoding = .ok d)
    (count : Nat) :
    ∃ both, Begun pf w content d schema both ∧
      TakenFrom count ((Reader.source (Handle.file srv)).deliverGroups schema both)
        (RowReader.takeRows (RowStream.next srv pf) count (.unopened, w)) := by
  rcases opened.begun tame found decoded with ⟨both, begun, asked⟩
  refine ⟨both, begun, ?_⟩
  rw [← asked.state, ← Streaming.owed_of_read (Reader.source (Handle.file srv)) asked.result]
  exact takenFrom_owed opened.yields rfl (Reader.closable_of_tame tame) count

end

/-! ## The groups that the decoder is asked for -/

/-- The row groups that the decoder is asked for while so many rows are pulled.  A stream forgets its
reader when it ends, so this is told from the stream over the reader. -/
def groupsAsked (srv : Server ω) (pf : RowFile) (w : World ω) : (count : Nat) → List Nat
  | 0 => []
  | count + 1 =>
    match pf.openReader srv w with
    | { result := .ok (reader, handle), state, .. } =>
      (takeRows (Streaming.next (RowStream.source srv)) (count + 1)
        (.fresh (reader, handle, state))).state.source.1.used.groups
    | _ => []

theorem groupsAsked_opened {srv : Server ω} {pf : RowFile} {w w' : World ω} {reader : Reader}
    {handle : Handle} (opened : Yields (pf.openReader srv) w (.ok (reader, handle)) w')
    (count : Nat) :
    pf.groupsAsked srv w (count + 1) = (takeRows (Streaming.next (RowStream.source srv)) (count + 1)
      (.fresh (reader, handle, w'))).state.source.1.used.groups := by
  rcases opened.outcome with ⟨log, answer⟩
  simp only [groupsAsked, answer]

section

variable (srv : Server ω) {pf : RowFile} {w : World ω} {content : Content} {d : DecodedFile}
  {schema : Schema} (isLocal : pf.location.url? = none)
  (stored : w.files.read pf.location.name = .ok content) (tame : content.Tame)
  (found : pf.schemaOf content = .ok schema)

include isLocal stored tame found

/-- The rows that are pulled are those of the groups in order.  Unless a pull fails, they are as
many as are wanted, or all of them. -/
theorem rows_stored (decoded : content.decoding = .ok d) (count : Nat) :
    let taken := takeRows (RowStream.next srv pf) count (.unopened, w)
    let all := d.groups.flatMap (·.rowsUnder schema.names)
    taken.rows.map some <+: all ∧
      (taken.ending = .more → taken.rows.map some = all.take count) ∧
      (taken.ending ≠ .more → taken.rows.length < count) ∧
      (taken.ending = .exhausted → taken.rows.map some = all) := by
  intro taken all
  rcases describes_of_schemaOf found with ⟨opens, described⟩
  rcases opened_stored srv isLocal stored opens with ⟨s, opened⟩
  rcases opened.describes tame described with ⟨_, -, -, intact, -⟩
  rcases opened.taken tame described decoded count with ⟨⟨r, t⟩, begun, taken_from⟩
  have left : d.groups.drop r.cursor = d.groups := by
    rw [begun.cursor, List.drop_zero]
  rcases Reader.deliverGroups_in_order intact begun.toReady begun.covers left
      with ⟨begins, complete⟩
  exact taken_from.in_order begins complete

/-- Files that begin with the same groups deliver the same rows, up to the number of rows that
these groups declare, and fail in the same way. -/
theorem rows_of_same_beginning {w' : World ω} {ahead behind other : List StoredGroup}
    (count : Nat) (decoded : content.decoding = .ok d) (grouped : d.groups = ahead ++ behind)
    (stored' : w'.files.read pf.location.name = .ok (content.regrouped d (ahead ++ other)))
    (tame' : (content.regrouped d (ahead ++ other)).Tame)
    (few : count ≤ StoredGroup.declaredRows ahead) :
    let taken := takeRows (RowStream.next srv pf) count (.unopened, w)
    let taken' := takeRows (RowStream.next srv pf) count (.unopened, w')
    taken'.rows = taken.rows ∧ taken'.ending = taken.ending := by
  have found' := (schemaOf_regrouped pf decoded (ahead ++ other)).trans found
  rcases describes_of_schemaOf found with ⟨opens, described⟩
  rcases describes_of_schemaOf found' with ⟨opens', described'⟩
  rcases opened_stored srv isLocal stored opens with ⟨s, opened⟩
  rcases opened_stored srv isLocal stored' opens' with ⟨s', opened'⟩
  rcases opened.describes tame described with ⟨_, -, -, intact, -⟩
  rcases opened'.describes tame' described' with ⟨_, -, -, intact', -⟩
  rcases opened.taken tame described decoded count with ⟨⟨r, t⟩, begun, from_first⟩
  rcases opened'.taken tame' described' rfl count with ⟨⟨r', t'⟩, begun', from_second⟩
  have abreast : Reader.Abreast r r' :=
    ⟨begun'.name.trans begun.name.symm, begun'.options.trans begun.options.symm,
      begun'.cursor.trans begun.cursor.symm⟩
  have left : d.groups.drop r.cursor = ahead ++ behind := by
    rw [begun.cursor, List.drop_zero, grouped]
  have left' : (ahead ++ other).drop r'.cursor = ahead ++ other := by
    rw [begun'.cursor, List.drop_zero]
  exact from_first.alike from_second (Reader.deliverGroups_sameUpTo begun.informed begun'.informed
    abreast left left') few

/-- Where the first groups have their rows, no pull fails that these groups suffice for. -/
theorem rows_delivered (decoded : content.decoding = .ok d) {ahead behind : List StoredGroup}
    (grouped : d.groups = ahead ++ behind)
    (delivers : ∀ g ∈ ahead, g.Delivers pf.options schema.names) {count : Nat}
    (few : count ≤ StoredGroup.declaredRows ahead) :
    (takeRows (RowStream.next srv pf) count (.unopened, w)).ending = .more := by
  rcases describes_of_schemaOf found with ⟨opens, described⟩
  rcases opened_stored srv isLocal stored opens with ⟨s, opened⟩
  rcases opened.describes tame described with ⟨_, -, -, intact, -⟩
  rcases opened.taken tame described decoded count with ⟨⟨r, t⟩, begun, taken_from⟩
  have left : d.groups.drop r.cursor = ahead ++ behind := by
    rw [begun.cursor, List.drop_zero, grouped]
  rw [← begun.options] at delivers
  rcases Reader.deliverGroups_ahead intact begun.toReady begun.covers left delivers
      with ⟨r', t', rows, log, -, -, -, whole, delivered⟩
  apply taken_from.within
  have length := congrArg List.length whole
  rw [List.length_map, StoredGroup.length_rowsUnder] at length
  rw [delivered]
  change count ≤ (rows ++ _).length
  rw [List.length_append]
  omega

omit tame in
/-- No group is asked for that begins after the last row that is wanted. -/
theorem groupsAsked_before (decoded : content.decoding = .ok d) (count : Nat) :
    ∀ i ∈ pf.groupsAsked srv w count, d.rowsBefore i < count := by
  cases count with
  | zero => exact nofun
  | succ count =>
    rcases describes_of_schemaOf found with ⟨opens, -⟩
    rcases opened_stored srv isLocal stored opens with ⟨s, opened⟩
    have fresh : Streaming.At (Handle.file srv) d 0 (.fresh (pf.freshReader content, s)) :=
      Streaming.at_fresh s rfl decoded rfl rfl rfl
    rw [groupsAsked_opened opened.yields count]
    have before := (fresh.takeRows (count + 1)).1
    rwa [Nat.zero_add] at before

end

end RowFile
end RowReader
