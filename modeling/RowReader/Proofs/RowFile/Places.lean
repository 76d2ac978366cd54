import RowReader.Proofs.Reader.Twins
import RowReader.Proofs.Remote.Scripted
import RowReader.Proofs.RowFile.Opening
import RowReader.Proofs.World.Ranged

/-!
# One file at two places

The same bytes may be found at two places, in a local file and behind a server for instance.  Where
both places are honest, no call can tell them apart but by the names in messages: both row files
open or both fail to, their readers are twins, and twins read the same.
-/

namespace RowReader

open RowReader.Action
open RowReader.Error (SameClass)

variable {ω ω' α : Type}

namespace RowFile

section

variable {srv : Server ω} {srv' : Server ω'} {pf pf' : RowFile} {w : World ω} {w' : World ω'}
  {content : Content} {stands : Nat → Handle × World ω → Prop}
  {stands' : Nat → Handle × World ω' → Prop}

/-- The readers of two row files are twins if these ask for the same. -/
abbrev Readers (stands : Nat → Handle × World ω → Prop) (stands' : Nat → Handle × World ω' → Prop) :
    Reader × Handle × World ω → Reader × Handle × World ω' → Prop :=
  Reader.Twins (fun s => ∃ p, stands p s) fun s => ∃ p, stands' p s

/-- Both row files fail to open with the same error, or both open, and their readers are twins. -/
theorem openReader_alike (leads : Leads srv pf.location w content stands)
    (leads' : Leads srv' pf'.location w' content stands') (options : pf'.options = pf.options) :
    (∃ e v v', Yields (pf.openReader srv) w (.error e) v ∧
      Yields (pf'.openReader srv') w' (.error e) v') ∨
    trailerSize ≤ content.bytes.length ∧ ∃ reader handle v reader' handle' v',
      Yields (pf.openReader srv) w (.ok (reader, handle)) v ∧
      Yields (pf'.openReader srv') w' (.ok (reader', handle')) v' ∧
      Readers stands stands' (reader, handle, v) (reader', handle', v') := by
  rcases openReader_yields leads with ⟨p, handle, v, there, opens⟩
  rcases openReader_yields leads' with ⟨p', handle', v', there', opens'⟩
  cases judged : magicCheck content.bytes with
  | error e =>
    left
    rw [judged] at opens opens'
    exact ⟨e, _, _, opens, opens'⟩
  | ok size =>
    right
    rw [judged] at opens opens'
    refine ⟨trailerSize_le_of_magicCheck judged, _, _, _, _, _, _, opens, opens',
      ⟨pf'.location.name, {}, ?_⟩, rfl, ⟨p, there⟩, ⟨p', there'⟩⟩
    simp only [freshReader, options]

/-- What is done alike with twin readers has corresponding results. -/
theorem withReader_alike (leads : Leads srv pf.location w content stands)
    (leads' : Leads srv' pf'.location w' content stands') (options : pf'.options = pf.options)
    {use : Action (Reader × Handle × World ω) α} {use' : Action (Reader × Handle × World ω') α}
    (alike : trailerSize ≤ content.bytes.length → ∀ {both both'}, Readers stands stands' both both' →
      Reader.EndAlike (fun s => ∃ p, stands p s) (fun s => ∃ p, stands' p s) (use both)
        (use' both')) :
    Corresponds SameClass Eq (pf.withReader srv use w).result (pf'.withReader srv' use' w').result := by
  rcases openReader_alike leads leads' options with ⟨e, v, v', failed, failed'⟩ |
    ⟨room, reader, handle, v, reader', handle', v', opened, opened', twins⟩
  · rw [(withReader_unopened failed).result, (withReader_unopened failed').result]
    exact .error (.refl e)
  · have ends := alike room twins
    have closes := Reader.close_twins (leads.honest.settled room) (leads'.honest.settled room) ends.2
    rw [(withReader_opened opened (yields_self use _) (yields_self _ _)).result,
      (withReader_opened opened' (yields_self use' _) (yields_self _ _)).result]
    exact ends.1.lastly closes

theorem readSchema_alike (leads : Leads srv pf.location w content stands)
    (leads' : Leads srv' pf'.location w' content stands') (options : pf'.options = pf.options)
    (unknown : pf.schema = none) (unknown' : pf'.schema = none) :
    Corresponds SameClass Eq (readSchema srv (pf, w)).result (readSchema srv' (pf', w')).result := by
  rw [(readSchema_learned unknown (yields_self _ w)).result,
    (readSchema_learned unknown' (yields_self _ w')).result]
  apply withReader_alike leads leads' options
  intro room both both' twins
  exact Reader.readSchema_twins (leads.honest.settled room) (leads'.honest.settled room) twins

/-- What only depends on the footer is the same at both places. -/
theorem withFooter_alike (leads : Leads srv pf.location w content stands)
    (leads' : Leads srv' pf'.location w' content stands') (options : pf'.options = pf.options)
    (part : DecodedFile → α) :
    Corresponds SameClass Eq
      (pf.withReader srv (part <$> Reader.footer (Handle.file srv)) w).result
      (pf'.withReader srv' (part <$> Reader.footer (Handle.file srv')) w').result := by
  apply withReader_alike leads leads' options
  intro room both both' twins
  rcases Reader.footer_twins (leads.honest.settled room) (leads'.honest.settled room) twins
    with ⟨q, q', t, t', answers, after, found, found'⟩
  exact Reader.endAlike_of_yields (found.map part) (found'.map part)
    (answers.map fun _ _ => congrArg part) after

theorem read_alike (leads : Leads srv pf.location w content stands)
    (leads' : Leads srv' pf'.location w' content stands') (options : pf'.options = pf.options) :
    Corresponds SameClass Eq (pf.read srv w).result (pf'.read srv' w').result := by
  rcases openReader_alike leads leads' options with ⟨e, v, v', failed, failed'⟩ |
    ⟨room, reader, handle, v, reader', handle', v', opened, opened', twins⟩
  · rw [(read_unopened failed).result, (read_unopened failed').result]
    exact .error (.refl e)
  · have matched := Reader.source_matches (leads.honest.settled room) (leads'.honest.settled room)
    rw [(read_opened opened (yields_self _ _)).result, (read_opened opened' (yields_self _ _)).result]
    exact (matched.materialize twins).1

/-- However many rows are pulled, they are the same at both places up to matching ends. -/
theorem rows_alike (leads : Leads srv pf.location w content stands)
    (leads' : Leads srv' pf'.location w' content stands') (options : pf'.options = pf.options)
    (count : Nat) :
    let taken := takeRows (RowStream.next srv pf) count (.unopened, w)
    let taken' := takeRows (RowStream.next srv' pf') count (.unopened, w')
    taken.rows = taken'.rows ∧ taken.ending.Matches SameClass taken'.ending := by
  intro taken taken'
  cases count with
  | zero => exact ⟨rfl, .more⟩
  | succ count =>
    rcases openReader_alike leads leads' options with ⟨e, v, v', failed, failed'⟩ |
      ⟨room, reader, handle, v, reader', handle', v', opened, opened', twins⟩
    · rcases RowStream.takeRows_unopened srv pf failed count with ⟨rows, ending, -⟩
      rcases RowStream.takeRows_unopened srv' pf' failed' count with ⟨rows', ending', -⟩
      simp only [taken, taken', rows, ending, rows', ending']
      exact ⟨trivial, .failed (.refl _)⟩
    · have matched := Reader.source_matches (leads.honest.settled room) (leads'.honest.settled room)
      have outer := RowStream.takeRows_opened srv pf opened count
      have outer' := RowStream.takeRows_opened srv' pf' opened' count
      have same := (Streaming.alike_fresh twins).takeRows matched (Streaming.fresh_live _) (count + 1)
      simp only [Batch.told, Batch.mapState, Prod.mk.injEq] at outer outer'
      simp only [taken, taken', outer, outer']
      exact ⟨same.1, same.2.1⟩

end

/-! ## Behind a server and in a local file -/

theorem leads_ranged {srv : Server ω} {url : String} {w : World ω} {content : Content}
    {good : ω → Prop} (named : Remote.isUrl url = true)
    (holds : srv.Holds url content.bytes .faithful good) (here : good w.server)
    (decoded : w.remote = content.decoding) :
    Leads srv (.text url) w content (Handle.RangedAt url content.bytes good) where
  honest := Handle.ranged_honest holds
  acquired := decoded ▸ World.acquire_ranged holds named here

/-- A row file behind a server that faithfully serves the bytes of a local file, with the same
decoded view, is read as this local file is.  Its schema, all of its rows, its counts and the rows of
a stream are the same, or errors of the same class come in their place, after the same rows. -/
theorem remote_as_local {srv : Server ω} (srv' : Server ω') {url : String} {path : Location}
    {v : World ω} {w : World ω'} {content : Content} {good : ω → Prop}
    (named : Remote.isUrl url = true) (holds : srv.Holds url content.bytes .faithful good)
    (here : good v.server) (decoded : v.remote = content.decoding)
    (isLocal : path.url? = none) (stored : w.files.read path.name = .ok content)
    (options : Options) :
    let far : RowFile := { location := .text url, options }
    let near : RowFile := { location := path, options }
    let farRows := fun count => takeRows (RowStream.next srv far) count (.unopened, v)
    let nearRows := fun count => takeRows (RowStream.next srv' near) count (.unopened, w)
    Corresponds SameClass Eq (readSchema srv (far, v)).result (readSchema srv' (near, w)).result ∧
    Corresponds SameClass Eq (far.read srv v).result (near.read srv' w).result ∧
    Corresponds SameClass Eq (far.numRows srv v).result (near.numRows srv' w).result ∧
    Corresponds SameClass Eq (far.numRowGroups srv v).result (near.numRowGroups srv' w).result ∧
    (∃ count, (farRows count).ending ≠ .more) ∧
    ∀ count, (farRows count).rows = (nearRows count).rows ∧
      (farRows count).ending.Matches SameClass (nearRows count).ending := by
  intro far near farRows nearRows
  have leads : Leads srv far.location v content _ := leads_ranged named holds here decoded
  have leads' : Leads srv' near.location w content _ := leads_local srv' isLocal stored
  refine ⟨readSchema_alike leads leads' rfl rfl rfl, read_alike leads leads' rfl,
    withFooter_alike leads leads' rfl DecodedFile.rows,
    withFooter_alike leads leads' rfl fun d => d.groups.length, RowStream.takeRows_ends srv far v, ?_⟩
  exact rows_alike leads leads' rfl

/-! ## A torn file at both places -/

/-- Two row groups, of which the pages of the second are broken. -/
def torn : Content where
  bytes := magic ++ [0] ++ littleEndianBytes 4 1 ++ magic
  decoding := .ok
    { leaves := .ok [⟨"id", "INT64", "None", 0, 0⟩]
      fields := [⟨"id", "int64", false⟩]
      rows := 2
      groups := [{ rows := 1, bytes := 10, table := .ok ⟨1, [⟨"id", .ok #[.int 7]⟩]⟩ },
        { rows := 1, bytes := 10, table := .error (.fault ⟨.decoder .invalid, "bad page"⟩) }] }

def tornNearby : World Unit where
  files := { entries := [(["torn"], .file torn)] }
  server := ()
  remote := .error .notAUrl

def tornFarAway : World ScriptedServer where
  files := {}
  server := { data := some torn.bytes }
  remote := torn.decoding

theorem tornFarAway_keeps : tornFarAway.server.Keeps torn.bytes .faithful where
  data := rfl
  statedRange := rfl
  faults := fun _ member => absurd member List.not_mem_nil

/-- The torn file has the same schema and counts at both places, and its rows come up to the same
broken group. -/
theorem remote_as_local_of_torn :
    let far : RowFile := { location := .text "http://files/torn" }
    let near : RowFile := { location := .path "torn" }
    let farRows := fun count =>
      takeRows (RowStream.next ScriptedServer.server far) count (.unopened, tornFarAway)
    let nearRows := fun count =>
      takeRows (RowStream.next Server.unreachable near) count (.unopened, tornNearby)
    (readSchema ScriptedServer.server (far, tornFarAway)).result =
      .ok [⟨"id", "int64", some .int64, none, .required⟩] ∧
    (far.numRows ScriptedServer.server tornFarAway).result = .ok 2 ∧
    (far.numRowGroups ScriptedServer.server tornFarAway).result = .ok 2 ∧
    Corresponds SameClass Eq (far.read ScriptedServer.server tornFarAway).result
      (near.read Server.unreachable tornNearby).result ∧
    ∀ count, (farRows count).rows = (nearRows count).rows ∧
      (farRows count).ending.Matches SameClass (nearRows count).ending := by
  have held := ScriptedServer.holds "http://files/torn" torn.bytes .faithful rfl
  have isLocal : (Location.path "torn").url? = none := rfl
  have stored : tornNearby.files.read (Location.path "torn").name = .ok torn := rfl
  rcases remote_as_local Server.unreachable rfl held tornFarAway_keeps rfl isLocal stored
      Options.standard with ⟨schema, all, rows, groups, -, streamed⟩
  exact ⟨schema.ok_of rfl, rows.ok_of rfl, groups.ok_of rfl, all, streamed⟩

end RowFile
end RowReader
