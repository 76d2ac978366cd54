import RowReader.Proofs.Reader.Limit
import RowReader.Proofs.RowFile.Rows

/-!
# Row files with a size limit

A size limit is no matter of opening a file.  The rows that are pulled under a limit are those that
are pulled without it, up to the first group that is larger: there they end with an error, and the
decoder is not asked for this group.  So a tighter limit can only make an end come earlier.
-/

namespace RowReader

open RowReader.Action

variable {ω : Type}

theorem Options.positive_of_none {limit : Int} (limited : none = some limit) : 0 < limit := by
  cases limited

/-- The same options without a limit. -/
def Options.unlimited (options : Options) : Options :=
  { options with maxRowGroupBytes := none, limit_pos := fun _ => positive_of_none }

/-- The same options with this limit. -/
def Options.limitedTo (limit : Int) (positive : 0 < limit) (options : Options) : Options :=
  { options with
    maxRowGroupBytes := some limit
    limit_pos := fun _ limited => Option.some.inj limited ▸ positive }

theorem Options.tighter_unlimited {limit : Int} (positive : 0 < limit) (options : Options) :
    Tighter limit options.unlimited (options.limitedTo limit positive) :=
  ⟨rfl, rfl, nofun⟩

theorem Options.tighter_wider {limit wider : Int} (positive : 0 < limit) (positive' : 0 < wider)
    (no_looser : limit ≤ wider) (options : Options) :
    Tighter limit (options.limitedTo wider positive') (options.limitedTo limit positive) :=
  ⟨rfl, rfl, fun _ limited => Option.some.inj limited ▸ no_looser⟩

/-- Whether a location opens, and the file that is open then, is no matter of the options. -/
theorem World.openReader_alike (srv : Server ω) (location : Location) (w : World ω) :
    (∃ e w', ∀ options, Yields (openReader srv location options) w (.error e) w') ∨
    ∃ front decoding w₀ handle w', Yields (acquire srv location) w (.ok (front, decoding)) w₀ ∧
      ∀ options, Yields (openReader srv location options) w
        (.ok ({ name := location.name, options, decoding }, handle)) w' := by
  have acquired := yields_self (acquire srv location) w
  generalize (acquire srv location w).result = found at acquired
  generalize (acquire srv location w).state = w₀ at acquired
  rcases found with e | ⟨front, decoding⟩
  · exact Or.inl ⟨e, w₀, fun _ => acquired.bind_error⟩
  · have checked := yields_self (Handle.file srv).checkMagic (front, w₀)
    generalize ((Handle.file srv).checkMagic (front, w₀)).result = judged at checked
    generalize ((Handle.file srv).checkMagic (front, w₀)).state = both at checked
    cases judged with
    | ok size =>
      refine Or.inr ⟨front, decoding, w₀, both.1, both.2, acquired, fun options => ?_⟩
      exact acquired.bind (Reader.openFile_framed options decoding checked).holding
    | error e =>
      left
      cases reports : Reader.openingError? location.name e with
      | none =>
        refine ⟨e, both.2, fun options => acquired.bind ?_⟩
        exact (Reader.openFile_unreported options decoding checked reports).holding
      | some reported =>
        rcases lastly_error (α := Reader) reported
          (Reader.tolerated Fault.isSystem ((Handle.file srv).close both).result) with ⟨f, failed⟩
        refine ⟨f, ((Handle.file srv).close both).state.2, fun options => acquired.bind ?_⟩
        have ends := Reader.openFile_reported options decoding checked reports
        rw [failed] at ends
        exact ends.holding

namespace RowFile

/-! ## Rows that are taken from a shorter batch -/

section

variable {σ σ' τ τ' : Type} {count : Nat} {batch : Batch σ} {other : Batch σ'} {taken : Batch τ}
  {taken' : Batch τ'}

/-- From a batch that fails before the other one has delivered all, the same rows are taken until it
fails. -/
theorem TakenFrom.cut {more : List Row} {e : Error} (from_batch : TakenFrom count batch taken)
    (from_other : TakenFrom count other taken') (rows : batch.rows = other.rows ++ more)
    (failed : other.ending = .failed e) :
    taken'.rows = taken.rows.take other.rows.length ∧
      (count ≤ other.rows.length → taken'.ending = .more) ∧
      (other.rows.length < count → taken'.ending = .failed e.outOfIteration) := by
  refine ⟨?_, from_other.within, ?_⟩
  · have least : min other.rows.length count = min count other.rows.length := Nat.min_comm _ _
    rw [from_batch.rows, from_other.rows, rows, List.take_take,
      List.take_append_of_le_length (Nat.min_le_left _ _), least, ← List.take_eq_take_min]
  · intro beyond
    rw [from_other.beyond beyond, failed]
    rfl

end

/-! ## One file under several limits -/

section

variable {srv : Server ω} {pf : RowFile} {w w' : World ω} {e : Error}
  (failed : Yields (pf.openReader srv) w (.error e) w')

include failed

theorem groupsAsked_unopened (count : Nat) : pf.groupsAsked srv w count = [] := by
  rcases failed.outcome with ⟨log, answer⟩
  cases count with
  | zero => rfl
  | succ count => simp only [groupsAsked, answer]

theorem rows_unopened (count : Nat) :
    let taken := takeRows (RowStream.next srv pf) count (.unopened, w)
    taken.rows = [] ∧ taken.ending = if count = 0 then .more else .failed e.outOfIteration := by
  cases count with
  | zero => exact ⟨rfl, rfl⟩
  | succ count =>
    rcases RowStream.takeRows_unopened srv pf failed count with ⟨rows, ending, -⟩
    exact ⟨rows, ending⟩

end

/-- The groups of the file at the location; there are none if it cannot be opened. -/
def groupsAt (srv : Server ω) (pf : RowFile) (w : World ω) : List StoredGroup :=
  match (World.acquire srv pf.location w).result with
  | .ok (_, decoding) => decoding.groups
  | .error _ => []

/-- The row file with other options. -/
def tuned (options : Options) (pf : RowFile) : RowFile := { pf with options }

/-- The reader that opens with these options. -/
def readerWith (pf : RowFile) (decoding : Decoding) (options : Options) : Reader :=
  { name := pf.location.name, options, decoding }

/-- Whatever the options are, the row file opens the same file. -/
structure OpensAlike (srv : Server ω) (pf : RowFile) (w : World ω) (decoding : Decoding)
    (handle : Handle) (w' : World ω) : Prop where
  closable : Reader.Closable decoding
  groups : pf.groupsAt srv w = decoding.groups
  opened : ∀ options, Yields ((pf.tuned options).openReader srv) w
    (.ok (pf.readerWith decoding options, handle)) w'

/-- A row file opens with all options or with none. -/
theorem opensAlike_or (srv : Server ω) (pf : RowFile) (w : World ω)
    (closable : ∀ handle decoding w', Yields (World.acquire srv pf.location) w
      (.ok (handle, decoding)) w' → Reader.Closable decoding) :
    (∃ e w', ∀ options, Yields ((pf.tuned options).openReader srv) w (.error e) w') ∨
      ∃ decoding handle w', OpensAlike srv pf w decoding handle w' := by
  have noted := yields_note .debug .container ("Opening " ++ pf.location.name) w
  rcases World.openReader_alike srv pf.location w
    with ⟨e, w', failed⟩ | ⟨front, decoding, w₀, handle, w', acquired, opened⟩
  · exact Or.inl ⟨e, w', fun options => noted.bind (failed options)⟩
  · refine Or.inr ⟨decoding, handle, w', closable _ _ _ acquired, ?_, ?_⟩
    · rw [groupsAt, acquired.result]
    · exact fun options => noted.bind (opened options)

section

variable {srv : Server ω} {pf : RowFile} {w w' : World ω} {decoding : Decoding} {handle : Handle}
  (alike : OpensAlike srv pf w decoding handle w')

/-- What is delivered under these options. -/
def owedWith (srv : Server ω) (pf : RowFile) (decoding : Decoding) (handle : Handle) (w' : World ω)
    (options : Options) : Batch (Reader × Handle × World ω) :=
  (Streaming.fresh (pf.readerWith decoding options, handle, w')).owed (RowStream.source srv)

include alike

theorem OpensAlike.taken (options : Options) (count : Nat) :
    TakenFrom count (owedWith srv pf decoding handle w' options)
      (takeRows (RowStream.next srv (pf.tuned options)) count (.unopened, w)) :=
  takenFrom_owed (alike.opened options) rfl alike.closable count

/-- No more groups are asked for than for all rows. -/
theorem OpensAlike.asked_within (options : Options) (count : Nat) :
    (pf.tuned options).groupsAsked srv w count ⊆
      (owedWith srv pf decoding handle w' options).state.1.used.groups := by
  cases count with
  | zero => exact List.nil_subset _
  | succ count =>
    rw [groupsAsked_opened (alike.opened options) count]
    exact Streaming.asked_within (count + 1)

/-- Without a limit a group that is asked for at all is asked for once a row is wanted that lies
behind the groups before it. -/
theorem OpensAlike.asked_iff {options : Options} (unlimited : options.maxRowGroupBytes = none)
    {k : Nat} {stored : StoredGroup} (there : (pf.groupsAt srv w)[k]? = some stored)
    (asked : k ∈ (owedWith srv pf decoding handle w' options).state.1.used.groups) (count : Nat) :
    k ∈ (pf.tuned options).groupsAsked srv w count ↔
      StoredGroup.declaredRows ((pf.groupsAt srv w).take k) < count := by
  rw [alike.groups] at there ⊢
  cases decoding with
  | error e => cases there
  | ok d =>
    cases count with
    | zero => exact ⟨nofun, nofun⟩
    | succ count =>
      rw [groupsAsked_opened (alike.opened options) count]
      exact Streaming.asked_iff rfl rfl rfl rfl rfl unlimited asked (count + 1)

/-- The decoder is asked for no group that is larger than the limit. -/
theorem OpensAlike.asked_fits {options : Options} {limit : Int}
    (limited : options.maxRowGroupBytes = some limit) {i count : Nat}
    (asked : i ∈ (pf.tuned options).groupsAsked srv w count) :
    ∃ stored, (pf.groupsAt srv w)[i]? = some stored ∧ stored.bytes ≤ limit := by
  have onward := Streaming.owed_onward (Handle.file srv)
    (pf.readerWith decoding options, handle, w')
  rcases onward.asked i (alike.asked_within options count asked)
    with nothing | ⟨d, stored, decoded, there, fits⟩
  · cases nothing
  · rw [alike.groups]
    change decoding = .ok d at decoded
    subst decoded
    exact ⟨stored, there, Reader.limitExceeded?_eq_none_iff.mp fits limit limited⟩

/-- A tighter limit makes no difference, and no group that was asked for is larger.  Or it ends the
rows before the first group that is. -/
theorem OpensAlike.curbed {limit : Int} {wide tight : Options}
    (tighter : Options.Tighter limit wide tight) :
    let taken := fun options count =>
      takeRows (RowStream.next srv (pf.tuned options)) count (.unopened, w)
    let groups := pf.groupsAt srv w
    ((∀ count, (taken tight count).rows = (taken wide count).rows ∧
        (taken tight count).ending = (taken wide count).ending) ∧
      ∀ i count, i ∈ (pf.tuned wide).groupsAsked srv w count →
        ∃ stored, groups[i]? = some stored ∧ stored.bytes ≤ limit) ∨
    ∃ k stored, StoredGroup.FirstOver limit groups 0 k stored ∧
      let before := StoredGroup.declaredRows (groups.take k)
      (taken wide before).rows.length = before ∧
      (∀ count, (taken tight count).rows = (taken wide count).rows.take before ∧
        (count ≤ before → (taken tight count).ending = .more) ∧
        (before < count → (taken tight count).ending =
          .failed (.rowGroupTooLarge k pf.location.name stored.bytes limit))) ∧
      (wide.maxRowGroupBytes = none → ∀ count,
        k ∈ (pf.tuned wide).groupsAsked srv w count ↔ before < count) := by
  intro taken groups
  have curbed := Streaming.owed_curbed (Handle.file srv) (r := pf.readerWith decoding wide)
    (handle, w') rfl rfl tighter
  have same : groups = decoding.groups := alike.groups
  change Reader.Curbed limit decoding.groups _ (owedWith srv pf decoding handle w' wide)
    (owedWith srv pf decoding handle w' tight) at curbed
  rw [← same] at curbed
  cases curbed with
  | alike rows ending within =>
    refine Or.inl ⟨fun count => (alike.taken wide count).same (alike.taken tight count) rows ending, ?_⟩
    intro i count asked
    rcases within i (alike.asked_within wide count asked) with nothing | fits
    · cases nothing
    · exact fits
  | @cut k stored more first rows before ending asked =>
    refine Or.inr ⟨k, stored, first, ?_⟩
    intro before'
    change (owedWith srv pf decoding handle w' tight).rows.length = before' at before
    refine ⟨?_, ?_, ?_⟩
    · rw [(alike.taken wide before').rows, rows, ← before, List.take_left]
    · intro count
      have cut := (alike.taken wide count).cut (alike.taken tight count) rows ending
      rwa [before] at cut
    · intro unlimited
      exact alike.asked_iff unlimited first.next (asked unlimited)

end

/-- A limit only truncates what is read without it, as long as the decoder can be closed.  If no group
is larger, or none that is asked for, it makes no difference.  Otherwise the rows are those of the
groups before the first that is larger, and then an error comes in place of this group, whatever it
holds.  So the rows under a tighter limit are the first of those under a looser one. -/
theorem limit_only_truncates (srv : Server ω) (pf : RowFile) (w : World ω) {limit : Int}
    (positive : 0 < limit)
    (closable : ∀ handle decoding w', Yields (World.acquire srv pf.location) w
      (.ok (handle, decoding)) w' → Reader.Closable decoding) :
    let unlimited := pf.tuned pf.options.unlimited
    let limited := pf.tuned (pf.options.limitedTo limit positive)
    let taken := fun (q : RowFile) count =>
      takeRows (RowStream.next srv q) count (.unopened, w)
    let groups := pf.groupsAt srv w
    let tooLarge? := groups.findIdx? fun stored => limit < stored.bytes
    ((∀ k n, tooLarge? = some k → k ∉ unlimited.groupsAsked srv w n) →
      ∀ count, (taken limited count).rows = (taken unlimited count).rows ∧
        (taken limited count).ending = (taken unlimited count).ending) ∧
    (∀ k n, tooLarge? = some k → k ∈ unlimited.groupsAsked srv w n →
      let before := StoredGroup.declaredRows (groups.take k)
      (∀ count, k ∈ unlimited.groupsAsked srv w count ↔ before < count) ∧
      (taken unlimited before).rows.length = before ∧
      ∃ stored, groups[k]? = some stored ∧
        ∀ count, (taken limited count).rows = (taken unlimited count).rows.take before ∧
          (count ≤ before → (taken limited count).ending = .more) ∧
          (before < count → (taken limited count).ending =
            .failed (.rowGroupTooLarge k pf.location.name stored.bytes limit)) ∧
          k ∉ limited.groupsAsked srv w count) ∧
    ∀ wider (no_looser : limit ≤ wider) count,
      let other := pf.tuned (pf.options.limitedTo wider (Int.lt_of_lt_of_le positive no_looser))
      (taken limited count).rows <+: (taken other count).rows := by
  intro unlimited limited taken groups tooLarge?
  have tighter := Options.tighter_unlimited positive pf.options
  -- Opening does not look at the limit, so it fails under all of them or under none.
  rcases opensAlike_or srv pf w closable with ⟨e, w', failed⟩ | ⟨decoding, handle, w', alike⟩
  · have rows : ∀ options count, (taken (pf.tuned options) count).rows = [] :=
      fun options count => (rows_unopened (failed options) count).1
    refine ⟨?_, ?_, ?_⟩
    · intro _ count
      rw [rows, rows]
      refine ⟨rfl, ?_⟩
      exact (rows_unopened (failed _) count).2.trans (rows_unopened (failed _) count).2.symm
    · intro k n _ asked
      rw [groupsAsked_unopened (failed _)] at asked
      cases asked
    · intro wider no_looser count other
      rw [rows]
      exact List.nil_prefix
  · refine ⟨?_, ?_, ?_⟩
    · intro unasked
      rcases alike.curbed tighter with ⟨same, -⟩ | ⟨k, stored, first, -, -, asked⟩
      · exact same
      · have last := (asked rfl _).mpr (Nat.lt_succ_self _)
        exact absurd last (unasked k _ first.findIdx?)
    · intro k n found asked before
      rcases alike.curbed tighter with ⟨-, fits⟩ | ⟨k', stored, first, length, cut, asks⟩
      · rcases fits k n asked with ⟨stored, there, within⟩
        exact absurd within (StoredGroup.larger_of_findIdx? found there)
      · cases found.symm.trans first.findIdx?
        refine ⟨asks rfl, length, stored, first.next, fun count => ?_⟩
        rcases cut count with ⟨rows, going, stopped⟩
        refine ⟨rows, going, stopped, ?_⟩
        intro also
        rcases alike.asked_fits rfl also with ⟨other, there, within⟩
        exact absurd within (StoredGroup.larger_of_findIdx? found there)
    · intro wider no_looser count other
      have tighter' := Options.tighter_wider positive
        (Int.lt_of_lt_of_le positive no_looser) no_looser pf.options
      rcases alike.curbed tighter' with ⟨same, -⟩ | ⟨k, stored, first, -, cut, -⟩
      · exact ⟨[], (List.append_nil _).trans (same count).1⟩
      · have rows : (taken limited count).rows = (taken other count).rows.take _ := (cut count).1
        rw [rows]
        exact List.take_prefix _ _

/-! ## A file with a swollen group -/

/-- The second of three groups is large, and its pages are broken. -/
def swollen : DecodedFile where
  leaves := .ok [⟨"n", "INT64", "None", 0, 0⟩]
  fields := [⟨"n", "int64", false⟩]
  rows := 4
  groups := [
    { rows := 2, bytes := 10, table := .ok ⟨2, [⟨"n", .ok #[.int 1, .int 2]⟩]⟩ },
    { rows := 1, bytes := 200, table := .error (.fault ⟨.value, "bad page"⟩) },
    { rows := 1, bytes := 10, table := .ok ⟨1, [⟨"n", .ok #[.int 3]⟩]⟩ }]

def swollenWorld : World Unit where
  files :=
    { entries := [(["swollen"], .file
        { bytes := magic ++ [0] ++ littleEndianBytes 4 1 ++ magic, decoding := .ok swollen })] }
  server := ()
  remote := .error .notAUrl

def swollenFile : RowFile where
  location := .path "swollen"

/-- Under a limit of 100 the two rows of the first group are all there are, and the broken group is
not tried. -/
theorem limit_only_truncates_of_swollen :
    let unlimited := swollenFile.tuned swollenFile.options.unlimited
    let limited := swollenFile.tuned (swollenFile.options.limitedTo 100 (by decide))
    let taken := fun (pf : RowFile) count =>
      takeRows (RowStream.next Server.unreachable pf) count (.unopened, swollenWorld)
    (taken unlimited 2).rows.length = 2 ∧
      (taken limited 3).rows = (taken unlimited 3).rows.take 2 ∧
      (taken limited 2).ending = .more ∧
      (taken limited 3).ending = .failed (.rowGroupTooLarge 1 "swollen" 200 100) ∧
      1 ∈ unlimited.groupsAsked Server.unreachable swollenWorld 3 ∧
      1 ∉ limited.groupsAsked Server.unreachable swollenWorld 3 := by
  intro unlimited limited taken
  have found : Yields (World.acquire Server.unreachable swollenFile.location) swollenWorld _ _ :=
    World.acquire_stored Server.unreachable rfl rfl
  have closable : ∀ handle decoding w', Yields (World.acquire Server.unreachable
      swollenFile.location) swollenWorld (.ok (handle, decoding)) w' → Reader.Closable decoding := by
    intro handle decoding w' acquired
    cases acquired.result.symm.trans found.result
    rintro _ ⟨⟩ e raised
    cases raised
  have groups : swollenFile.groupsAt Server.unreachable swollenWorld = swollen.groups := by
    rw [groupsAt, found.result]
    rfl
  have asked : 1 ∈ unlimited.groupsAsked Server.unreachable swollenWorld 3 := by decide +kernel
  have positive : (0 : Int) < 100 := by decide
  have truncated := limit_only_truncates Server.unreachable swollenFile swollenWorld positive closable
  rw [groups] at truncated
  rcases truncated.2.1 1 3 (by decide) asked with ⟨-, length, stored, there, cut⟩
  cases there
  exact ⟨length, (cut 3).1, (cut 2).2.1 (Nat.le_refl _), (cut 3).2.2.1 (Nat.lt_succ_self _), asked,
    (cut 3).2.2.2⟩

end RowFile
end RowReader
