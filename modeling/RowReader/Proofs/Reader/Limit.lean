import RowReader.Proofs.Reader.Onward

/-!
# The size limit of row groups

A reader refuses a group that is larger than its limit and does not ask the decoder for it.  Two
readers of one file of which one has the tighter limit deliver the same rows of the groups that are
within it, and fail alike in them.  At the first group that is larger, the reader with the tighter
limit stops with an error, whatever this group holds.
-/

namespace RowReader

open RowReader.Action

variable {φ : Type}

/-- These options choose the same columns as the others and have this limit, which is no looser. -/
structure Options.Tighter (limit : Int) (wide tight : Options) : Prop where
  columns : tight.columns = wide.columns
  limited : tight.maxRowGroupBytes = some limit
  tighter : ∀ other, wide.maxRowGroupBytes = some other → limit ≤ other

/-- The first group from a position on that is larger than the limit. -/
structure StoredGroup.FirstOver (limit : Int) (groups : List StoredGroup) (start k : Nat)
    (stored : StoredGroup) : Prop where
  behind : start ≤ k
  next : groups[k]? = some stored
  larger : limit < stored.bytes
  fits : ∀ j other, start ≤ j → j < k → groups[j]? = some other → other.bytes ≤ limit

/-- The first group from behind one that fits is the first from that one on. -/
theorem StoredGroup.FirstOver.earlier {limit : Int} {groups : List StoredGroup} {start k : Nat}
    {stored other : StoredGroup} (first : FirstOver limit groups (start + 1) k stored)
    (next : groups[start]? = some other) (fits : other.bytes ≤ limit) :
    FirstOver limit groups start k stored where
  behind := Nat.le_of_succ_le first.behind
  next := first.next
  larger := first.larger
  fits := by
    intro j another from_start before there
    rcases Nat.eq_or_lt_of_le from_start with rfl | later
    · rw [next] at there
      cases there
      exact fits
    · exact first.fits j another later before there

theorem StoredGroup.FirstOver.findIdx? {limit : Int} {groups : List StoredGroup} {k : Nat}
    {stored : StoredGroup} (first : FirstOver limit groups 0 k stored) :
    groups.findIdx? (fun stored => limit < stored.bytes) = some k := by
  rcases List.getElem?_eq_some_iff.mp first.next with ⟨within, same⟩
  rw [List.findIdx?_eq_some_iff_getElem]
  refine ⟨within, ?_, ?_⟩
  · rw [same]
    exact decide_eq_true first.larger
  · intro j before larger
    have inside := Nat.lt_trans before within
    have fits := first.fits j groups[j] (Nat.zero_le j) before (List.getElem?_eq_getElem inside)
    exact absurd (of_decide_eq_true larger) (Int.not_lt.mpr fits)

theorem StoredGroup.larger_of_findIdx? {limit : Int} {groups : List StoredGroup} {k : Nat}
    {stored : StoredGroup}
    (found : groups.findIdx? (fun stored => limit < stored.bytes) = some k)
    (there : groups[k]? = some stored) : ¬ stored.bytes ≤ limit := by
  rcases List.findIdx?_eq_some_iff_getElem.mp found with ⟨within, larger, -⟩
  rcases List.getElem?_eq_some_iff.mp there with ⟨_, rfl⟩
  exact Int.not_le.mpr (of_decide_eq_true larger)

/-- The rows that are declared from a group up to another include those of this group. -/
theorem StoredGroup.declaredRows_between {groups : List StoredGroup} {start k : Nat}
    {stored : StoredGroup} (next : groups[start]? = some stored) (behind : start < k) :
    declaredRows ((groups.drop start).take (k - start)) =
      stored.rows.toNat + declaredRows ((groups.drop (start + 1)).take (k - (start + 1))) := by
  rcases List.getElem?_eq_some_iff.mp next with ⟨within, rfl⟩
  have one : k - start = (k - (start + 1)) + 1 := by omega
  rw [List.drop_eq_getElem_cons within, one, List.take_succ_cons, declaredRows_cons]

/-- The groups behind a footer; there are none if it cannot be read. -/
def Decoding.groups : Decoding → List StoredGroup
  | .ok d => d.groups
  | .error _ => []

namespace Reader

/-- The reader with other options. -/
def tuned (options : Options) (r : Reader) : Reader := { r with options }

variable {file : ByteFile φ} {d : DecodedFile} {r : Reader} {s : φ} {limit : Int}
  {wide tight : Options} {stored : StoredGroup} {schema : Schema}

/-! ## One group -/

theorem Informed.tuned (informed : Informed d r) (options : Options) :
    Informed d (r.tuned options) :=
  ⟨informed.isOpen, informed.decoded, informed.known⟩

section

variable (tighter : Options.Tighter limit wide tight)

include tighter

theorem limitExceeded?_larger (larger : limit < stored.bytes) :
    limitExceeded? tight stored = some limit :=
  Option.filter_eq_some_iff.mpr ⟨tighter.limited, decide_eq_true larger⟩

theorem limitExceeded?_within (fits : stored.bytes ≤ limit) :
    limitExceeded? wide stored = none ∧ limitExceeded? tight stored = none := by
  rw [limitExceeded?_eq_none_iff, limitExceeded?_eq_none_iff]
  constructor
  · intro other limited
    exact Int.le_trans fits (tighter.tighter other limited)
  · intro other limited
    rw [tighter.limited] at limited
    cases limited
    exact fits

end

/-- A group within both limits is handed out alike. -/
theorem grouping_tuned (tighter : Options.Tighter limit r.options tight)
    (fits : stored.bytes ≤ limit) (index : Nat) :
    (r.tuned tight).grouping index stored = r.grouping index stored := by
  rcases limitExceeded?_within tighter fits with ⟨first, second⟩
  have same : (r.tuned tight).options = tight := rfl
  rw [grouping, grouping, same, first, second]
  simp only [decodeGroup, tuned, tighter.columns]

theorem behindGroup_tuned (tighter : Options.Tighter limit r.options tight)
    (fits : stored.bytes ≤ limit) :
    (r.tuned tight).behindGroup stored = (r.behindGroup stored).tuned tight := by
  rcases limitExceeded?_within tighter fits with ⟨first, second⟩
  simp [behindGroup, taking, tuned, first, second]

/-! ## All groups -/

/-- What the tighter limit makes of a batch: nothing, if no group that was asked for is larger;
otherwise the batch ends before the first larger group. -/
inductive Curbed (limit : Int) (groups : List StoredGroup) (r : Reader)
    (wide tight : Batch (Reader × φ)) : Prop where
  | alike (rows : tight.rows = wide.rows) (ending : tight.ending = wide.ending)
      (within : ∀ i ∈ wide.state.1.used.groups, i ∈ r.used.groups ∨
        ∃ stored, groups[i]? = some stored ∧ stored.bytes ≤ limit)
  | cut {k : Nat} {stored : StoredGroup} (more : List Row)
      (first : StoredGroup.FirstOver limit groups r.cursor k stored)
      (rows : wide.rows = tight.rows ++ more)
      (count : tight.rows.length =
        StoredGroup.declaredRows ((groups.drop r.cursor).take (k - r.cursor)))
      (ending : tight.ending = .failed (.rowGroupTooLarge k r.name stored.bytes limit))
      (asked : r.options.maxRowGroupBytes = none → k ∈ wide.state.1.used.groups)

/-- Behind a group that fits, no larger group has been asked for than before it. -/
theorem fits_behindGroup {groups : List StoredGroup} (next : groups[r.cursor]? = some stored)
    (fits : stored.bytes ≤ limit) :
    ∀ i ∈ (r.behindGroup stored).used.groups, i ∈ r.used.groups ∨
      ∃ stored, groups[i]? = some stored ∧ stored.bytes ≤ limit := by
  intro i member
  rcases groups_behindGroup member with rfl | earlier
  · exact Or.inr ⟨stored, next, fits⟩
  · exact Or.inl earlier

/-- The rows of a group that fits come first in both batches. -/
theorem Curbed.behind {groups : List StoredGroup} {wide tight : Batch (Reader × φ)}
    (curbed : Curbed limit groups (r.behindGroup stored) wide tight)
    (next : groups[r.cursor]? = some stored) (fits : stored.bytes ≤ limit) {rows : List Row}
    (all : rows.length = stored.rows.toNat) (log log' : List LogLine) :
    Curbed limit groups r (wide.behind rows log) (tight.behind rows log') := by
  cases curbed with
  | alike same ending within =>
    refine .alike (congrArg (rows ++ ·) same) ending ?_
    intro i member
    rcases within i member with earlier | fits'
    · exact fits_behindGroup next fits i earlier
    · exact Or.inr fits'
  | @cut k other more first same count ending asked =>
    rcases behindGroup_eq r stored with ⟨cursor, name, options⟩
    rw [cursor] at first count
    rw [name] at ending
    rw [options] at asked
    refine .cut more (first.earlier next fits) ?_ ?_ ending asked
    · change rows ++ wide.rows = (rows ++ tight.rows) ++ more
      rw [same, List.append_assoc]
    · change (rows ++ tight.rows).length = _
      rw [List.length_append, count, all, StoredGroup.declaredRows_between next first.behind]

section

variable (informed : Informed d r) (next : d.groups[r.cursor]? = some stored)

include informed next

/-- At a group that is too large, the tighter reader stops. -/
theorem curbed_larger (file : ByteFile φ) (schema : Schema) (s : φ)
    (tighter : Options.Tighter limit r.options tight) (larger : limit < stored.bytes) :
    Curbed limit d.groups r ((source file).deliverGroups schema (r, s))
      ((source file).deliverGroups schema (r.tuned tight, s)) := by
  have refused : (r.tuned tight).grouping r.cursor stored =
      .error (.rowGroupTooLarge r.cursor r.name stored.bytes limit) := by
    have exceeded := limitExceeded?_larger tighter larger
    have same : (r.tuned tight).options = tight := rfl
    rw [grouping, same, exceeded]
    rfl
  rcases (informed.tuned tight).answered next file s with ⟨log, answer⟩
  change nextRowGroup file (r.tuned tight, s) = ⟨((r.tuned tight).grouping r.cursor stored).map some,
    _, log⟩ at answer
  rw [refused] at answer
  rw [Source.deliverGroups_refused (source file) schema answer]
  refine .cut _ ⟨Nat.le_refl _, next, larger, ?_⟩ (List.nil_append _).symm ?_ rfl ?_
  · intro j other from_cursor before
    exact absurd before (Nat.not_lt.mpr from_cursor)
  · rw [Nat.sub_self]
    rfl
  · intro unlimited
    have asked : r.cursor ∈ (r.behindGroup stored).used.groups := by
      rw [asked_behindGroup unlimited stored]
      exact List.mem_cons_self
    have isOpen := (informed.behind stored).isOpen
    rcases informed.answered next file s with ⟨log', answer'⟩
    rcases deliverGroups_alike file schema (r.grouping r.cursor stored)
      with ⟨rows, e, fails⟩ | ⟨g, rows, -, -, further⟩
    · rcases fails isOpen answer' with ⟨_, ended⟩
      rw [ended]
      exact asked
    · rcases further isOpen answer' with ⟨_, goes⟩
      rw [goes]
      exact (deliverGroups_onward file _ schema).kept asked

/-- A group within the limit makes no difference. -/
theorem curbed_within (file : ByteFile φ) (schema : Schema) (s : φ)
    (tighter : Options.Tighter limit r.options tight) (fits : stored.bytes ≤ limit)
    (later : Curbed limit d.groups (r.behindGroup stored)
      ((source file).deliverGroups schema (r.behindGroup stored, s))
      ((source file).deliverGroups schema ((r.behindGroup stored).tuned tight, s))) :
    Curbed limit d.groups r ((source file).deliverGroups schema (r, s))
      ((source file).deliverGroups schema (r.tuned tight, s)) := by
  rcases informed.answered next file s with ⟨log, answer⟩
  rcases (informed.tuned tight).answered next file s with ⟨log', answer'⟩
  rw [behindGroup_tuned tighter fits] at answer'
  change nextRowGroup file (r.tuned tight, s) = ⟨((r.tuned tight).grouping r.cursor stored).map some,
    _, log'⟩ at answer'
  rw [grouping_tuned tighter fits] at answer'
  have isOpen := (informed.behind stored).isOpen
  have isOpen' := ((informed.behind stored).tuned tight).isOpen
  rcases deliverGroups_alike file schema (r.grouping r.cursor stored)
    with ⟨rows, e, fails⟩ | ⟨g, rows, taken, all, further⟩
  · rcases fails isOpen answer with ⟨_, wide⟩
    rcases fails isOpen' answer' with ⟨_, tight⟩
    rw [wide, tight]
    exact .alike rfl rfl (fits_behindGroup next fits)
  · rcases further isOpen answer with ⟨_, wide⟩
    rcases further isOpen' answer' with ⟨_, tight⟩
    rw [numRows_of_grouping taken] at all
    rw [wide, tight]
    exact later.behind next fits all _ _

end

/-- A limit no looser than the reader's own cuts the rows before the first group that is larger. -/
theorem deliverGroups_curbed (file : ByteFile φ) (schema : Schema) (s : φ)
    (informed : Informed d r) (tighter : Options.Tighter limit r.options tight) :
    Curbed limit d.groups r ((source file).deliverGroups schema (r, s))
      ((source file).deliverGroups schema (r.tuned tight, s)) := by
  induction left : d.groups.drop r.cursor generalizing r with
  | nil =>
    have past : d.groups[r.cursor]? = none := List.getElem?_eq_none (List.drop_eq_nil_iff.mp left)
    rcases informed.exhausted past file s with ⟨log, answer⟩
    rcases (informed.tuned tight).exhausted past file s with ⟨log', answer'⟩
    rw [Source.deliverGroups_exhausted _ schema answer,
      Source.deliverGroups_exhausted _ schema answer']
    exact .alike rfl rfl fun _ => Or.inl
  | cons stored rest ih =>
    rcases drop_eq_cons left with ⟨next, others⟩
    rcases behindGroup_eq r stored with ⟨cursor, -, options⟩
    rcases Int.lt_or_le limit stored.bytes with larger | fits
    · exact curbed_larger informed next file schema s tighter larger
    · rw [← options] at tighter
      rw [← cursor] at others
      have later := ih (informed.behind stored) tighter others
      rw [options] at tighter
      exact curbed_within informed next file schema s tighter fits later

/-! ## A whole pass -/

theorem footerAnswer_tuned (r : Reader) (options : Options) (check : Except Error Nat) :
    (r.tuned options).footerAnswer check = r.footerAnswer check :=
  rfl

theorem afterFooter_tuned (r : Reader) (options : Options) (check : Except Error Nat) :
    (r.tuned options).afterFooter check = (r.afterFooter check).tuned options := by
  unfold afterFooter
  rw [footerAnswer_tuned]
  cases r.footerAnswer check <;> rfl

/-- The schema is no matter of the limit. -/
theorem schemaAnswer_tuned (columns : tight.columns = r.options.columns)
    (check : Except Error Nat) : (r.tuned tight).schemaAnswer check = r.schemaAnswer check := by
  unfold schemaAnswer
  rw [footerAnswer_tuned]
  congr 1
  funext d
  change d.allFields.mapError _ >>= (·.project tight.columns) = _
  rw [columns]
  rfl

/-- The readers differ in nothing but the limit, and so they do after the schema was read. -/
theorem readSchema_tuned (file : ByteFile φ) (s : φ) (isOpen : r.closed = false)
    (unknown : r.schema = none) (columns : tight.columns = r.options.columns) :
    Yields (readSchema file) (r.tuned tight, s) (r.schemaAnswer (file.checkFooter s).result)
      ({ r.afterFooter (file.checkFooter s).result with
          schema := (r.schemaAnswer (file.checkFooter s).result).toOption }.tuned tight,
        fileAfterFooter file (r, s)) := by
  have isOpen' : (r.tuned tight).closed = false := isOpen
  have read := readSchema_ends file s isOpen' unknown
  rw [schemaAnswer_tuned columns, afterFooter_tuned] at read
  exact read

end Reader

namespace Streaming

open Reader (Curbed)

variable {file : ByteFile φ} {r : Reader} {limit : Int} {tight : Options}

/-- What a new stream owes is curbed by a limit in the same way. -/
theorem owed_curbed (file : ByteFile φ) (s : φ) (isOpen : r.closed = false)
    (unknown : r.schema = none) (tighter : Options.Tighter limit r.options tight) :
    Curbed limit r.decoding.groups r ((fresh (r, s)).owed (Reader.source file))
      ((fresh (r.tuned tight, s)).owed (Reader.source file)) := by
  have read := Reader.readSchema_ends file s isOpen unknown
  have read' := Reader.readSchema_tuned file s isOpen unknown tighter.columns
  generalize (file.checkFooter s).result = check at read read'
  rcases Reader.afterFooter_eq check r with ⟨known, after⟩
  cases answer : r.schemaAnswer check with
  | error e =>
    rw [answer] at read read'
    rw [owed_of_unread (Reader.source file) read.result,
      owed_of_unread (Reader.source file) read'.result]
    refine .alike rfl rfl ?_
    intro i member
    change i ∈ (Reader.readSchema file (r, s)).state.1.used.groups at member
    rw [read.state, after] at member
    exact Or.inl member
  | ok schema =>
    rcases Reader.informed_of_schemaAnswer isOpen answer with ⟨d, decoded, informed⟩
    rw [answer] at read read' informed
    rw [after] at read read' informed
    rw [owed_of_read (Reader.source file) read.result,
      owed_of_read (Reader.source file) read'.result]
    have curbed := Reader.deliverGroups_curbed file schema (Reader.fileAfterFooter file (r, s))
      informed tighter
    have first : ((Reader.source file).readSchema (r, s)).state = _ := read.state
    have second : ((Reader.source file).readSchema (r.tuned tight, s)).state = _ := read'.state
    have groups : r.decoding.groups = d.groups := by rw [decoded, Decoding.groups]
    rw [first, second, groups]
    cases curbed with
    | alike rows ending within => exact .alike rows ending within
    | cut more first rows count ending asked => exact .cut more first rows count ending asked

end Streaming
end RowReader
