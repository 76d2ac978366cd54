import Mathlib.Algebra.GroupWithZero.Nat
import RowReader.Proofs.Pass.Lazy
import RowReader.Proofs.Reader.Groups
import RowReader.Proofs.Reader.Settled

/-!
# How far a pass reaches

The rows that a pass delivers come from the groups in the order of the file, and a group counts as
many rows as its footer declares.  So a number of rows decides which groups can hold them.  Files
that begin with the same groups are the same to a pass that wants no more rows than these groups
declare, and the groups that the decoder was asked for begin before the last row that was wanted.
-/

namespace RowReader

open RowReader.Action

variable {φ : Type}

/-- How many rows these groups declare.  A group that declares a negative number holds none. -/
def StoredGroup.declaredRows (groups : List StoredGroup) : Nat :=
  (groups.map fun g => g.rows.toNat).sum

theorem StoredGroup.declaredRows_cons (g : StoredGroup) (groups : List StoredGroup) :
    declaredRows (g :: groups) = g.rows.toNat + declaredRows groups :=
  List.sum_cons

theorem StoredGroup.length_rowsUnder (groups : List StoredGroup) (names : List String) :
    (groups.flatMap (·.rowsUnder names)).length = declaredRows groups := by
  simp [declaredRows, rowsUnder, List.length_flatMap]

/-- How many rows the groups before an index declare. -/
def DecodedFile.rowsBefore (d : DecodedFile) (index : Nat) : Nat :=
  StoredGroup.declaredRows (d.groups.take index)

theorem DecodedFile.rowsBefore_succ {d : DecodedFile} {index : Nat} {stored : StoredGroup}
    (next : d.groups[index]? = some stored) :
    d.rowsBefore (index + 1) = d.rowsBefore index + stored.rows.toNat := by
  simp [rowsBefore, StoredGroup.declaredRows, List.take_add_one, next]

theorem DecodedFile.rowsBefore_le {d : DecodedFile} {index later : Nat} (behind : index ≤ later) :
    d.rowsBefore index ≤ d.rowsBefore later := by
  induction behind with
  | refl => exact Nat.le_refl _
  | @step later _ ih =>
    cases next : d.groups[later]? with
    | some stored =>
      rw [rowsBefore_succ next]
      exact Nat.le_add_right_of_le ih
    | none =>
      have past := List.getElem?_eq_none_iff.mp next
      have same : d.groups.take (later + 1) = d.groups.take later := by
        rw [List.take_of_length_le past, List.take_of_length_le (Nat.le_succ_of_le past)]
      rw [rowsBefore, rowsBefore, same]
      exact ih

namespace Reader

variable {file : ByteFile φ} {schema : Schema} {d : DecodedFile} {r : Reader} {s : φ}
  {stored : StoredGroup}

/-! ## Once the footer has been read -/

/-- The reader is open over this file, and its footer has been read. -/
structure Informed (d : DecodedFile) (r : Reader) : Prop where
  isOpen : r.closed = false
  decoded : r.decoding = .ok d
  known : r.footerRead = true

theorem Informed.footer (informed : Informed d r) :
    Yields (footer file) (r, s) (.ok d) (r, s) := by
  have parses : Parses file d (r, s) := ⟨informed.isOpen, informed.decoded, Or.inl informed.known⟩
  have found := footer_parsed parses
  have same : { r with footerRead := true } = r := by rw [← informed.known]
  rw [same, fileAfterFooter, if_pos informed.known] at found
  exact found

/-- A reader that found its schema has read the footer on the way. -/
theorem informed_of_schemaAnswer {check : Except Error Nat} (isOpen : r.closed = false)
    (answered : r.schemaAnswer check = .ok schema) :
    ∃ d, r.decoding = .ok d ∧
      Informed d { r.afterFooter check with schema := (r.schemaAnswer check).toOption } := by
  rcases found_of_schemaAnswer answered with ⟨d, found, -⟩
  have decoded := decoding_of_footerAnswer found
  rw [afterFooter_of_ok found]
  exact ⟨d, decoded, isOpen, decoded, rfl⟩

/-- The reader behind its next group. -/
def behindGroup (stored : StoredGroup) (r : Reader) : Reader :=
  { r with cursor := r.cursor + 1 }.taking r.cursor stored

theorem behindGroup_eq (r : Reader) (stored : StoredGroup) :
    (r.behindGroup stored).cursor = r.cursor + 1 ∧ (r.behindGroup stored).name = r.name ∧
      (r.behindGroup stored).options = r.options := by
  rcases taking_eq r.cursor stored { r with cursor := r.cursor + 1 } with ⟨used, -, same⟩
  rw [behindGroup, same]
  exact ⟨rfl, rfl, rfl⟩

theorem Informed.behind (informed : Informed d r) (stored : StoredGroup) :
    Informed d (r.behindGroup stored) := by
  rcases taking_eq r.cursor stored { r with cursor := r.cursor + 1 } with ⟨used, -, same⟩
  rw [behindGroup, same]
  exact ⟨informed.isOpen, informed.decoded, informed.known⟩

/-- Besides earlier groups, only the next one can have been asked for. -/
theorem groups_behindGroup {i : Nat} (member : i ∈ (r.behindGroup stored).used.groups) :
    i = r.cursor ∨ i ∈ r.used.groups := by
  rcases taking_eq r.cursor stored { r with cursor := r.cursor + 1 } with ⟨used, asked, same⟩
  rw [behindGroup, same] at member
  exact List.mem_cons.mp (asked member)

/-- Without a limit the next group is asked for. -/
theorem asked_behindGroup (unlimited : r.options.maxRowGroupBytes = none) (stored : StoredGroup) :
    (r.behindGroup stored).used.groups = r.cursor :: r.used.groups := by
  have fits : limitExceeded? r.options stored = none := by
    rw [limitExceeded?, unlimited]
    rfl
  simp [behindGroup, taking, fits]

/-- The next group is asked for, and the reader is behind it. -/
theorem Informed.answered (informed : Informed d r) (next : d.groups[r.cursor]? = some stored)
    (file : ByteFile φ) (s : φ) :
    ∃ log, nextRowGroup file (r, s) = ⟨(r.grouping r.cursor stored).map some,
      (r.behindGroup stored, s), log⟩ :=
  (nextRowGroup_taken informed.footer next).outcome

theorem Informed.exhausted (informed : Informed d r) (past : d.groups[r.cursor]? = none)
    (file : ByteFile φ) (s : φ) :
    ∃ log, nextRowGroup file (r, s) = ⟨.ok none, (r, s), log⟩ :=
  (nextRowGroup_none informed.footer past).outcome

/-- A group that is handed out has as many rows as it declares. -/
theorem numRows_of_grouping {index : Nat} {g : RowGroup} (taken : r.grouping index stored = .ok g) :
    g.numRows = stored.rows := by
  rcases grouping_eq_ok_iff.mp taken with ⟨-, table, -, counted, rfl⟩
  exact (Selection.rows_project table).trans counted

/-! ## Files that begin alike -/

/-- Whether a row can be assembled is a matter of its group. -/
theorem checkedRow_alike (file : ByteFile φ) (schema : Schema) (g : RowGroup) (i : Nat) :
    ∃ answer, ∀ {r : Reader} (s : φ), r.closed = false →
      Yields ((source file).checkedRow schema g i) (r, s) answer (r, s) := by
  cases assembled : (g.assemble schema (Int.ofNat i)).result with
  | error e =>
    refine ⟨.error e, fun s isOpen => ?_⟩
    have ends := assembleRow_yields (s := s) isOpen g schema (Int.ofNat i)
    rw [assembled] at ends
    exact ends.bind_error
  | ok row =>
    by_cases width : row.size = schema.length
    · refine ⟨.ok (row, (g.assemble schema (Int.ofNat i)).state), fun s isOpen => ?_⟩
      have ends := assembleRow_yields (s := s) isOpen g schema (Int.ofNat i)
      rw [assembled] at ends
      apply ends.bind
      simp only [if_pos width]
      exact yields_pure _ _
    · refine ⟨.error (.rowWidth i ((source file).index g) row.size schema.length), fun s isOpen => ?_⟩
      have ends := assembleRow_yields (s := s) isOpen g schema (Int.ofNat i)
      rw [assembled] at ends
      apply ends.bind
      simp only [if_neg width]
      exact yields_fail _ _

/-- The rows of a group and the way they end are a matter of the group. -/
theorem deliverGroup_alike (file : ByteFile φ) (schema : Schema) (left : Nat) (g : RowGroup)
    (i : Nat) :
    ∃ rows ending,
      (∀ {r : Reader} (s : φ), r.closed = false →
        ∃ log, (source file).deliverGroup schema left g i (r, s) = ⟨rows, ending, (r, s), log⟩) ∧
      (ending = .more ∧ rows.length = left ∨ ∃ e, ending = .failed e) := by
  induction left generalizing g i with
  | zero => exact ⟨[], .more, fun s _ => ⟨[], rfl⟩, Or.inl ⟨rfl, rfl⟩⟩
  | succ left ih =>
    rcases checkedRow_alike file schema g i with ⟨e | ⟨row, g'⟩, checked⟩
    · refine ⟨[], .failed e, fun s isOpen => ?_, Or.inr ⟨e, rfl⟩⟩
      rcases (checked s isOpen).outcome with ⟨log, answer⟩
      exact ⟨log, Source.deliverGroup_of_error _ schema left answer⟩
    · rcases ih g' (i + 1) with ⟨rows, ending, delivered, ends⟩
      refine ⟨row :: rows, ending, fun s isOpen => ?_, ?_⟩
      · rcases (checked s isOpen).outcome with ⟨log, answer⟩
        rcases delivered s isOpen with ⟨more, further⟩
        refine ⟨log ++ more, ?_⟩
        rw [Source.deliverGroup_of_row _ schema left answer, further]
        rfl
      · exact ends.imp_left fun ⟨more, all⟩ => ⟨more, congrArg Nat.succ all⟩

/-- What becomes of a pass with the next group is a matter of the answer to the request for it: the
pass fails, with the reader left as the request left it, or goes on from there behind the rows of
the group. -/
theorem deliverGroups_alike (file : ByteFile φ) (schema : Schema) (answer : Except Error RowGroup) :
    (∃ rows e, ∀ {r q : Reader} {s t : φ} {log : List LogLine}, q.closed = false →
      nextRowGroup file (r, s) = ⟨answer.map some, (q, t), log⟩ →
      ∃ log, (source file).deliverGroups schema (r, s) = ⟨rows, .failed e, (q, t), log⟩) ∨
    ∃ g rows, answer = .ok g ∧ rows.length = g.numRows.toNat ∧
      ∀ {r q : Reader} {s t : φ} {log : List LogLine}, q.closed = false →
        nextRowGroup file (r, s) = ⟨answer.map some, (q, t), log⟩ →
        ∃ log, (source file).deliverGroups schema (r, s) =
          ((source file).deliverGroups schema (q, t)).behind rows log := by
  cases answer with
  | error e =>
    refine Or.inl ⟨[], e, ?_⟩
    intro r q s t log isOpen answered
    exact ⟨log, Source.deliverGroups_refused _ schema answered⟩
  | ok g =>
    rcases deliverGroup_alike file schema g.numRows.toNat g 0
      with ⟨rows, ending, delivered, ⟨rfl, all⟩ | ⟨e, rfl⟩⟩
    · refine Or.inr ⟨g, rows, rfl, all, ?_⟩
      intro r q s t log isOpen answered
      rcases delivered t isOpen with ⟨more, whole⟩
      exact ⟨_, Source.deliverGroups_further _ schema answered whole⟩
    · refine Or.inl ⟨rows, e, ?_⟩
      intro r q s t log isOpen answered
      rcases delivered t isOpen with ⟨more, broken⟩
      exact ⟨_, Source.deliverGroups_broken _ schema answered broken⟩

/-- The readers have the same file name and options and stand before the same group. -/
structure Abreast (r r' : Reader) : Prop where
  name : r'.name = r.name
  options : r'.options = r.options
  cursor : r'.cursor = r.cursor

theorem Abreast.grouping {r r' : Reader} (abreast : Abreast r r') (stored : StoredGroup) :
    r'.grouping r'.cursor stored = r.grouping r.cursor stored := by
  simp only [Reader.grouping, decodeGroup, abreast.name, abreast.options, abreast.cursor]

theorem Abreast.behind {r r' : Reader} (abreast : Abreast r r') (stored : StoredGroup) :
    Abreast (r.behindGroup stored) (r'.behindGroup stored) := by
  rcases behindGroup_eq r stored with ⟨cursor, name, options⟩
  rcases behindGroup_eq r' stored with ⟨cursor', name', options'⟩
  constructor
  · rw [name, name', abreast.name]
  · rw [options, options', abreast.options]
  · rw [cursor, cursor', abreast.cursor]

/-- Two batches are the same up to this number of rows: both have as many, or they are the same and
failed before. -/
inductive SameUpTo {σ τ : Type} (count : Nat) (b : Batch σ) (b' : Batch τ) : Prop where
  | delivered (rows rest rest' : List Row) (first : b.rows = rows ++ rest)
      (second : b'.rows = rows ++ rest') (all : rows.length = count)
  | failed (e : Error) (first : b.ending = .failed e) (second : b'.ending = .failed e)
      (rows : b'.rows = b.rows)

theorem SameUpTo.behind {σ τ : Type} {count : Nat} {b : Batch σ} {b' : Batch τ}
    (same : SameUpTo count b b') (rows : List Row) (log log' : List LogLine) :
    SameUpTo (rows.length + count) (b.behind rows log) (b'.behind rows log') := by
  cases same with
  | delivered more rest rest' first second all =>
    refine .delivered (rows ++ more) rest rest' ?_ ?_ ?_
    · rw [List.append_assoc, ← first]
      rfl
    · rw [List.append_assoc, ← second]
      rfl
    · rw [List.length_append, all]
  | failed e first second same =>
    exact .failed e first second (congrArg (rows ++ ·) same)

/-- Passes over files that go on with the same groups deliver the same rows from these groups, or
fail in the same way in one of them. -/
theorem deliverGroups_sameUpTo {d' : DecodedFile} {r' : Reader} {s' : φ}
    {ahead behind behind' : List StoredGroup} (informed : Informed d r) (informed' : Informed d' r')
    (abreast : Abreast r r') (left : d.groups.drop r.cursor = ahead ++ behind)
    (left' : d'.groups.drop r'.cursor = ahead ++ behind') :
    SameUpTo (StoredGroup.declaredRows ahead) ((source file).deliverGroups schema (r, s))
      ((source file).deliverGroups schema (r', s')) := by
  induction ahead generalizing r r' with
  | nil => exact .delivered [] _ _ rfl rfl rfl
  | cons stored rest ih =>
    rcases drop_eq_cons left with ⟨next, others⟩
    rcases drop_eq_cons left' with ⟨next', others'⟩
    rcases informed.answered next file s with ⟨log, answer⟩
    rcases informed'.answered next' file s' with ⟨log', answer'⟩
    have onward := informed.behind stored
    have onward' := informed'.behind stored
    rw [abreast.grouping stored] at answer'
    rcases deliverGroups_alike file schema (r.grouping r.cursor stored)
      with ⟨rows, e, fails⟩ | ⟨g, rows, taken, all, further⟩
    · rcases fails onward.isOpen answer with ⟨_, first⟩
      rcases fails onward'.isOpen answer' with ⟨_, second⟩
      rw [first, second]
      exact .failed e rfl rfl rfl
    · rcases further onward.isOpen answer with ⟨_, first⟩
      rcases further onward'.isOpen answer' with ⟨_, second⟩
      rw [first, second, StoredGroup.declaredRows_cons, ← numRows_of_grouping taken, ← all]
      rw [← (behindGroup_eq r stored).1] at others
      rw [← (behindGroup_eq r' stored).1] at others'
      exact (ih onward onward' (abreast.behind stored) others others').behind _ _ _

/-! ## What the decoder is asked for -/

/-- Closing a reader asks for no group. -/
theorem groups_of_close (file : ByteFile φ) (both : Reader × φ) :
    (close file both).state.1.used.groups = both.1.used.groups := by
  rcases both with ⟨r, s⟩
  cases isClosed : r.closed with
  | true => rw [(close_closed isClosed).state]
  | false =>
    rw [(close_ends file s isClosed).state]
    unfold decoderClosed
    split <;> rfl

/-- The reader is behind groups that declare so many rows in all, and each group that the decoder
was asked for begins before the row with this number.  Without a limit it was asked for each group
that the reader is behind. -/
structure Reached (d : DecodedFile) (bound total : Nat) (r : Reader) : Prop
    extends Informed d r where
  position : d.rowsBefore r.cursor = total
  asked : ∀ i ∈ r.used.groups, d.rowsBefore i < bound
  taken : r.options.maxRowGroupBytes = none → ∀ i, i < r.cursor → i ∈ r.used.groups

theorem Reached.later {bound total : Nat} (reached : Reached d bound total r) :
    Reached d (bound + 1) total r :=
  ⟨reached.toInformed, reached.position,
    fun i member => Nat.lt_succ_of_lt (reached.asked i member), reached.taken⟩

/-- The next group may be asked for once the row is wanted that is the first behind those before. -/
theorem Reached.behind {total : Nat} (reached : Reached d (total + 1) total r)
    (next : d.groups[r.cursor]? = some stored) :
    Reached d (total + 1) (total + stored.rows.toNat) (r.behindGroup stored) where
  toInformed := reached.toInformed.behind stored
  position := by
    rw [(behindGroup_eq r stored).1, DecodedFile.rowsBefore_succ next, reached.position]
  asked := by
    intro i member
    rcases groups_behindGroup member with rfl | earlier
    · exact Nat.lt_succ_of_le (Nat.le_of_eq reached.position)
    · exact reached.asked i earlier
  taken := by
    intro unlimited i before
    rw [(behindGroup_eq r stored).2.2] at unlimited
    rw [(behindGroup_eq r stored).1] at before
    rw [asked_behindGroup unlimited stored]
    rcases Nat.lt_succ_iff_lt_or_eq.mp before with earlier | rfl
    · exact List.mem_cons_of_mem _ (reached.taken unlimited i earlier)
    · exact List.mem_cons_self

/-- What a search for one more row leaves: it asks for no group that begins later, and if it finds
the row, this is the one that is reached. -/
structure Searched (d : DecodedFile) (count : Nat)
    (out : Outcome (Reader × φ) (Option (Row × Place RowGroup))) : Prop where
  asked : ∀ i ∈ out.state.1.used.groups, d.rowsBefore i < count + 1
  found : ∀ row place, out.result = .ok (some (row, place)) →
    Reached d (count + 1) (count + 1 + place.left) out.state.1

section

variable {count : Nat}

theorem Searched.after {out : Outcome (Reader × φ) (Option (Row × Place RowGroup))}
    (searched : Searched d count out) (log : List LogLine) : Searched d count (out.after log) :=
  ⟨searched.asked, searched.found⟩

/-- A search that stops without a row asks for no further group. -/
theorem searched_nothing {both : Reader × φ} {q : Except Error (Option (Row × Place RowGroup))}
    {log : List LogLine} (asked : ∀ i ∈ both.1.used.groups, d.rowsBefore i < count + 1)
    (nothing : ∀ found, q ≠ .ok (some found)) : Searched d count ⟨q, both, log⟩ :=
  ⟨asked, fun row place answer => absurd answer (nothing (row, place))⟩

/-- The row at hand needs no further group. -/
theorem searched_rowAt {left : Nat} (reached : Reached d (count + 1) (count + (left + 1)) r)
    (file : ByteFile φ) (schema : Schema) (s : φ) (g : RowGroup) (i : Nat) :
    Searched d count ((source file).rowAt schema g i left (r, s)) := by
  rcases checkedRow_alike file schema g i with ⟨answer, checked⟩
  rcases (checked s reached.isOpen).outcome with ⟨log, answered⟩
  unfold Source.rowAt
  rw [answered]
  rcases answer with e | ⟨row, g'⟩
  · exact searched_nothing reached.asked nofun
  · refine ⟨reached.asked, ?_⟩
    rintro _ place ⟨⟩
    have same : count + (left + 1) = count + 1 + left := by omega
    rw [same] at reached
    exact reached

/-- The search goes on to the next group only while the groups before hold no further row. -/
theorem searched_firstRow (reached : Reached d (count + 1) count r) (file : ByteFile φ)
    (schema : Schema) (s : φ) : Searched d count ((source file).firstRow schema (r, s)) := by
  induction left : d.groups.drop r.cursor generalizing r with
  | nil =>
    have past : d.groups[r.cursor]? = none := List.getElem?_eq_none (List.drop_eq_nil_iff.mp left)
    rcases reached.exhausted past file s with ⟨log, answer⟩
    rw [Source.firstRow_exhausted _ schema answer]
    exact searched_nothing reached.asked nofun
  | cons stored rest ih =>
    rcases drop_eq_cons left with ⟨next, others⟩
    rcases reached.answered next file s with ⟨log, answer⟩
    have behind := reached.behind next
    cases taken : r.grouping r.cursor stored with
    | error e =>
      rw [taken] at answer
      rw [Source.firstRow_refused _ schema answer]
      exact searched_nothing behind.asked nofun
    | ok g =>
      rw [taken] at answer
      rw [Source.firstRow_of_group _ schema answer]
      apply Searched.after
      have declared : (source file).numRows g = stored.rows.toNat :=
        congrArg Int.toNat (numRows_of_grouping taken)
      rw [declared]
      unfold Source.rowAfter
      cases held : stored.rows.toNat with
      | zero =>
        rw [held] at behind
        rw [← (behindGroup_eq r stored).1] at others
        exact ih behind others
      | succ left =>
        rw [held] at behind
        exact searched_rowAt behind file schema s g 0

theorem searched_rowAfter {place : Place RowGroup} (reached : Reached d count (count + place.left) r)
    (file : ByteFile φ) (schema : Schema) (s : φ) :
    Searched d count ((source file).rowAfter schema place (r, s)) := by
  have wanted := reached.later
  unfold Source.rowAfter
  cases held : place.left with
  | zero =>
    rw [held] at wanted
    exact searched_firstRow wanted file schema s
  | succ left =>
    rw [held] at wanted
    exact searched_rowAt wanted file schema s place.group place.next

end

end Reader

/-! ## Pulling -/

namespace Streaming

variable {file : ByteFile φ} {d : DecodedFile} {count : Nat}

/-- A stream over a reader from which so many rows were pulled, and that goes on. -/
inductive At (file : ByteFile φ) (d : DecodedFile) :
    Nat → Streaming (Reader × φ) RowGroup → Prop where
  | fresh {s : Reader × φ} (unasked : s.1.used.groups = [])
      (unread : ((Reader.source file).readSchema s).state.1.used.groups = [])
      (opened : ∀ schema, ((Reader.source file).readSchema s).result = .ok schema →
        Reader.Reached d 0 0 ((Reader.source file).readSchema s).state.1) :
      At file d 0 (.fresh s)
  | running {count : Nat} {schema : Schema} {place : Place RowGroup} {p : Pass} {s : Reader × φ}
      (reached : Reader.Reached d count (count + place.left) s.1) :
      At file d count ⟨.running schema place, p, s⟩

/-- A new stream stands before the first row, whatever is made of the footer. -/
theorem at_fresh {r : Reader} (s : φ) (isOpen : r.closed = false) (decoded : r.decoding = .ok d)
    (unknown : r.schema = none) (first : r.cursor = 0) (unasked : r.used.groups = []) :
    At file d 0 (.fresh (r, s)) := by
  have read := Reader.readSchema_ends file s isOpen unknown
  generalize (file.checkFooter s).result = check at read
  rcases Reader.afterFooter_eq check r with ⟨known, after⟩
  apply At.fresh unasked
  · change (Reader.readSchema file (r, s)).state.1.used.groups = []
    rw [read.state, after]
    exact unasked
  · intro schema answered
    change (Reader.readSchema file (r, s)).result = .ok schema at answered
    rw [read.result] at answered
    rcases Reader.informed_of_schemaAnswer isOpen answered with ⟨_, also, informed⟩
    cases decoded.symm.trans also
    change Reader.Reached d 0 0 (Reader.readSchema file (r, s)).state.1
    rw [read.state]
    refine ⟨informed, ?_, ?_, ?_⟩ <;> rw [after]
    · rw [first]
      rfl
    · rw [unasked]
      exact nofun
    · rw [first]
      exact fun _ i below => absurd below (Nat.not_lt_zero i)

theorem At.live {st : Streaming (Reader × φ) RowGroup} (here : At file d count st) :
    st.Live := by
  cases here <;> trivial

theorem At.asked {st : Streaming (Reader × φ) RowGroup} (here : At file d count st) :
    ∀ i ∈ st.source.1.used.groups, d.rowsBefore i < count := by
  cases here with
  | fresh unasked unread opened =>
    intro i member
    rw [Streaming.fresh, unasked] at member
    cases member
  | running reached => exact reached.asked

/-- What a pull leaves: the decoder was asked for no group that begins after the row, and if there
is a row, this is where the stream goes on. -/
structure Pulled (file : ByteFile φ) (d : DecodedFile) (count : Nat)
    (r : Except Error (Option Row)) (st : Streaming (Reader × φ) RowGroup) : Prop where
  asked : ∀ i ∈ st.source.1.used.groups, d.rowsBefore i < count + 1
  onward : ∀ row, r = .ok (some row) → At file d (count + 1) st

/-- A search becomes the stream's next row, or its end. -/
theorem pulled_of_searched {o : Outcome (Reader × φ) (Option (Row × Place RowGroup))}
    (searched : Reader.Searched d count o) (schema : Schema) (p : Pass) :
    let out := noted (Reader.source file) p (pull.found schema o)
    Pulled file d count (out.result.mapError Error.outOfIteration) out.state := by
  rcases o with ⟨r, both, log⟩
  have closed : ∀ i ∈ ((Reader.source file).close both).state.1.used.groups,
      d.rowsBefore i < count + 1 := by
    change ∀ i ∈ (Reader.close file both).state.1.used.groups, _
    rw [Reader.groups_of_close]
    exact searched.asked
  rcases r with e | _ | ⟨row, place⟩
  · refine ⟨closed, ?_⟩
    intro row answer
    exact absurd answer (endResult_ne_row (.failed e) _ row)
  · refine ⟨closed, ?_⟩
    intro row answer
    exact absurd answer (endResult_ne_row .exhausted _ row)
  · exact ⟨searched.asked, fun _ _ => .running (searched.found row place rfl)⟩

theorem At.next {st : Streaming (Reader × φ) RowGroup} (here : At file d count st) :
    let out := Streaming.next (Reader.source file) st
    Pulled file d count out.result out.state := by
  intro out
  have pulled := next_yields (Reader.source file) here.live
  simp only [out, pulled.result, pulled.state]
  cases here with
  | @fresh s unasked unread opened =>
    have asked := Pass.readSchema_yields (Reader.source file) { started := true } s rfl
    cases read : ((Reader.source file).readSchema s).result with
    | error e =>
      rw [read] at asked
      simp only [pull, Streaming.fresh, Streaming.opened, asked.result, asked.state]
      have nothing : Reader.Searched d 0 ⟨.error e, ((Reader.source file).readSchema s).state, []⟩ := by
        apply Reader.searched_nothing
        · intro i member
          rw [unread] at member
          cases member
        · intro found impossible
          cases impossible
      exact pulled_of_searched nothing [] _
    | ok schema =>
      rw [read] at asked
      simp only [pull, Streaming.fresh, Streaming.opened, asked.result, asked.state]
      exact pulled_of_searched (Reader.searched_firstRow (opened schema read).later file schema _)
        schema _
  | @running _ schema place p s reached =>
    exact pulled_of_searched (Reader.searched_rowAfter reached file schema s.2) schema p

/-- However many rows are pulled, the decoder is asked for no group that begins after the last of
them, and while there are rows, this is where the stream stands. -/
theorem At.takeRows {st : Streaming (Reader × φ) RowGroup} (here : At file d count st)
    (more : Nat) :
    let taken := RowReader.takeRows (Streaming.next (Reader.source file)) more st
    (∀ i ∈ taken.state.source.1.used.groups, d.rowsBefore i < count + more) ∧
      (taken.ending = .more → At file d (count + more) taken.state) := by
  induction more generalizing count st with
  | zero => exact ⟨here.asked, fun _ => here⟩
  | succ more ih =>
    have pulled := here.next
    have self := yields_self (Streaming.next (Reader.source file)) st
    by_cases found : ∃ row, (Streaming.next (Reader.source file) st).result = .ok (some row)
    · rcases found with ⟨row, answer⟩
      rw [answer] at self
      rcases takeRows_of_row self more with ⟨log, further⟩
      have onward := ih (pulled.onward row answer)
      rw [Nat.add_right_comm, Nat.add_assoc] at onward
      simp only [further]
      exact onward
    · rcases takeRows_of_end self (fun row answer => found ⟨row, answer⟩) more with ⟨log, stop⟩
      simp only [stop]
      constructor
      · intro i member
        have bound := pulled.asked i member
        omega
      · exact fun going => absurd going (Ending.of_ne_more _)

end Streaming
end RowReader
