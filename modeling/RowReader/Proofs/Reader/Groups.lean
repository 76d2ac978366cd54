import RowReader.Proofs.Decoded.Groups
import RowReader.Proofs.Pass.Delivery
import RowReader.Proofs.Reader.Ready

/-!
# Row groups of an open reader

A pass over an open reader delivers the rows of the groups still ahead, group after group, as long
as each has all of its rows under the names that are asked for.  At the first group that has not, the
pass fails.
-/

namespace RowReader

open RowReader.Action

namespace Reader

variable {φ : Type} {file : ByteFile φ} {d : DecodedFile} {r : Reader} {s : φ} {schema : Schema}

/-! ## One group -/

theorem limitExceeded?_eq_none_iff {options : Options} {stored : StoredGroup} :
    limitExceeded? options stored = none ↔
      ∀ limit, options.maxRowGroupBytes = some limit → stored.bytes ≤ limit := by
  rw [limitExceeded?, Option.filter_eq_none_iff]
  simp only [decide_eq_true_eq, Int.not_lt]

theorem decodeGroup_of_error (r : Reader) (index : Nat) {stored : StoredGroup} {e : Error}
    (fails : stored.table = .error e) :
    r.decodeGroup index stored = .error (groupError index r.name e) := by
  rw [decodeGroup, fails]
  rfl

theorem decodeGroup_of_table (r : Reader) (index : Nat) {stored : StoredGroup} {t : Table}
    (decodes : stored.table = .ok t) :
    r.decodeGroup index stored = if t.rows = stored.rows then
      .ok { index := Int.ofNat index, table := stored.selection.project r.options.columns t }
      else .error (.rowCountMismatch index stored.rows t.rows) := by
  rw [decodeGroup, decodes]
  change RowGroup.ofTable (Int.ofNat index) stored.rows (stored.selection.project r.options.columns t) = _
  rw [RowGroup.ofTable, Selection.rows_project]
  rfl

/-- A group is handed out exactly if it decodes, with those of its columns that are asked for. -/
theorem grouping_eq_ok_iff {index : Nat} {stored : StoredGroup} {g : RowGroup} :
    r.grouping index stored = .ok g ↔
      limitExceeded? r.options stored = none ∧ ∃ t, stored.table = .ok t ∧ t.rows = stored.rows ∧
        g = { index := Int.ofNat index, table := stored.selection.project r.options.columns t } := by
  unfold grouping
  cases exceeded : limitExceeded? r.options stored with
  | some limit => simp
  | none =>
    cases decoded : stored.table with
    | error e => simp [decodeGroup_of_error r index decoded]
    | ok t =>
      simp only [decodeGroup_of_table r index decoded]
      by_cases counted : t.rows = stored.rows
      · simp [counted, eq_comm]
      · simp [counted]

theorem grouping_of_decodes (index : Nat) {stored : StoredGroup}
    (decodes : stored.Decodes r.options) : ∃ g, r.grouping index stored = .ok g := by
  rcases decodes with ⟨within, t, decoded, counted⟩
  exact ⟨_, grouping_eq_ok_iff.mpr
    ⟨limitExceeded?_eq_none_iff.mpr within, t, decoded, counted, rfl⟩⟩

/-- A group that is handed out has the rows of the stored group, whatever the order of the columns
that are asked for. -/
theorem grouping_spec {index : Nat} {stored : StoredGroup} {g : RowGroup} {names : List String}
    (taken : r.grouping index stored = .ok g) (covers : r.options.Covers names) :
    stored.Decodes r.options ∧ g.Faithful ∧ g.numRows = stored.rows ∧
      ∀ i, g.table.row? names i = stored.row? names i := by
  rcases grouping_eq_ok_iff.mp taken with ⟨within, t, decoded, counted, rfl⟩
  have distinct : ∀ chosen, r.options.columns = some chosen → chosen.Nodup :=
    fun chosen same => (r.options.columns_sound chosen same).2
  refine ⟨⟨limitExceeded?_eq_none_iff.mp within, t, decoded, counted⟩,
    RowGroup.faithful_of_fresh rfl, (Selection.rows_project t).trans counted, ?_⟩
  intro i
  rw [StoredGroup.row?, decoded]
  exact Selection.row?_project t i distinct covers

/-! ## The rows of a group -/

section

variable (file)

theorem checkedRow_present (isOpen : r.closed = false) {g : RowGroup} (faithful : g.Faithful)
    {i : Nat} (inside : Int.ofNat i < g.numRows) {row : Row}
    (present : g.table.row? schema.names i = some row) :
    ∃ g' : RowGroup, g'.Faithful ∧ g'.table = g.table ∧
      Yields ((source file).checkedRow schema g i) (r, s) (.ok (row, g')) (r, s) := by
  have assembled := assembleRow_yields (s := s) isOpen g schema (Int.ofNat i)
  have result := RowGroup.toOption_assemble faithful schema inside
  rw [present, toOption_eq_some] at result
  rw [result] at assembled
  rcases RowGroup.assemble_faithful faithful schema (Int.ofNat i) with ⟨-, -, table, kept⟩
  refine ⟨_, kept, table, assembled.bind ?_⟩
  have width : row.size = schema.length := by
    simpa [Schema.names] using Table.size_of_row? present
  simp only [if_pos width]
  exact yields_pure _ _

theorem checkedRow_absent (isOpen : r.closed = false) {g : RowGroup} (faithful : g.Faithful)
    {i : Nat} (inside : Int.ofNat i < g.numRows) (absent : g.table.row? schema.names i = none) :
    ∃ e, Yields ((source file).checkedRow schema g i) (r, s) (.error e) (r, s) := by
  have assembled := assembleRow_yields (s := s) isOpen g schema (Int.ofNat i)
  have result := RowGroup.toOption_assemble faithful schema inside
  rw [absent] at result
  cases failed : (g.assemble schema (Int.ofNat i)).result with
  | ok row =>
    rw [failed] at result
    cases result
  | error e =>
    rw [failed] at assembled
    exact ⟨e, assembled.bind_error⟩

/-- The rows of a group are delivered as they stand in its table. -/
theorem deliverGroup_present (isOpen : r.closed = false) {g : RowGroup} (faithful : g.Faithful)
    {left i : Nat} (inside : i + left ≤ g.numRows.toNat)
    (present : ∀ k, Int.ofNat k < g.numRows → (g.table.row? schema.names k).isSome) :
    ∃ rows log, (source file).deliverGroup schema left g i (r, s) = ⟨rows, .more, (r, s), log⟩ ∧
      rows.map some = (List.range' i left).map (g.table.row? schema.names) := by
  induction left generalizing g i with
  | zero => exact ⟨[], [], rfl, rfl⟩
  | succ left ih =>
    have first : Int.ofNat i < g.numRows := by
      simp only [Int.ofNat_eq_natCast]
      omega
    rcases Option.isSome_iff_exists.mp (present i first) with ⟨row, found⟩
    rcases checkedRow_present file isOpen faithful first found with ⟨g', kept, table, checked⟩
    rcases checked.outcome with ⟨log, answer⟩
    have same : g'.numRows = g.numRows := congrArg Table.rows table
    have behind : i + 1 + left ≤ g'.numRows.toNat := by
      rw [same]
      omega
    rcases ih kept behind (by rwa [same, table]) with ⟨rows, more, delivered, ahead⟩
    refine ⟨row :: rows, log ++ more, ?_, ?_⟩
    · rw [Source.deliverGroup_of_row _ schema left answer, delivered]
      rfl
    · rw [List.map_cons, ahead, table, List.range'_succ, List.map_cons, found]

/-- At a row that is not there the group fails, after rows before it. -/
theorem deliverGroup_absent (isOpen : r.closed = false) {g : RowGroup} (faithful : g.Faithful)
    {left i k : Nat} (inside : i + left ≤ g.numRows.toNat) (reached : i ≤ k) (ahead : k < i + left)
    (absent : g.table.row? schema.names k = none) :
    ∃ rows e log,
      (source file).deliverGroup schema left g i (r, s) = ⟨rows, .failed e, (r, s), log⟩ ∧
      rows.map some <+: (List.range' i left).map (g.table.row? schema.names) := by
  induction left generalizing g i with
  | zero => omega
  | succ left ih =>
    have first : Int.ofNat i < g.numRows := by
      simp only [Int.ofNat_eq_natCast]
      omega
    cases here : g.table.row? schema.names i with
    | none =>
      rcases checkedRow_absent file (s := s) isOpen faithful first here with ⟨e, checked⟩
      rcases checked.outcome with ⟨log, answer⟩
      exact ⟨[], e, log, Source.deliverGroup_of_error _ schema left answer, List.nil_prefix⟩
    | some row =>
      rcases checkedRow_present file (s := s) isOpen faithful first here
          with ⟨g', kept, table, checked⟩
      rcases checked.outcome with ⟨log, answer⟩
      have same : g'.numRows = g.numRows := congrArg Table.rows table
      have further : i ≠ k := by
        rintro rfl
        rw [absent] at here
        cases here
      have within : i + 1 + left ≤ g'.numRows.toNat := by
        rw [same]
        omega
      rw [← table] at absent
      rcases ih kept within (by omega) (by omega) absent with ⟨rows, e, more, delivered, before⟩
      refine ⟨row :: rows, e, log ++ more, ?_, ?_⟩
      · rw [Source.deliverGroup_of_row _ schema left answer, delivered]
        rfl
      · rw [List.range'_succ, List.map_cons, List.map_cons, here, ← table]
        exact List.cons_prefix_cons.mpr ⟨rfl, before⟩

end

/-! ## Group after group -/

section

variable {stands : φ → Prop} {stored : StoredGroup} (intact : file.Intact stands)
  (ready : Ready d stands (r, s)) (covers : r.options.Covers schema.names)

include intact ready

theorem deliverGroups_past (past : d.groups[r.cursor]? = none) :
    ∃ both log, (source file).deliverGroups schema (r, s) = ⟨[], .exhausted, both, log⟩ ∧
      Ready d stands both ∧ both.1.footerRead = true := by
  rcases nextRowGroup_end intact ready past with ⟨both, ended, ready, known⟩
  rcases ended.outcome with ⟨log, answer⟩
  exact ⟨both, log, Source.deliverGroups_exhausted _ schema answer, ready, known⟩

include covers

/-- A group that has its rows is delivered whole, and the reader then stands behind it. -/
theorem deliverGroups_delivered (next : d.groups[r.cursor]? = some stored)
    (delivers : stored.Delivers r.options schema.names) :
    ∃ r' t rows log, Ready d stands (r', t) ∧ r'.options = r.options ∧ r'.cursor = r.cursor + 1 ∧
      rows.map some = stored.rowsUnder schema.names ∧
      (source file).deliverGroups schema (r, s) =
        ((source file).deliverGroups schema (r', t)).behind rows log := by
  rcases grouping_of_decodes r.cursor delivers.toDecodes with ⟨g, taken⟩
  rcases grouping_spec taken covers with ⟨-, faithful, count, alike⟩
  rcases nextRowGroup_group intact ready next with ⟨r', t, answered, ready, advanced⟩
  rw [taken] at answered
  rcases answered.outcome with ⟨log, answer⟩
  have present : ∀ i, Int.ofNat i < g.numRows → (g.table.row? schema.names i).isSome := by
    intro i inside
    rw [count] at inside
    rw [alike]
    exact delivers.rows i inside
  have all : 0 + g.numRows.toNat ≤ g.numRows.toNat := Nat.le_of_eq (Nat.zero_add _)
  rcases deliverGroup_present file (s := t) ready.isOpen faithful all present
      with ⟨rows, more, delivered, whole⟩
  refine ⟨r', t, rows, _, ready, advanced.options, advanced.cursor, ?_,
    Source.deliverGroups_further _ schema answer delivered⟩
  rw [whole, count, ← List.range_eq_range', StoredGroup.rowsUnder]
  exact List.map_congr_left fun i _ => alike i

/-- At a group without all of its rows the pass ends with an error, after rows with which the group
begins. -/
theorem deliverGroups_undelivered (next : d.groups[r.cursor]? = some stored)
    (undelivered : ¬ stored.Delivers r.options schema.names) :
    ∃ rows e both log,
      (source file).deliverGroups schema (r, s) = ⟨rows, .failed e, both, log⟩ ∧
      rows.map some <+: stored.rowsUnder schema.names := by
  rcases nextRowGroup_group intact ready next with ⟨r', t, answered, ready, -⟩
  rcases answered.outcome with ⟨log, answer⟩
  cases taken : r.grouping r.cursor stored with
  | error e =>
    rw [taken] at answer
    exact ⟨[], e, _, log, Source.deliverGroups_refused _ schema answer, List.nil_prefix⟩
  | ok g =>
    rw [taken] at answer
    rcases grouping_spec taken covers with ⟨decodes, faithful, count, alike⟩
    -- The group decodes, so a row must be missing from it.
    obtain ⟨k, inside, absent⟩ : ∃ k : Nat, Int.ofNat k < g.numRows ∧
        g.table.row? schema.names k = none := by
      apply Classical.byContradiction
      intro nowhere
      apply undelivered
      refine ⟨decodes, fun i inside => ?_⟩
      rw [← alike]
      apply Option.isSome_iff_ne_none.mpr
      intro absent
      exact nowhere ⟨i, count ▸ inside, absent⟩
    have all : 0 + g.numRows.toNat ≤ g.numRows.toNat := Nat.le_of_eq (Nat.zero_add _)
    have ahead : k < 0 + g.numRows.toNat := by
      simp only [Int.ofNat_eq_natCast] at inside
      omega
    rcases deliverGroup_absent file (s := t) ready.isOpen faithful all (Nat.zero_le k) ahead absent
        with ⟨rows, e, more, broken, before⟩
    refine ⟨rows, e, _, _, Source.deliverGroups_broken _ schema answer broken, ?_⟩
    rw [count, ← List.range_eq_range', List.map_congr_left fun i _ => alike i] at before
    exact before

/-! ## All groups ahead

The groups ahead are those from the reader's position on, so each group that is delivered whole takes
the first of them away. -/

/-- Groups that have their rows are delivered one after another, and what is behind them follows. -/
theorem deliverGroups_ahead {ahead behind : List StoredGroup}
    (left : d.groups.drop r.cursor = ahead ++ behind)
    (delivers : ∀ g ∈ ahead, g.Delivers r.options schema.names) :
    ∃ r' t rows log, Ready d stands (r', t) ∧ r'.options = r.options ∧
      d.groups.drop r'.cursor = behind ∧
      rows.map some = ahead.flatMap (·.rowsUnder schema.names) ∧
      (source file).deliverGroups schema (r, s) =
        ((source file).deliverGroups schema (r', t)).behind rows log := by
  induction ahead generalizing r s with
  | nil => exact ⟨r, s, [], [], ready, rfl, left, rfl, rfl⟩
  | cons stored rest ih =>
    rcases drop_eq_cons left with ⟨next, others⟩
    rcases List.forall_mem_cons.mp delivers with ⟨here, there⟩
    rcases deliverGroups_delivered intact ready covers next here
        with ⟨r', t, first, log, ready, options, cursor, whole, delivered⟩
    rw [← cursor] at others
    rw [← options] at covers there
    rcases ih ready covers others there
        with ⟨r'', u, rows, more, ready, options', last, others, further⟩
    refine ⟨r'', u, first ++ rows, log ++ more, ready, options'.trans options, last, ?_, ?_⟩
    · rw [List.map_append, whole, others, List.flatMap_cons]
    · rw [delivered, further]
      simp only [Batch.behind, List.append_assoc]

/-- If every group ahead has its rows, the pass delivers all of them. -/
theorem deliverGroups_all {ahead : List StoredGroup} (left : d.groups.drop r.cursor = ahead)
    (delivers : ∀ g ∈ ahead, g.Delivers r.options schema.names) :
    ∃ rows both log, (source file).deliverGroups schema (r, s) = ⟨rows, .exhausted, both, log⟩ ∧
      Ready d stands both ∧ both.1.footerRead = true ∧
      rows.map some = ahead.flatMap (·.rowsUnder schema.names) := by
  rw [← List.append_nil ahead] at left
  rcases deliverGroups_ahead intact ready covers left delivers
      with ⟨r', t, rows, log, ready, -, last, whole, delivered⟩
  have past : d.groups[r'.cursor]? = none := List.getElem?_eq_none (List.drop_eq_nil_iff.mp last)
  rcases deliverGroups_past intact ready past with ⟨both, more, ended, ready, known⟩
  refine ⟨rows, both, log ++ more, ?_, ready, known, whole⟩
  rw [delivered, ended]
  simp only [Batch.behind, List.append_nil]

/-- If some group ahead has not, the pass fails after rows with which the groups begin. -/
theorem deliverGroups_some {ahead : List StoredGroup} (left : d.groups.drop r.cursor = ahead)
    (undelivered : ¬ ∀ g ∈ ahead, g.Delivers r.options schema.names) :
    ∃ rows e both log,
      (source file).deliverGroups schema (r, s) = ⟨rows, .failed e, both, log⟩ ∧
      rows.map some <+: ahead.flatMap (·.rowsUnder schema.names) := by
  rcases exists_first_failure undelivered with ⟨front, stored, back, rfl, before, failed⟩
  rcases deliverGroups_ahead intact ready covers left before
      with ⟨r', t, rows, log, ready, options, here, whole, delivered⟩
  rcases drop_eq_cons here with ⟨next, -⟩
  rw [← options] at covers failed
  rcases deliverGroups_undelivered intact ready covers next failed
      with ⟨more, e, both, further, broken, begins⟩
  refine ⟨rows ++ more, e, both, log ++ further, ?_, ?_⟩
  · rw [delivered, broken]
    rfl
  · rw [List.map_append, whole, List.flatMap_append, List.flatMap_cons]
    exact (List.prefix_append_right_inj _).mpr (begins.trans (List.prefix_append _ _))

/-- The rows that a pass delivers are those of the groups ahead, in order, and it ends without an
error only after all of them. -/
theorem deliverGroups_in_order {ahead : List StoredGroup} (left : d.groups.drop r.cursor = ahead) :
    let batch := (source file).deliverGroups schema (r, s)
    batch.rows.map some <+: ahead.flatMap (·.rowsUnder schema.names) ∧
      ((∀ e, batch.ending ≠ .failed e) →
        batch.rows.map some = ahead.flatMap (·.rowsUnder schema.names)) := by
  intro batch
  by_cases delivers : ∀ g ∈ ahead, g.Delivers r.options schema.names
  · rcases deliverGroups_all intact ready covers left delivers
        with ⟨rows, both, log, delivered, -, -, whole⟩
    simp only [batch, delivered]
    exact ⟨whole ▸ List.prefix_refl _, fun _ => whole⟩
  · rcases deliverGroups_some intact ready covers left delivers
        with ⟨rows, e, both, log, delivered, begins⟩
    simp only [batch, delivered]
    exact ⟨begins, fun ended => absurd rfl (ended e)⟩

end

end Reader
end RowReader
