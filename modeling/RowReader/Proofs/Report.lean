import RowReader.Proofs.Decoded.Groups
import RowReader.Proofs.Plain.Json
import RowReader.Proofs.Value.Text
import RowReader.Report

/-!
# Rows that are shown

A row that can be made plain has a line of JSON, and rows have a table if none is wider than the schema,
unless there is an integer in them that is too long to be written.
-/

namespace RowReader

/-- The value can be made plain, so it has no key that is a tuple or a record. -/
def Value.Reduces (v : Value) : Prop := ∃ p, v.toPlain = .ok p

theorem Value.cellsToPlain_of_reduces {cells : List (String × Value)}
    (reduce : ∀ cell ∈ cells, cell.2.Reduces) (done : List (Key × Plain)) :
    ∃ entries, cellsToPlain cells done = .ok entries := by
  induction cells generalizing done with
  | nil => exact ⟨done, rfl⟩
  | cons cell rest ih =>
    rcases List.forall_mem_cons.mp reduce with ⟨⟨p, here⟩, there⟩
    rw [cellsToPlain, here]
    exact ih there _

theorem Row.toPlain_of_reduces {row : Row} (reduce : ∀ v ∈ row.values, v.Reduces) :
    ∃ p, row.toPlain = .ok p := by
  have cells : ∀ cell ∈ row.cells, cell.2.Reduces :=
    fun cell member => reduce cell.2 (List.mem_map_of_mem member)
  rcases Value.cellsToPlain_of_reduces cells [] with ⟨entries, entered⟩
  refine ⟨.dict entries, ?_⟩
  rw [Row.toPlain, Row.toValue, Value.toPlain, entered]
  rfl

/-! ## Contents whose values can be made plain -/

/-- Every value of the columns that convert can be made plain. -/
def Table.Reduces (t : Table) : Prop :=
  ∀ column ∈ t.columns, ∀ values, column.values = .ok values → ∀ v ∈ values, v.Reduces

/-- So can every value of the groups whose pages are read. -/
def Content.Reduces (content : Content) : Prop :=
  ∀ d, content.decoding = .ok d → ∀ g ∈ d.groups, ∀ t, g.table = .ok t → t.Reduces

theorem Table.Reduces.of_row? {t : Table} (reduces : t.Reduces) {names : List String} {i : Nat}
    {row : Row} (found : t.row? names i = some row) : ∀ v ∈ row.values, v.Reduces := by
  intro v member
  rcases List.getElem?_of_mem member with ⟨place, held⟩
  have width : row.values.length = names.length := by
    rw [Row.length_values, Table.size_of_row? found]
  have inside : place < names.length := by
    rw [← width]
    exact (List.getElem?_eq_some_iff.mp held).1
  have present : (t.row? names i).isSome := by
    rw [found]
    rfl
  have value := Table.value_of_row? present (List.getElem?_eq_getElem inside)
  rw [found, Option.bind_some, held] at value
  rcases Option.bind_eq_some_iff.mp value.symm with ⟨values, column, here⟩
  rcases Table.column?_eq_some column with ⟨c, listed, -, converts⟩
  exact reduces c listed values converts v (Array.mem_of_getElem? here)

/-- Rows that come from the groups can be made plain. -/
theorem Content.Reduces.of_rows {content : Content} (reduces : content.Reduces) {d : DecodedFile}
    (decoded : content.decoding = .ok d) {names : List String} {rows : List Row}
    (listed : rows.map some ⊆ d.groups.flatMap (·.rowsUnder names)) :
    ∀ row ∈ rows, ∀ v ∈ row.values, v.Reduces := by
  intro row member
  rcases StoredGroup.exists_row?_of_rows listed row member with ⟨g, inside, i, found⟩
  rcases Option.bind_eq_some_iff.mp found with ⟨t, read, here⟩
  exact (reduces d decoded g inside t (toOption_eq_some.mp read)).of_row? here

/-- The row can be made plain, and all integers that are left in it then are short enough to be
written. -/
def Row.Writable (row : Row) : Prop := ∃ p, row.toPlain = .ok p ∧ p.Short

/-- All integers in the row are short enough to be written. -/
def Row.Short (row : Row) : Prop := ∀ v ∈ row.values, v.Short

namespace Report

/-! ## Lines of JSON -/

theorem jsonLine_eq {row : Row} {p : Plain} (plain : row.toPlain = .ok p) :
    jsonLine row = (Json.render .compact p).mapError DatasetError.json := by
  rw [jsonLine, plain]
  rfl

/-- A row that can be written has a line, which is printable. -/
theorem jsonLine_of_writable {row : Row} (writable : row.Writable) :
    ∃ line, jsonLine row = .ok line ∧ PrintableAscii line.toList := by
  rcases writable with ⟨p, plain, short⟩
  rcases Json.render_compact short with ⟨line, written, printable⟩
  refine ⟨line, ?_, printable⟩
  rw [jsonLine_eq plain, written]
  rfl

theorem jsonLine_overlong {row : Row} {p : Plain} (plain : row.toPlain = .ok p)
    (long : ¬ row.Writable) : jsonLine row = .error (.json (.overlong {})) := by
  have long : ¬ p.Short := fun short => long ⟨p, plain, short⟩
  rw [jsonLine_eq plain, Json.render_overlong long]
  rfl

theorem exists_jsonLine_iff {row : Row} : (∃ line, jsonLine row = .ok line) ↔ row.Writable := by
  constructor
  · rintro ⟨line, made⟩
    cases plain : row.toPlain with
    | error e =>
      rw [jsonLine, plain] at made
      cases made
    | ok p =>
      by_contra long
      cases made.symm.trans (jsonLine_overlong plain long)
  · intro writable
    rcases jsonLine_of_writable writable with ⟨line, made, -⟩
    exact ⟨line, made⟩

/-! ## Cells -/

theorem exists_cell_iff {v : Value} : (∃ text, cell v = .ok text) ↔ v.Short := by
  unfold cell
  split
  · exact iff_of_true ⟨_, rfl⟩ Value.short_null
  · rw [exists_ok_map_iff, Value.exists_shown_iff]

theorem exists_cells_iff {row : Row} : (∃ texts, cells row = .ok texts) ↔ row.Short :=
  exists_mapM_iff.trans (forall₂_congr fun _ _ => exists_cell_iff)

theorem cells_overlong {row : Row} (long : ¬ row.Short) : cells row = .error {} :=
  Number.overlong_of_not_ok (mt exists_cells_iff.mp long)

/-- A row has a cell for each of its values. -/
theorem length_of_cells {row : Row} {texts : List (List Char)} (made : cells row = .ok texts) :
    texts.length = row.size := by
  rw [← row.length_values, (mapM_eq_ok_iff.mp made).length_eq]

theorem exists_mapM_cells_iff {rows : List Row} :
    (∃ made, rows.mapM cells = .ok made) ↔ ∀ row ∈ rows, row.Short :=
  exists_mapM_iff.trans (forall₂_congr fun _ _ => exists_cells_iff)

/-- What holds of the size of all rows holds of the number of their cells. -/
theorem length_of_mapM_cells {rows : List Row} {made : List (List (List Char))} {P : Nat → Prop}
    (each : rows.mapM cells = .ok made) (sized : ∀ row ∈ rows, P row.size) :
    ∀ texts ∈ made, P texts.length :=
  forall_mem_of_forall₂ (mapM_eq_ok_iff.mp each).flip
    (fun _ _ found size => (length_of_cells found).symm ▸ size) sized

/-! ## Tables -/

theorem widen_of_length {widths : List Nat} {cells : List (List Char)}
    (fits : cells.length ≤ widths.length) :
    ∃ wider, widen widths cells = some wider ∧ wider.length = widths.length := by
  induction cells generalizing widths with
  | nil => exact ⟨widths, by cases widths <;> rfl, rfl⟩
  | cons text rest ih =>
    cases widths with
    | nil => cases fits
    | cons width widths =>
      rcases ih (Nat.le_of_succ_le_succ fits) with ⟨wider, widened, same⟩
      refine ⟨max width text.length :: wider, ?_, congrArg Nat.succ same⟩
      rw [widen, widened]
      rfl

theorem foldlM_widen_of_length {cells : List (List (List Char))} {widths : List Nat}
    (fit : ∀ row ∈ cells, row.length ≤ widths.length) :
    ∃ wider, cells.foldlM widen widths = some wider ∧ wider.length = widths.length := by
  induction cells generalizing widths with
  | nil => exact ⟨widths, rfl, rfl⟩
  | cons row rest ih =>
    rcases List.forall_mem_cons.mp fit with ⟨here, there⟩
    rcases widen_of_length here with ⟨wider, widened, same⟩
    rw [← same] at there ⊢
    rw [List.foldlM_cons, widened]
    exact ih there

/-- The lines that a table with columns of these widths is joined from. -/
def tableLines (widths : List Nat) (schema : Schema) (made : List (List (List Char))) :
    List String :=
  [tableLine widths (schema.names.map String.toList), tableRule widths]
    ++ made.map (tableLine widths) ++ ["(" ++ toString made.length ++ " rows)"]

section

variable {schema : Schema} {made : List (List (List Char))}

/-- The columns are as wide as the names and the cells of all rows make them. -/
theorem tableOf?_of_widths {widths : List Nat}
    (folded : made.foldlM widen ((schema.names.map String.toList).map List.length) = some widths) :
    tableOf? schema made = some (lines (tableLines widths schema made)) := by
  rw [tableOf?]
  simp only [folded]
  rfl

/-- Rows with no more cells than the schema has fields leave one width for each field. -/
theorem exists_widths (fit : ∀ texts ∈ made, texts.length ≤ schema.length) :
    ∃ widths, made.foldlM widen ((schema.names.map String.toList).map List.length) = some widths ∧
      widths.length = schema.length := by
  have names : ((schema.names.map String.toList).map List.length).length = schema.length := by
    simp [Schema.names]
  rw [← names] at fit
  rcases foldlM_widen_of_length fit with ⟨wider, folded, same⟩
  exact ⟨wider, folded, same.trans names⟩

/-- Rows whose cells are made have the table of their cells, if there is one. -/
theorem table_of_made {rows : List Row} {text : String} (each : rows.mapM cells = .ok made)
    (whole : tableOf? schema made = some text) : table schema rows = .ok text := by
  have taken : (rows.mapM cells).mapError TableError.overlong = .ok made := by
    rw [each]
    rfl
  rw [table, taken]
  simp only [bind, Except.bind, whole]
  rfl

/-- One integer that is too long leaves the rows without a table. -/
theorem table_overlong {rows : List Row} (long : ¬ ∀ row ∈ rows, row.Short) :
    table schema rows = .error (.overlong {}) := by
  rw [table, Number.overlong_of_not_ok (mt exists_mapM_cells_iff.mp long)]
  rfl

end

end Report
end RowReader
