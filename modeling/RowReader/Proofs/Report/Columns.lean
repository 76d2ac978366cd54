import Mathlib.Data.List.DropRight
import RowReader.Proofs.Report.Table

/-!
# Columns of a table

The columns of a table stand under each other.  A line is joined from cells as wide as their columns
and then loses the blanks at its end.  What is lost there are blanks of the last cell and at most the
blank that follows the last bar, since a bar is no blank; so the lines that were cut off come back to
the same places once they are padded to the width of the table.  Each cell can then be read off its
column, but for the blanks at its end.
-/

namespace RowReader
namespace Report

/-! ## Parts with bars between them -/

/-- So many characters of a line, from an offset on. -/
def segment (line : List Char) (offset width : Nat) : List Char :=
  (line.drop offset).take width

theorem length_intercalate (bar : List Char) (parts : List (List Char)) :
    (bar.intercalate parts).length =
      (parts.map List.length).sum + bar.length * (parts.length - 1) := by
  induction parts with
  | nil => rfl
  | cons part rest ih =>
    cases rest with
    | nil => simp [List.intercalate_singleton]
    | cons next others =>
      rw [List.intercalate_cons_cons, List.length_append, List.length_append, ih]
      simp only [List.map_cons, List.sum_cons, List.length_cons, Nat.add_sub_cancel, Nat.mul_succ]
      omega

/-- What stands behind some parts and their bars is joined from the other parts. -/
theorem drop_intercalate (bar : List Char) {parts : List (List Char)} {place : Nat}
    (inside : place < parts.length) :
    (bar.intercalate parts).drop (((parts.map List.length).take place).sum + bar.length * place) =
      bar.intercalate (parts.drop place) := by
  induction place generalizing parts with
  | zero => rfl
  | succ place ih =>
    match parts, inside with
    | part :: next :: others, inside =>
      have fewer : place < (next :: others).length := Nat.lt_of_succ_lt_succ inside
      have later := ih fewer
      have start : ((List.map List.length (part :: next :: others)).take (place + 1)).sum +
          bar.length * (place + 1) = (part ++ bar).length +
            (((List.map List.length (next :: others)).take place).sum + bar.length * place) := by
        rw [List.map_cons, List.take_succ_cons, List.sum_cons, List.length_append, Nat.mul_succ]
        omega
      rw [List.intercalate_cons_cons, start, ← List.drop_drop, List.drop_left, later]
      rfl

theorem segment_part (bar : List Char) {part : List Char} {parts : List (List Char)} {place : Nat}
    (here : parts[place]? = some part) :
    segment (bar.intercalate parts)
      (((parts.map List.length).take place).sum + bar.length * place) part.length = part := by
  rcases List.getElem?_eq_some_iff.mp here with ⟨inside, rfl⟩
  rw [segment, drop_intercalate bar inside, List.drop_eq_getElem_cons inside]
  cases parts.drop (place + 1) with
  | nil => rw [List.intercalate_singleton, List.take_length]
  | cons next others => rw [List.intercalate_cons_cons, List.append_assoc, List.take_left]

theorem segment_bar (bar : List Char) {part : List Char} {parts : List (List Char)} {place : Nat}
    (here : parts[place]? = some part) (followed : place + 1 < parts.length) :
    segment (bar.intercalate parts)
      (((parts.map List.length).take place).sum + bar.length * place + part.length) bar.length =
        bar := by
  rcases List.getElem?_eq_some_iff.mp here with ⟨inside, rfl⟩
  rw [segment, ← List.drop_drop, drop_intercalate bar inside, List.drop_eq_getElem_cons inside,
    List.drop_eq_getElem_cons followed, List.intercalate_cons_cons, List.append_assoc,
    List.drop_left, List.take_left]

/-! ## Padding a line back -/

theorem length_padRight {width : Nat} {text : List Char} (fits : text.length ≤ width) :
    (padRight width text).length = width := by
  rw [padRight, List.length_append, List.length_replicate]
  omega

theorem padRight_append (front text : List Char) (width : Nat) :
    padRight (front.length + width) (front ++ text) = front ++ padRight width text := by
  have room : front.length + width - (front ++ text).length = width - text.length := by
    rw [List.length_append]
    omega
  rw [padRight, padRight, room, List.append_assoc]

/-- A blank in front of blanks only is cut off with them, and comes back when the line is padded. -/
theorem padRight_dropEndWhile_blank (width : Nat) (text : List Char) :
    padRight (width + 1) (Text.dropEndWhile Text.isBlank (' ' :: text)) =
      ' ' :: padRight width (Text.dropEndWhile Text.isBlank text) := by
  have blank : Text.isBlank ' ' = true := rfl
  simp only [Text.dropEndWhile, List.reverse_cons, List.dropWhile_append]
  split
  · next nothing =>
    rw [List.isEmpty_iff.mp nothing]
    simp [padRight, blank, List.replicate_succ]
  · simp [padRight]

/-- The width of a table with columns of these widths: the columns and what stands between them. -/
def tableWidth (widths : List Nat) : Nat :=
  widths.sum + 3 * (widths.length - 1)

theorem tableWidth_cons_cons (width next : Nat) (others : List Nat) :
    tableWidth (width :: next :: others) = width + 3 + tableWidth (next :: others) := by
  simp only [tableWidth, List.sum_cons, List.length_cons, Nat.add_sub_cancel, Nat.mul_succ]
  omega

/-- A line that is padded back to the width of the table is joined from parts as wide as the
columns, each of them with its text and blanks behind it. -/
theorem padRight_tableLine {widths : List Nat} {texts : List (List Char)}
    (fits : List.Forall₂ (fun text width => text.length ≤ width) texts widths) :
    ∃ parts, padRight (tableWidth widths) (tableLine widths texts).toList =
        [' ', '|', ' '].intercalate parts ∧ parts.map List.length = widths ∧
      parts.map (Text.dropEndWhile Text.isBlank) = texts.map (Text.dropEndWhile Text.isBlank) := by
  simp only [tableLine, String.toList_ofList]
  induction fits with
  | nil => exact ⟨[], rfl, rfl, rfl⟩
  | @cons text width texts widths fit fits ih =>
    cases fits with
    | nil =>
      have short : (Text.dropEndWhile Text.isBlank text).length ≤ width :=
        Nat.le_trans (List.rdropWhile_prefix Text.isBlank text).length_le fit
      have again : Text.dropEndWhile Text.isBlank (Text.dropEndWhile Text.isBlank text) =
          Text.dropEndWhile Text.isBlank text := List.rdropWhile_idempotent Text.isBlank text
      refine ⟨[padRight width (Text.dropEndWhile Text.isBlank text)], ?_, ?_, ?_⟩
      · rw [List.zip_cons_cons, List.zip_nil_left, List.map_cons, List.map_nil,
          List.intercalate_singleton, List.intercalate_singleton, dropEndWhile_padRight]
        rfl
      · rw [List.map_singleton, length_padRight short]
      · rw [List.map_singleton, dropEndWhile_padRight, again, List.map_singleton]
    | @cons next wide others wides fit' fits' =>
      rcases ih with ⟨parts, joined, lengths, stripped⟩
      -- The bar is no blank, so that nothing in front of it is cut off.
      have bar : Text.isBlank '|' = false := rfl
      have parted (tail : List Char) : padRight width text ++ [' ', '|', ' '] ++ tail =
          (padRight width text ++ [' ']) ++ '|' :: ' ' :: tail := by simp
      have front : (padRight width text ++ [' ', '|']).length = width + 2 := by
        rw [List.length_append, length_padRight fit]
        rfl
      refine ⟨padRight width text :: parts, ?_, ?_, ?_⟩
      · have some_part : parts ≠ [] := by
          rintro rfl
          cases lengths
        rcases List.exists_cons_of_ne_nil some_part with ⟨first, rest, rfl⟩
        rw [List.zip_cons_cons, List.map_cons] at joined ⊢
        rw [List.zip_cons_cons, List.map_cons, List.intercalate_cons_cons, parted,
          Text.dropEndWhile_append_cons bar, tableWidth_cons_cons, List.intercalate_cons_cons,
          ← joined]
        have barred (tail : List Char) : (padRight width text ++ [' ']) ++ '|' :: tail =
            (padRight width text ++ [' ', '|']) ++ tail := by simp
        have room : width + 3 + tableWidth (wide :: wides) =
            (padRight width text ++ [' ', '|']).length + (tableWidth (wide :: wides) + 1) := by
          omega
        rw [barred, room, padRight_append, padRight_dropEndWhile_blank]
        simp
      · rw [List.map_cons, length_padRight fit, lengths]
      · rw [List.map_cons, dropEndWhile_padRight, stripped]
        rfl


/-! ## Widths -/

/-- The texts in the lines above and below the rule: the names, and then the cells of each row. -/
def tableTexts (schema : Schema) (made : List (List (List Char))) : List (List (List Char)) :=
  schema.names.map String.toList :: made

/-- The texts in the column at a place. -/
def columnTexts (schema : Schema) (made : List (List (List Char))) (place : Nat) :
    List (List Char) :=
  (tableTexts schema made).filterMap fun texts => texts[place]?

theorem widen_getElem? {widths wider : List Nat} {cells : List (List Char)}
    (widened : widen widths cells = some wider) (place : Nat) :
    wider[place]? = widths[place]?.map fun width =>
      (cells[place]?.map List.length).elim width (max width) := by
  induction cells generalizing widths wider place with
  | nil =>
    have same : widths = wider := by simpa [widen] using widened
    rw [same]
    cases wider[place]? <;> rfl
  | cons text rest ih =>
    cases widths with
    | nil => cases widened
    | cons width widths =>
      rw [widen] at widened
      rcases Option.map_eq_some_iff.mp widened with ⟨others, below, rfl⟩
      cases place with
      | zero => rfl
      | succ place => exact ih below place

/-- Each column becomes as wide as the widest of its cells, if it was not wider before. -/
theorem foldlM_widen_getElem? {cells : List (List (List Char))} {widths wider : List Nat}
    (folded : cells.foldlM widen widths = some wider) (place : Nat) :
    wider[place]? = widths[place]?.map
      (((cells.filterMap fun texts => texts[place]?).map List.length).foldl max) := by
  induction cells generalizing widths with
  | nil =>
    have same : widths = wider := by simpa using folded
    rw [same]
    cases wider[place]? <;> rfl
  | cons texts rest ih =>
    rw [List.foldlM_cons] at folded
    rcases Option.bind_eq_some_iff.mp folded with ⟨middle, widened, others⟩
    rw [ih others, widen_getElem? widened place, Option.map_map]
    cases held : texts[place]? with
    | none =>
      simp only [List.filterMap_cons, held]
      rfl
    | some text =>
      simp only [List.filterMap_cons, held]
      rfl

theorem length_cell_le {v : Value} {text : List Char} (made : cell v = .ok text) :
    text.length ≤ cellWidth := by
  unfold cell at made
  split at made
  · cases made
    exact length_cut_le _
  · rcases ok_of_map made with ⟨whole, -, rfl⟩
    exact length_cut_le _

section

variable {schema : Schema} {made : List (List (List Char))} {widths : List Nat}

/-- The widths of a table are the lengths of the widest texts of its columns. -/
theorem widths_eq_max?
    (folded : made.foldlM widen ((schema.names.map String.toList).map List.length) = some widths)
    {place : Nat} {f : Field} (here : schema[place]? = some f) :
    widths[place]? = ((columnTexts schema made place).map List.length).max? := by
  have name : (schema.names.map String.toList)[place]? = some f.name.toList := by
    simp [Schema.names, here]
  have first : ((schema.names.map String.toList).map List.length)[place]? =
      some f.name.toList.length := by
    rw [List.getElem?_map, name]
    rfl
  rw [foldlM_widen_getElem? folded, first]
  simp only [columnTexts, tableTexts, List.filterMap_cons, name]
  rfl

theorem length_le_of_mem_columnTexts {rows : List Row} (each : rows.mapM cells = .ok made)
    {place : Nat} {f : Field} (here : schema[place]? = some f) {text : List Char}
    (member : text ∈ columnTexts schema made place) :
    text.length ≤ max f.name.length cellWidth := by
  rcases List.mem_filterMap.mp member with ⟨texts, listed, held⟩
  rcases List.mem_cons.mp listed with rfl | listed
  · have name : f.name.toList = text := by
      simpa [Schema.names, here] using held
    rw [← name, String.length_toList]
    exact Nat.le_max_left _ _
  · have cut : ∀ texts ∈ made, ∀ text ∈ texts, text.length ≤ cellWidth :=
      forall_mem_of_related (mapM_eq_ok_iff.mp each).flip fun _ _ found =>
        forall_mem_of_related (mapM_eq_ok_iff.mp found).flip fun _ _ => length_cell_le
    exact Nat.le_trans (cut texts listed text (List.mem_of_getElem? held)) (Nat.le_max_right _ _)

/-- The names and the cells of a row fit into the columns. -/
theorem fits_of_widths
    (folded : made.foldlM widen ((schema.names.map String.toList).map List.length) = some widths)
    (wide : widths.length = schema.length) {texts : List (List Char)}
    (listed : texts ∈ tableTexts schema made) (same : texts.length = schema.length) :
    List.Forall₂ (fun text width => text.length ≤ width) texts widths := by
  refine List.forall₂_iff_get.mpr ⟨same.trans wide.symm, fun place inside inside' => ?_⟩
  have here : schema[place]? = some schema[place] := List.getElem?_eq_getElem (same ▸ inside)
  have most := widths_eq_max? folded here
  rw [List.getElem?_eq_getElem inside'] at most
  have member : texts[place] ∈ columnTexts schema made place :=
    List.mem_filterMap.mpr ⟨texts, listed, List.getElem?_eq_getElem inside⟩
  exact (List.max?_eq_some_iff.mp most.symm).2 _ (List.mem_map_of_mem member)

end

/-! ## Columns of a table -/

/-- Where the column at a place begins. -/
def columnStart (widths : List Nat) (place : Nat) : Nat :=
  (widths.take place).sum + 3 * place

/-- The line is as wide as the table.  It has the bar between any two columns, and in each column its
text, up to blanks behind it. -/
structure Columned (widths : List Nat) (bar line : List Char) (texts : List (List Char)) : Prop where
  length_eq : line.length = tableWidth widths
  bars : ∀ place width, widths[place]? = some width → place + 1 < widths.length →
    segment line (columnStart widths place + width) 3 = bar
  shown : ∀ (place : Nat) text width, texts[place]? = some text → widths[place]? = some width →
    Text.dropEndWhile Text.isBlank (segment line (columnStart widths place) width) =
      Text.dropEndWhile Text.isBlank text

theorem columned_intercalate {bar : List Char} (three : bar.length = 3)
    {parts texts : List (List Char)}
    (stripped : parts.map (Text.dropEndWhile Text.isBlank) =
      texts.map (Text.dropEndWhile Text.isBlank)) :
    Columned (parts.map List.length) bar (bar.intercalate parts) texts where
  length_eq := by rw [length_intercalate, three, tableWidth, List.length_map]
  bars := by
    intro place width across followed
    rw [List.getElem?_map] at across
    rcases Option.map_eq_some_iff.mp across with ⟨part, found, rfl⟩
    rw [List.length_map] at followed
    have behind := segment_bar bar found followed
    rwa [three] at behind
  shown := by
    intro place text width here across
    rw [List.getElem?_map] at across
    rcases Option.map_eq_some_iff.mp across with ⟨part, found, rfl⟩
    have whole := segment_part bar found
    rw [three] at whole
    have alike := congrArg (fun texts => texts[place]?) stripped
    simp only [List.getElem?_map, found, here, Option.map_some, Option.some.injEq] at alike
    rw [columnStart, whole, alike]

/-- The rule has a dash for each character of a column. -/
theorem columned_tableRule (widths : List Nat) :
    Columned widths "-+-".toList (tableRule widths).toList
      (widths.map fun width => List.replicate width '-') := by
  have joined : (tableRule widths).toList =
      "-+-".toList.intercalate (widths.map fun width => List.replicate width '-') := by
    simp only [tableRule, String.toList_intercalate, List.map_map, Function.comp_def,
      String.toList_ofList]
  have lengths : (widths.map fun width => List.replicate width '-').map List.length = widths := by
    simp only [List.map_map, Function.comp_def, List.length_replicate, List.map_id']
  have columned : Columned _ "-+-".toList _ _ :=
    columned_intercalate rfl
      (rfl : (widths.map fun width => List.replicate width '-').map _ = _)
  rw [lengths, ← joined] at columned
  exact columned

/-- The text of a value; one that is missing is called null. -/
def valueText : Value → Except Number.Overlong (List Char)
  | .null => .ok "null".toList
  | v => v.shown.map String.toList

theorem cell_eq (v : Value) :
    cell v = (valueText v).map fun text =>
      if text.length ≤ 40 then text else text.take 37 ++ "...".toList := by
  have apart (shown : Except Number.Overlong String) :
      (shown.map fun text => cut text.toList) = (shown.map String.toList).map cut := by
    cases shown <;> rfl
  have same : cell v = (valueText v).map cut := by
    unfold cell
    split
    · rfl
    · next other => rw [valueText, apart]; exact other
  rw [same]
  congr 1
  funext text
  rw [cut, cellWidth]
  split
  · next long => rw [if_neg (Nat.not_le.mpr long)]
  · next short => rw [if_pos (Nat.not_lt.mp short)]

/-- The columns of a table whose rows are as wide as the schema.  Each is as wide as the widest of its
name and its cells, so that it takes at most forty characters unless its name is longer.  Every line
of names or cells, padded back to the width of the table, has its bars at the same places as the rule
has its crosses, and shows in each column the text that it was joined from, up to the blanks at the
end of the text.  The text of a cell is that of its value, and its first thirty-seven characters with
an ellipsis if that is longer than forty.

If there is an integer in the rows that is too long to be written then they have no table, and are
refused for this. -/
theorem columns_read_back {schema : Schema} {rows : List Row}
    (fit : ∀ row ∈ rows, row.size = schema.length) :
    ((∀ row ∈ rows, row.Short) → ∃ made widths, rows.mapM cells = .ok made ∧
      table schema rows = .ok (lines (tableLines widths schema made)) ∧
      widths.length = schema.length ∧
      (∀ (place : Nat) f, schema[place]? = some f → ∃ width, widths[place]? = some width ∧
        ((columnTexts schema made place).map List.length).max? = some width ∧
        width ≤ max f.name.length 40) ∧
      (∀ texts ∈ tableTexts schema made, texts.length = schema.length ∧
        Columned widths " | ".toList
          (padRight (tableWidth widths) (tableLine widths texts).toList) texts) ∧
      Columned widths "-+-".toList (tableRule widths).toList
        (widths.map fun width => List.replicate width '-')) ∧
    ((¬ ∀ row ∈ rows, row.Short) → table schema rows = .error (.overlong {})) ∧
    ∀ v, cell v = (valueText v).map fun text =>
      if text.length ≤ 40 then text else text.take 37 ++ "...".toList := by
  refine ⟨fun short => ?_, table_overlong, cell_eq⟩
  rcases exists_mapM_cells_iff.mpr short with ⟨made, each⟩
  have same : ∀ texts ∈ made, texts.length = schema.length :=
    length_of_mapM_cells (P := (· = schema.length)) each fit
  rcases exists_widths fun texts member => Nat.le_of_eq (same texts member)
    with ⟨widths, folded, wide⟩
  refine ⟨made, widths, each, table_of_made each (tableOf?_of_widths folded), wide, ?_, ?_,
    columned_tableRule widths⟩
  · intro place f here
    have inside : place < widths.length := wide ▸ (List.getElem?_eq_some_iff.mp here).1
    have most := widths_eq_max? folded here
    rw [List.getElem?_eq_getElem inside] at most
    refine ⟨_, List.getElem?_eq_getElem inside, most.symm, ?_⟩
    rcases List.mem_map.mp (List.max?_eq_some_iff.mp most.symm).1 with ⟨text, member, same⟩
    rw [← same]
    exact length_le_of_mem_columnTexts each here member
  · intro texts listed
    have same : texts.length = schema.length := by
      rcases List.mem_cons.mp listed with rfl | listed
      · simp [Schema.names]
      · exact same texts listed
    rcases padRight_tableLine (fits_of_widths folded wide listed same)
      with ⟨parts, joined, lengths, stripped⟩
    have three : [' ', '|', ' '].length = 3 := rfl
    have columned := columned_intercalate three stripped
    rw [lengths, ← joined] at columned
    exact ⟨same, columned⟩

/-- Two fields. -/
def notesSchema : Schema :=
  [{ name := "id", typeName := "string" }, { name := "note", typeName := "string" }]

/-- A note that ends with blanks, one that is too long by a character, and one that is empty. -/
def notesRows : List Row :=
  [⟨[("id", .text "7"), ("note", .text "ends \t")]⟩,
    ⟨[("id", .null), ("note", .text "one and forty characters are one too many")]⟩,
    ⟨[("id", .text ""), ("note", .text "")]⟩]

theorem short_notesRows : ∀ row ∈ notesRows, row.Short := by
  simp only [notesRows, Row.Short, Row.values, List.forall_mem_cons, List.map_cons, List.map_nil,
    List.not_mem_nil, false_implies, implies_true, and_true]
  exact ⟨⟨Value.short_text, Value.short_text⟩, ⟨Value.short_null, Value.short_text⟩,
    Value.short_text, Value.short_text⟩

theorem mapM_cells_notesRows : notesRows.mapM cells =
    .ok [["7".toList, "ends \t".toList],
      ["null".toList, "one and forty characters are one too ...".toList],
      ["".toList, "".toList]] := by
  rfl

/-- The last line is empty but for its bar, and even the blank behind that was cut off. -/
theorem columns_read_back_of_notes :
    (∀ row ∈ notesRows, row.size = notesSchema.length) ∧ (∀ row ∈ notesRows, row.Short) ∧
    ∃ made widths, notesRows.mapM cells = .ok made ∧
      table notesSchema notesRows = .ok (lines (tableLines widths notesSchema made)) ∧
      widths = [4, 40] ∧ tableWidth widths = 47 ∧
      tableLine widths ["".toList, "".toList] = "     |" ∧
      Columned widths " | ".toList
        (padRight (tableWidth widths) (tableLine widths ["".toList, "".toList]).toList)
        ["".toList, "".toList] ∧
      Columned widths " | ".toList
        (padRight (tableWidth widths)
          (tableLine widths ["null".toList, "one and forty characters are one too ...".toList]).toList)
        ["null".toList, "one and forty characters are one too ...".toList] := by
  have fit : ∀ row ∈ notesRows, row.size = notesSchema.length := by decide
  rcases (columns_read_back fit).1 short_notesRows
    with ⟨made, widths, each, whole, wide, most, shown, -⟩
  cases each.symm.trans mapM_cells_notesRows
  rcases List.length_eq_two.mp wide with ⟨first, second, rfl⟩
  rcases most 0 _ rfl with ⟨_, here, greatest, -⟩
  rcases most 1 _ rfl with ⟨_, there, greatest', -⟩
  have four : first = 4 :=
    Option.some.inj ((here.trans greatest.symm).trans (by decide : _ = some 4))
  have forty : second = 40 :=
    Option.some.inj ((there.trans greatest'.symm).trans (by decide : _ = some 40))
  subst four forty
  exact ⟨fit, short_notesRows, _, _, each, whole, rfl, rfl, rfl, (shown _ (by decide)).2,
    (shown _ (by decide)).2⟩

/-- The least integer with too many digits leaves its row without a table. -/
theorem overlong_cell_has_no_table :
    let schema : Schema := [{ name := "n", typeName := "decimal" }]
    let rows : List Row := [⟨[("n", .int (10 ^ Number.digitLimit : Nat))]⟩]
    (∀ row ∈ rows, row.size = schema.length) ∧ table schema rows = .error (.overlong {}) := by
  intro schema rows
  refine ⟨List.forall_mem_singleton.mpr rfl, table_overlong fun short => ?_⟩
  have inside : (Value.int (10 ^ Number.digitLimit : Nat)).Short :=
    List.forall_mem_singleton.mp (List.forall_mem_singleton.mp short)
  exact Number.not_short_pow (Value.short_int.mp inside)

end Report
end RowReader
