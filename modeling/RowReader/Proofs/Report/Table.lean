import Mathlib.Algebra.Ring.Nat
import Mathlib.Data.List.Basic
import RowReader.Proofs.Report

/-!
# Lines of a table

A table is joined from its lines: the names, a rule, one line for each row, and the number of rows.
Nothing looks for line breaks inside the names and the cells.  A line loses the blanks at its end, and
with them the line breaks at the end of its last cell; any other line break stays and breaks the line
in two.  So a table has as many lines too many as there are line breaks that stay, and its lines are
those it was joined from exactly if none does.
-/

namespace RowReader

namespace Text

variable {inClass : Char → Bool} {c : Char}

/-- Up to a character outside the class nothing is dropped. -/
theorem dropEndWhile_append_cons (kept : inClass c = false) (front back : List Char) :
    dropEndWhile inClass (front ++ c :: back) = front ++ c :: dropEndWhile inClass back := by
  have stops : (c :: front.reverse).dropWhile inClass = c :: front.reverse :=
    List.dropWhile_cons_of_neg (by simp [kept])
  simp only [dropEndWhile, List.reverse_append, List.reverse_cons, List.append_assoc,
    List.singleton_append, List.dropWhile_append, stops]
  split
  · next nothing => simp [List.isEmpty_iff.mp nothing]
  · simp

/-- Characters in the class at the end make no difference. -/
theorem dropEndWhile_append_of_all {back : List Char} (inside : ∀ d ∈ back, inClass d = true)
    (front : List Char) :
    dropEndWhile inClass (front ++ back) = dropEndWhile inClass front := by
  have dropped : ∀ d ∈ back.reverse, inClass d = true :=
    fun d member => inside d (List.mem_reverse.mp member)
  rw [dropEndWhile, List.reverse_append, List.dropWhile_append_of_pos dropped, dropEndWhile]

/-- A character in front is dropped or kept; the others of another kind are as many as without it. -/
theorem count_dropEndWhile_cons {d : Char} (other : c ≠ d) (back : List Char) :
    (dropEndWhile inClass (c :: back)).count d = (dropEndWhile inClass back).count d := by
  simp only [dropEndWhile, List.reverse_cons, List.dropWhile_append]
  split
  · next nothing =>
    rw [List.isEmpty_iff.mp nothing]
    cases kept : inClass c <;> simp [kept, other]
  · simp [other]

end Text

namespace Report

/-! ## Line breaks in a line -/

/-- The line breaks that stay in a line of these cells: all of those in a cell that has another one
behind it, and those in the last cell that have something behind them. -/
def breaks : List (List Char) → Nat
  | [] => 0
  | [last] => (Text.dropEndWhile Text.isBlank last).count '\n'
  | text :: rest => text.count '\n' + breaks rest

theorem count_padRight (width : Nat) (text : List Char) :
    (padRight width text).count '\n' = text.count '\n' := by
  simp [padRight, List.count_replicate]

theorem dropEndWhile_padRight (width : Nat) (text : List Char) :
    Text.dropEndWhile Text.isBlank (padRight width text) =
      Text.dropEndWhile Text.isBlank text := by
  refine Text.dropEndWhile_append_of_all ?_ text
  intro c member
  rw [List.eq_of_mem_replicate member]
  rfl

/-- Whatever the widths of the columns are, a line has the breaks of its cells. -/
theorem count_tableLine {widths : List Nat} {cells : List (List Char)}
    (fits : cells.length ≤ widths.length) :
    (tableLine widths cells).toList.count '\n' = breaks cells := by
  rw [tableLine, String.toList_ofList]
  induction cells generalizing widths with
  | nil => rfl
  | cons text rest ih =>
    cases widths with
    | nil => cases fits
    | cons width widths =>
      have behind := ih (Nat.le_of_succ_le_succ fits)
      cases rest with
      | nil =>
        have alone (shown : List Char × Nat → List Char) :
            ([text].zip (width :: widths)).map shown = [shown (text, width)] := by
          rw [List.zip_cons_cons, List.zip_nil_left, List.map_cons, List.map_nil]
        rw [alone, List.intercalate_singleton, dropEndWhile_padRight, breaks]
      | cons next others =>
        cases widths with
        | nil => cases Nat.le_of_succ_le_succ fits
        | cons wide widths =>
          -- The bar between the cells is no blank, so nothing in front of it is cut off.
          have bar : Text.isBlank '|' = false := rfl
          have parted (tail : List Char) : padRight width text ++ [' ', '|', ' '] ++ tail =
              (padRight width text ++ [' ']) ++ '|' :: ' ' :: tail := by simp
          have blank : [' '].count '\n' = 0 := rfl
          have barred (tail : List Char) : ('|' :: tail).count '\n' = tail.count '\n' :=
            List.count_cons_of_ne (by decide)
          have spaced (tail : List Char) :
              (Text.dropEndWhile Text.isBlank (' ' :: tail)).count '\n' =
                (Text.dropEndWhile Text.isBlank tail).count '\n' :=
            Text.count_dropEndWhile_cons (by decide) tail
          rw [List.zip_cons_cons, List.map_cons] at behind ⊢
          rw [List.zip_cons_cons, List.map_cons, List.intercalate_cons_cons, parted,
            Text.dropEndWhile_append_cons bar, List.count_append, List.count_append, count_padRight,
            blank, barred, spaced, behind]
          rfl

/-! ## Lines of a text -/

/-- The parts of a text between its line breaks. -/
def splitLines (text : String) : List String :=
  (text.toList.splitOn '\n').map String.ofList

/-- A text has one line more than it has line breaks. -/
theorem length_splitLines (text : String) :
    (splitLines text).length = text.toList.count '\n' + 1 := by
  have split (cs : List Char) : (cs.splitOn '\n').length = cs.count '\n' + 1 := by
    induction cs with
    | nil => rfl
    | cons c cs ih =>
      rw [List.splitOn] at ih ⊢
      rw [List.splitOnP_cons_eq_if_modifyHead, List.count_cons]
      split
      · rw [List.length_cons, ih]
      · rw [List.length_modifyHead, ih, Nat.add_zero]
  rw [splitLines, List.length_map, split]

/-- Parts without line breaks are the lines of the text they are joined to. -/
theorem splitLines_lines {parts : List String} (filled : parts ≠ [])
    (whole : ∀ part ∈ parts, part.toList.count '\n' = 0) : splitLines (lines parts) = parts := by
  have absent : ∀ cs ∈ parts.map String.toList, '\n' ∉ cs := by
    intro cs member
    rcases List.mem_map.mp member with ⟨part, listed, rfl⟩
    exact List.count_eq_zero.mp (whole part listed)
  have joined : (lines parts).toList = ['\n'].intercalate (parts.map String.toList) :=
    String.toList_intercalate
  rw [splitLines, joined, List.splitOn_intercalate '\n' absent (by simpa using filled), List.map_map]
  exact (List.map_congr_left fun part _ => String.ofList_toList).trans (List.map_id parts)

/-- Joining parts puts a line break between any two of them. -/
theorem count_lines {parts : List String} (filled : parts ≠ []) :
    (lines parts).toList.count '\n' + 1 =
      parts.length + (parts.map fun part => part.toList.count '\n').sum := by
  induction parts with
  | nil => exact absurd rfl filled
  | cons part rest ih =>
    cases rest with
    | nil => simp [lines]; omega
    | cons next others =>
      have behind := ih (List.cons_ne_nil next others)
      have joined : lines (part :: next :: others) = part ++ "\n" ++ lines (next :: others) :=
        String.intercalate_cons_cons
      have between : "\n".toList.count '\n' = 1 := rfl
      rw [joined, String.toList_append, String.toList_append, List.count_append,
        List.count_append, between, List.map_cons, List.sum_cons, List.length_cons]
      omega

/-! ## Lines of a table -/

/-- The line breaks that stay in the table: those of the names and those of the rows. -/
def tableBreaks (schema : Schema) (made : List (List (List Char))) : Nat :=
  breaks (schema.names.map String.toList) + (made.map breaks).sum

theorem count_tableRule (widths : List Nat) : (tableRule widths).toList.count '\n' = 0 := by
  refine List.count_eq_zero.mpr (PrintableAscii.not_mem (.intercalate (by decide) ?_) (by decide))
  intro part member
  rcases List.mem_map.mp member with ⟨width, -, rfl⟩
  rw [String.toList_ofList]
  intro c inside
  rw [List.eq_of_mem_replicate inside]
  decide

theorem count_rowCount (n : Nat) :
    ("(" ++ toString n ++ " rows)").toList.count '\n' = 0 := by
  have printable : PrintableAscii ("(" ++ toString n ++ " rows)").toList := by
    rw [String.toList_append, String.toList_append]
    exact ((by decide : PrintableAscii "(".toList).append (.ofNat n)).append (by decide)
  exact List.count_eq_zero.mpr (printable.not_mem (by decide))

section

variable {schema : Schema} {made : List (List (List Char))} {widths : List Nat}

/-- The lines that a table is joined from have the breaks of its names and of its rows. -/
theorem count_tableLines (wide : widths.length = schema.length)
    (fit : ∀ texts ∈ made, texts.length ≤ schema.length) :
    ((tableLines widths schema made).map fun part => part.toList.count '\n').sum =
      tableBreaks schema made := by
  have header : (tableLine widths (schema.names.map String.toList)).toList.count '\n' =
      breaks (schema.names.map String.toList) := by
    apply count_tableLine
    simp [Schema.names, wide]
  have body : made.map (fun texts => (tableLine widths texts).toList.count '\n') =
      made.map breaks := by
    refine List.map_congr_left fun texts member => count_tableLine ?_
    rw [wide]
    exact fit texts member
  rw [tableLines, List.map_append, List.map_append, List.sum_append, List.sum_append, List.map_map,
    Function.comp_def, body, List.map_cons, List.map_singleton, List.map_singleton, header,
    count_tableRule, count_rowCount]
  rfl

theorem length_tableLines (widths : List Nat) (schema : Schema) (made : List (List (List Char))) :
    (tableLines widths schema made).length = made.length + 3 := by
  simp [tableLines]

end

/-- Rows as wide as the schema, without integers that are too long to be written, have a table.  It has
one line for each of the names, the rule, the rows and the number of rows, and one more for each line
break that stays.  If none does then its lines are these in their order, and otherwise they are not. -/
theorem table_lines_but_for_breaks {schema : Schema} {rows : List Row}
    (fit : ∀ row ∈ rows, row.size = schema.length) (short : ∀ row ∈ rows, row.Short) :
    ∃ made widths text, rows.mapM cells = .ok made ∧ table schema rows = .ok text ∧
      (splitLines text).length = rows.length + 3 + tableBreaks schema made ∧
      (splitLines text = tableLines widths schema made ↔ tableBreaks schema made = 0) := by
  rcases exists_mapM_cells_iff.mpr short with ⟨made, each⟩
  have within : ∀ texts ∈ made, texts.length ≤ schema.length :=
    length_of_mapM_cells (P := (· ≤ schema.length)) each fun row member =>
      Nat.le_of_eq (fit row member)
  rcases exists_widths within with ⟨widths, folded, wide⟩
  have whole := table_of_made each (tableOf?_of_widths folded)
  have counted := count_tableLines wide within
  have filled : tableLines widths schema made ≠ [] := List.cons_ne_nil _ _
  have many : (splitLines (lines (tableLines widths schema made))).length =
      rows.length + 3 + tableBreaks schema made := by
    rw [length_splitLines, count_lines filled, counted, length_tableLines,
      (mapM_eq_ok_iff.mp each).length_eq]
  refine ⟨made, widths, _, each, whole, many, ?_⟩
  constructor
  · intro same
    rw [same, length_tableLines, (mapM_eq_ok_iff.mp each).length_eq] at many
    omega
  · intro none
    rw [none] at counted
    refine splitLines_lines filled fun part member => ?_
    exact List.sum_eq_zero_iff_forall_eq_nat.mp counted _ (List.mem_map_of_mem member)

/-- A name and three cells with a line break in each. -/
def brokenSchema : Schema :=
  [{ name := "a\nb", typeName := "string" }, { name := "c", typeName := "string" }]

def brokenRows : List Row :=
  [⟨[("a\nb", .text "x\n"), ("c", .text "y\n")]⟩, ⟨[("a\nb", .null), ("c", .text "\ny")]⟩]

theorem short_brokenRows : ∀ row ∈ brokenRows, row.Short := by
  simp only [brokenRows, Row.Short, Row.values, List.forall_mem_cons, List.map_cons, List.map_nil,
    List.not_mem_nil, false_implies, implies_true, and_true]
  exact ⟨⟨Value.short_text, Value.short_text⟩, Value.short_null, Value.short_text⟩

/-- The break at the end of a line is cut off and the other three stay. -/
theorem table_lines_but_for_breaks_of_broken :
    (∀ row ∈ brokenRows, row.size = brokenSchema.length) ∧ (∀ row ∈ brokenRows, row.Short) ∧
      ∃ made widths text, brokenRows.mapM cells = .ok made ∧
        table brokenSchema brokenRows = .ok text ∧
        (splitLines text).length = brokenRows.length + 3 + tableBreaks brokenSchema made ∧
        (splitLines text = tableLines widths brokenSchema made ↔ tableBreaks brokenSchema made = 0) ∧
        tableBreaks brokenSchema made = 3 := by
  have fit : ∀ row ∈ brokenRows, row.size = brokenSchema.length := by decide
  rcases table_lines_but_for_breaks fit short_brokenRows
    with ⟨made, widths, text, each, whole, many, lined⟩
  have cells : brokenRows.mapM cells =
      .ok [["x\n".toList, "y\n".toList], ["null".toList, "\ny".toList]] := by rfl
  cases each.symm.trans cells
  exact ⟨fit, short_brokenRows, _, widths, text, each, whole, many, lined, by decide⟩

/-- One row whose only cell holds a line break is shown on two lines, so that the table has five lines
and not four. -/
theorem broken_cell_takes_two_lines :
    let schema : Schema := [{ name := "note", typeName := "string" }]
    let rows : List Row := [⟨[("note", .text "first\nsecond")]⟩]
    (∀ row ∈ rows, row.size = schema.length) ∧
      ∃ text, table schema rows = .ok text ∧
        splitLines text = ["note", "------------", "first", "second", "(1 rows)"] ∧
        (splitLines text).length ≠ rows.length + 3 := by
  intro schema rows
  have table : table schema rows = .ok "note\n------------\nfirst\nsecond\n(1 rows)" := by decide
  exact ⟨by decide, _, table, rfl, by decide⟩

end Report
end RowReader
