import RowReader.Dataset
import RowReader.Text.Blank

/-!
# Reports

The texts shown to a person: a schema line by line, a summary of a file, and a table of rows.  The
table has one column for each field, as wide as its widest cell or name.  A cell is cut to forty
characters.

Whatever shows an integer is refused if that is too long to be written.
-/

namespace RowReader
namespace Report

/-- The most characters a cell shows. -/
def cellWidth : Nat := 40

def heading (title : String) : String :=
  title ++ "\n" ++ String.ofList (List.replicate 60 '=')

/-- A number right-aligned in two places. -/
def twoPlaces (n : Nat) : String :=
  (if n < 10 then " " else "") ++ toString n

def fieldLines (schema : Schema) : List String :=
  schema.zipIdx.map fun (field, i) => "  " ++ twoPlaces i ++ ": " ++ field.text

def lines (parts : List String) : String :=
  String.intercalate "\n" parts

def schemaText (schema : Schema) : String :=
  lines (heading "Schema Structure" :: fieldLines schema)

def summary (location : String) (rows groups : Int) (schema : Schema) :
    Except Number.Overlong String := do
  let total ← Number.groupThousands rows
  let many ← Number.writeInteger groups
  return lines ([heading "Parquet File Summary",
      "Source: " ++ location,
      "Total rows: " ++ total,
      "Row groups: " ++ many,
      "Fields: " ++ toString schema.length]
    ++ (if schema.isEmpty then []
      else ["\nSchema Structure:", String.ofList (List.replicate 40 '-')] ++ fieldLines schema))

/-- A text cut to the width of a cell, with an ellipsis for what is cut. -/
def cut (text : List Char) : List Char :=
  if cellWidth < text.length then text.take (cellWidth - 3) ++ "...".toList else text

theorem length_cut_le (text : List Char) : (cut text).length ≤ cellWidth := by
  simp only [cut]
  split
  · simp only [List.length_append, List.length_take, cellWidth]
    exact Nat.add_le_add_right (Nat.min_le_left _ _) _
  · omega

def cell : Value → Except Number.Overlong (List Char)
  | .null => .ok (cut "null".toList)
  | v => v.shown.map fun text => cut text.toList

/-- The cells of a row. -/
def cells (row : Row) : Except Number.Overlong (List (List Char)) :=
  row.values.mapM cell

/-- A cell filled up with blanks on the right. -/
def padRight (width : Nat) (text : List Char) : List Char :=
  text ++ List.replicate (width - text.length) ' '

/-- Widens each column for a row of cells.  A row may not have more cells than there are columns. -/
def widen : (widths : List Nat) → (cells : List (List Char)) → Option (List Nat)
  | widths, [] => some widths
  | [], _ :: _ => none
  | width :: widths, text :: cells => (widen widths cells).map (max width text.length :: ·)

/-- Cells side by side, without the blanks at the end. -/
def tableLine (widths : List Nat) (cells : List (List Char)) : String :=
  let padded := (cells.zip widths).map fun (text, width) => padRight width text
  String.ofList (Text.dropEndWhile Text.isBlank (List.intercalate [' ', '|', ' '] padded))

def tableRule (widths : List Nat) : String :=
  String.intercalate "-+-" (widths.map fun width => String.ofList (List.replicate width '-'))

/-- A table from the cells of its rows: names, a rule, one line for each row, and the number of rows.
There is none for a row with more cells than the schema has fields. -/
def tableOf? (schema : Schema) (rows : List (List (List Char))) : Option String := do
  let names := schema.names.map String.toList
  let widths ← rows.foldlM widen (names.map List.length)
  return lines ([tableLine widths names, tableRule widths] ++ rows.map (tableLine widths)
    ++ ["(" ++ toString rows.length ++ " rows)"])

/-- Why rows have no table. -/
inductive TableError where
  | overlong (e : Number.Overlong)
  | rowTooWide
  deriving DecidableEq, Repr

def TableError.message : TableError → String
  | .overlong e => e.message
  | .rowTooWide => "list index out of range"

/-- A table of rows, whose cells are all made before any is placed. -/
def table (schema : Schema) (rows : List Row) : Except TableError String := do
  let made ← (rows.mapM cells).mapError TableError.overlong
  match tableOf? schema made with
  | some text => return text
  | none => throw .rowTooWide

/-- A row as one line of JSON. -/
def jsonLine (row : Row) : Except DatasetError String := do
  let plain ← row.toPlain.mapError DatasetError.unhashable
  (Json.render Json.Layout.compact plain).mapError DatasetError.json

end Report
end RowReader
