import RowReader.Action
import RowReader.Decoded
import RowReader.Row
import RowReader.Schema

/-!
# Row groups

A row group turns decoded columns into rows.  Columns are converted when the first row is
assembled, and kept for the rows after it as long as they are assembled under the same names.

A group exists only if its pages decoded to as many rows as the footer declares.
-/

namespace RowReader

/-- Converted columns, in the order of the names they were looked up by. -/
structure Converted where
  names : List String
  columns : List (Array Value)

structure RowGroup where
  index : Int
  table : Table
  converted : Option Converted := none

namespace RowGroup

/-- A group whose declared row count its pages confirm. -/
def ofTable (index declared : Int) (table : Table) : Except Error RowGroup :=
  if table.rows = declared then .ok { index, table }
  else .error (.rowCountMismatch index declared table.rows)

/-- The line that reports a new group. -/
def arrival (g : RowGroup) : String :=
  let columns := g.table.columns.length
  s!"ArrowRowGroup {g.index}: {g.table.rows} rows, {columns} columns"

def numRows (g : RowGroup) : Int := g.table.rows

def columns (g : RowGroup) : List String := g.table.columnNames

/-- The only column of a name; several of them cannot be told apart. -/
def soleColumn (t : Table) (name : String) : Except Error (Array Value) :=
  match t.named name with
  | [column] => column.values
  | found =>
    let count := found.length
    .error (.fault ⟨.key, s!"Field \"" ++ name ++ s!"\" exists {count} times in schema"⟩)

/-- Whether a fault says that values have no counterpart, rather than that something broke. -/
def conversionFault (f : Fault) : Bool :=
  f.isDecoder || f.isKey || f.isValue || f.kind == .overflow

/-- How a failed conversion is reported. -/
def conversionError (index : Int) : Error → Error
  | .fault f => if conversionFault f then .unconvertible index f else .fault f
  | e => e

/-- Looks up and converts the columns of the given names. -/
def convert (g : RowGroup) (names : List String) : Except Error Converted :=
  let missing := names.filter fun name => !g.columns.contains name
  if missing.isEmpty then
    match names.mapM (soleColumn g.table) with
    | .ok columns => .ok ⟨names, columns⟩
    | .error e => .error (conversionError g.index e)
  else .error (.fieldsNotDecoded g.index missing g.columns)

/-- The columns kept from an earlier row, if that was assembled under the same names. -/
def kept? (g : RowGroup) (names : List String) : Option Converted :=
  match g.converted with
  | some c => if c.names = names then some c else none
  | none => none

def columnsFor (g : RowGroup) (names : List String) : Except Error Converted :=
  match g.kept? names with
  | some c => .ok c
  | none => g.convert names

/-- One value of each column; a column may be too short to have it. -/
def pick (columns : List (Array Value)) (i : Nat) : Except Error (List Value) :=
  columns.mapM fun column =>
    match column[i]? with
    | some v => .ok v
    | none => .error (.fault ⟨.index, "list index out of range"⟩)

/-- The row at a position, with values in the order of the schema.  What the conversion made is
kept in the group, which is the state. -/
def assemble (schema : Schema) (i : Int) : Action RowGroup Row := fun g =>
  if 0 ≤ i ∧ i < g.numRows then
    match g.columnsFor schema.names with
    | .error e => { result := .error e, state := g }
    | .ok c =>
      { result := (pick c.columns i.toNat).map fun values => ⟨c.names.zip values⟩
        state := { g with converted := some c } }
  else { result := .error (.quoting [i] (.rowOutOfRange i g.index g.numRows)), state := g }

/-- Whether a row under these names would share its names with the row before it. -/
def sharesNames (g : RowGroup) (names : List String) : Bool :=
  (g.kept? names).isSome

def literal (g : RowGroup) : String :=
  let columns := g.table.columns.length
  s!"ArrowRowGroup(index={g.index}, rows={g.numRows}, columns={columns})"

end RowGroup
end RowReader
