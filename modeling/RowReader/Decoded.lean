import RowReader.Error
import RowReader.Value

/-!
# Decoded files

What the decoder of footers and pages makes of a file.  Every part of it may be an error: the
footer, the description of the columns, the pages of a row group, a single column.  The reader
takes all of this as given and never looks at a page itself.
-/

namespace RowReader

/-- A stored column as the footer describes it. -/
structure Leaf where
  /-- The names from the top of the schema down to the column, joined by dots. -/
  path : String
  physicalName : String
  /-- The text by which the logical type is shown. -/
  logicalName : String
  maxDefinition : Int
  maxRepetition : Int

/-- A top-level field as the decoder would hand it out. -/
structure TopField where
  name : String
  typeName : String
  nullable : Bool

/-- A decoded column, or the error met when its values are converted. -/
structure Column where
  name : String
  values : Except Error (Array Value)

/-- The decoded pages of a row group.  The row count stands apart from the columns, because it
outlives them when none is asked for; like the count in the footer it is taken as it is. -/
structure Table where
  rows : Int
  columns : List Column

namespace Table

def columnNames (t : Table) : List String :=
  t.columns.map Column.name

/-- The columns of a name. -/
def named (t : Table) (name : String) : List Column :=
  t.columns.filter fun c => c.name == name

/-- Every column that converts has as many values as the table has rows. -/
def Sized (t : Table) : Prop :=
  ∀ column ∈ t.columns, ∀ values, column.values = .ok values → Int.ofNat values.size = t.rows

end Table

/-! ## Choosing columns -/

/-- How the decoder narrows a table to the columns that are asked for by name.  The columns of these
names stay as they are.  Others may stand beside them, as the decoder takes a name for the beginning
of a path too, and such a column may be a part of one in the table. -/
structure Selection where
  select : List String → Table → Table
  rows_select : ∀ names t, (select names t).rows = t.rows
  named_select : ∀ {names : List String} {name : String} (t : Table), names.Nodup → name ∈ names →
    (select names t).named name = t.named name
  sized_select : ∀ {t : Table} (names : List String), t.Sized → (select names t).Sized
  /-- A part of a column fails by nothing but what the whole fails by. -/
  fails_select : ∀ {names : List String} {t : Table} {part : Column} {e : Error},
    part ∈ (select names t).columns → part.values = .error e →
    ∃ column ∈ t.columns, column.values = .error e

namespace Selection

/-- The table a reading with these names works on; all of it when no names are given. -/
def project (selection : Selection) (names : Option (List String)) (t : Table) : Table :=
  match names with
  | none => t
  | some names => selection.select names t

theorem filter_flatMap_named_of_not_mem {names : List String} {name : String} (t : Table)
    (absent : name ∉ names) : (names.flatMap t.named).filter (fun c => c.name == name) = [] := by
  refine List.filter_eq_nil_iff.mpr fun c member same => ?_
  rcases List.mem_flatMap.mp member with ⟨other, listed, found⟩
  have called : c.name = other := eq_of_beq (List.mem_filter.mp found).2
  exact absent (eq_of_beq same ▸ called ▸ listed)

theorem filter_flatMap_named {names : List String} {name : String} (t : Table)
    (distinct : names.Nodup) (asked : name ∈ names) :
    (names.flatMap t.named).filter (fun c => c.name == name) = t.named name := by
  induction names with
  | nil => cases asked
  | cons first rest ih =>
    rcases List.nodup_cons.mp distinct with ⟨once, others⟩
    rw [List.flatMap_cons, List.filter_append]
    rcases List.mem_cons.mp asked with rfl | later
    · rw [filter_flatMap_named_of_not_mem t once, List.append_nil, Table.named, List.filter_filter]
      simp only [Bool.and_self]
    · have differs : name ≠ first := fun same => once (same ▸ later)
      have none : ([first].flatMap t.named).filter (fun c => c.name == name) = [] :=
        filter_flatMap_named_of_not_mem t (by simpa using differs)
      rw [List.flatMap_singleton] at none
      rw [none, ih others later, List.nil_append]

theorem mem_of_mem_flatMap_named {names : List String} {t : Table} {c : Column}
    (chosen : c ∈ names.flatMap t.named) : c ∈ t.columns := by
  rcases List.mem_flatMap.mp chosen with ⟨name, -, found⟩
  exact (List.mem_filter.mp found).1

/-- The columns asked for and no others, name by name; a name that is not there selects nothing. -/
def byName : Selection where
  select names t := { t with columns := names.flatMap t.named }
  rows_select _ _ := rfl
  named_select t distinct asked := filter_flatMap_named t distinct asked
  sized_select _ sized column chosen := sized column (mem_of_mem_flatMap_named chosen)
  fails_select chosen fails := ⟨_, mem_of_mem_flatMap_named chosen, fails⟩

end Selection

/-! ## Files -/

/-- A row group with what the footer declares about it, and the decoder's way to read only some of its
columns. -/
structure StoredGroup where
  rows : Int
  bytes : Int
  table : Except Error Table
  selection : Selection := .byName

structure DecodedFile where
  leaves : Except Error (List Leaf)
  fields : List TopField
  rows : Int
  groups : List StoredGroup
  closeError : Option Error := none

/-- A file whose footer may be unreadable. -/
abbrev Decoding := Except Error DecodedFile

/-- A file's bytes together with what the decoder makes of them. -/
structure Content where
  bytes : List UInt8
  decoding : Decoding

end RowReader
