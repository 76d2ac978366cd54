import Mathlib.Data.List.Basic
import RowReader.Options
import RowReader.Proofs.RowGroup

/-!
# Stored row groups

A stored row group is readable under given names if it is not too large, its pages decode to the
declared row count, and, unless it has no rows, each name has its column.  What it holds under the
names can be listed row by row, or for each name value by value; the two lists hold the same
values.
-/

namespace RowReader

namespace StoredGroup

/-- The values of the only column of a name, if the pages decode and there is one that converts. -/
def column? (g : StoredGroup) (name : String) : Option (Array Value) :=
  g.table.toOption.bind fun t => t.column? name

/-- The row under these names at a position of the decoded pages. -/
def row? (g : StoredGroup) (names : List String) (i : Nat) : Option Row :=
  g.table.toOption.bind fun t => t.row? names i

/-- What the group holds under these names, one row after another. -/
def rowsUnder (g : StoredGroup) (names : List String) : List (Option Row) :=
  (List.range g.rows.toNat).map (g.row? names)

/-- The values of the column of a name, or none where there is no such column. -/
def valuesUnder (g : StoredGroup) (name : String) : List Value :=
  ((g.column? name).map Array.toList).getD []

/-- Every column of the decoded pages that converts has a value for each row. -/
def Sized (g : StoredGroup) : Prop :=
  ∀ t, g.table = .ok t → t.Sized

/-- The pages are read and decode to as many rows as the footer declares. -/
structure Decodes (options : Options) (g : StoredGroup) : Prop where
  within : ∀ limit, options.maxRowGroupBytes = some limit → g.bytes ≤ limit
  counted : ∃ t, g.table = .ok t ∧ t.rows = g.rows

/-- The group decodes and each of its rows is there under these names. -/
structure Delivers (options : Options) (names : List String) (g : StoredGroup) : Prop
    extends Decodes options g where
  rows : ∀ i, Int.ofNat i < g.rows → (g.row? names i).isSome

/-- The group decodes and, unless it has no rows, each name has its column. -/
structure Readable (options : Options) (names : List String) (g : StoredGroup) : Prop
    extends Decodes options g where
  converts : 0 < g.rows → ∀ name ∈ names, (g.column? name).isSome

theorem isSome_column?_of_row? {g : StoredGroup} {names : List String} {i : Nat}
    (present : (g.row? names i).isSome) : ∀ name ∈ names, (g.column? name).isSome := by
  unfold row? at present
  unfold column?
  cases decoded : g.table.toOption with
  | none => simp [decoded] at present
  | some t =>
    rw [decoded, Option.bind_some] at present
    exact Table.isSome_column?_of_row? present

theorem fields_of_row? {g : StoredGroup} {names : List String} {i : Nat} {row : Row}
    (found : g.row? names i = some row) : row.fields = names := by
  rcases Option.bind_eq_some_iff.mp found with ⟨t, -, inside⟩
  exact Table.fields_of_row? inside

theorem Readable.isSome_row? {options : Options} {names : List String} {g : StoredGroup}
    (readable : g.Readable options names) (sized : g.Sized) {i : Nat}
    (inside : Int.ofNat i < g.rows) : (g.row? names i).isSome := by
  rcases readable.counted with ⟨t, decoded, counted⟩
  have columns := readable.converts (Int.lt_of_le_of_lt (Int.natCast_nonneg i) inside)
  unfold column? at columns
  rw [decoded] at columns
  rw [row?, decoded]
  rw [← counted] at inside
  exact (sized t decoded).isSome_row? columns inside

theorem Delivers.readable {options : Options} {names : List String} {g : StoredGroup}
    (delivers : g.Delivers options names) : g.Readable options names :=
  ⟨delivers.toDecodes, fun inside => isSome_column?_of_row? (delivers.rows 0 inside)⟩

/-- A group with a value for each row and column delivers its rows exactly if it has the columns. -/
theorem Sized.delivers_iff {options : Options} {names : List String} {g : StoredGroup}
    (sized : g.Sized) : g.Delivers options names ↔ g.Readable options names :=
  ⟨Delivers.readable, fun readable => ⟨readable.toDecodes, fun _ => readable.isSome_row? sized⟩⟩

theorem Sized.size_eq {g : StoredGroup} (sized : g.Sized) {t : Table} (decoded : g.table = .ok t)
    (counted : t.rows = g.rows) {name : String} {values : Array Value}
    (found : g.column? name = some values) : g.rows.toNat = values.size := by
  rw [column?, decoded] at found
  rw [← counted, ← (sized t decoded).size_eq found]
  exact Int.toNat_natCast values.size

/-- Down the rows of a readable group, the values at the place of a name are those of its
column. -/
theorem Readable.values_rowsUnder {options : Options} {names : List String} {g : StoredGroup}
    (readable : g.Readable options names) (sized : g.Sized) {place : Nat} {name : String}
    (named : names[place]? = some name) :
    (g.rowsUnder names).map (fun row? => row?.bind fun row => row.values[place]?) =
      (g.valuesUnder name).map some := by
  rcases readable.counted with ⟨t, decoded, counted⟩
  have across : (g.rowsUnder names).map (fun row? => row?.bind fun row => row.values[place]?) =
      (List.range g.rows.toNat).map fun i => (g.column? name).bind fun values => values[i]? := by
    rw [rowsUnder, List.map_map]
    apply List.map_congr_left
    intro i member
    have inside : Int.ofNat i < g.rows := by
      have below := List.mem_range.mp member
      simp only [Int.ofNat_eq_natCast]
      omega
    have present := readable.isSome_row? sized inside
    rw [row?, decoded] at present
    simp only [Function.comp_apply, row?, column?, decoded]
    exact Table.value_of_row? present named
  rw [across, valuesUnder]
  cases found : g.column? name with
  | none =>
    have empty : ¬ 0 < g.rows := by
      intro positive
      have column := readable.converts positive name (List.mem_of_getElem? named)
      rw [found] at column
      cases column
    have none : g.rows.toNat = 0 := by omega
    rw [none]
    rfl
  | some values =>
    rw [sized.size_eq decoded counted found]
    exact map_range_getElem? values

/-! ## Group after group -/

/-- Each of these rows is at some position of some group. -/
theorem exists_row?_of_rows {rows : List Row} {fields : List String} {groups : List StoredGroup}
    (listed : rows.map some ⊆ groups.flatMap (·.rowsUnder fields)) :
    ∀ row ∈ rows, ∃ g ∈ groups, ∃ i, g.row? fields i = some row := by
  intro row member
  rcases List.mem_flatMap.mp (listed (List.mem_map_of_mem member)) with ⟨g, there, inside⟩
  rcases List.mem_map.mp inside with ⟨i, -, found⟩
  exact ⟨g, there, i, found⟩

theorem fields_of_rows {rows : List Row} {fields : List String} {groups : List StoredGroup}
    (whole : rows.map some = groups.flatMap (·.rowsUnder fields)) :
    ∀ row ∈ rows, row.fields = fields := by
  intro row member
  have listed : rows.map some ⊆ groups.flatMap (·.rowsUnder fields) :=
    List.subset_def.mpr fun inside => whole ▸ inside
  rcases exists_row?_of_rows listed row member with ⟨g, -, i, found⟩
  exact fields_of_row? found

/-- Down the rows of all groups, the values at the place of a name are those of its columns. -/
theorem values_of_rows {rows : List Row} {fields : List String} {groups : List StoredGroup}
    {options : Options} (whole : rows.map some = groups.flatMap (·.rowsUnder fields))
    (readable : ∀ g ∈ groups, g.Readable options fields) (sized : ∀ g ∈ groups, g.Sized)
    {place : Nat} {name : String} (named : fields[place]? = some name) :
    rows.map (fun row => row.values[place]?) =
      (groups.flatMap (·.valuesUnder name)).map some := by
  have down : rows.map (fun row => row.values[place]?) =
      (rows.map some).map fun row? => row?.bind fun row => row.values[place]? := by
    rw [List.map_map]
    rfl
  rw [down, whole, List.map_flatMap, List.map_flatMap]
  apply List.flatMap_congr
  intro g member
  exact (readable g member).values_rowsUnder (sized g member) named

end StoredGroup

end RowReader
