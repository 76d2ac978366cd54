import RowReader.Proofs.Action.Collect
import RowReader.RowGroup

/-!
# Rows of a group

A row of a group is the transpose of its columns: under given names it holds, for each name, one
value of the only column of that name.  The columns a group keeps are those it would convert
again, so what was assembled before changes nothing about a row.
-/

namespace RowReader

namespace Table

/-- The values of the only column of a name, if there is one such column and it converts. -/
def column? (t : Table) (name : String) : Option (Array Value) :=
  match t.named name with
  | [column] => column.values.toOption
  | _ => none

/-- The row under these names at a position. -/
def row? (t : Table) (names : List String) (i : Nat) : Option Row :=
  (names.mapM fun name => (t.column? name).bind fun values => values[i]?).map fun values =>
    ⟨names.zip values⟩

theorem column?_eq_some {t : Table} {name : String} {values : Array Value}
    (found : t.column? name = some values) :
    ∃ column ∈ t.columns, column.name = name ∧ column.values = .ok values := by
  unfold column? at found
  split at found
  · next column sole =>
    have member : column ∈ t.named name := by
      rw [sole]
      exact List.mem_singleton_self column
    rcases List.mem_filter.mp member with ⟨inside, same⟩
    exact ⟨column, inside, eq_of_beq same, toOption_eq_some.mp found⟩
  · cases found

theorem Sized.size_eq {t : Table} (sized : t.Sized) {name : String} {values : Array Value}
    (found : t.column? name = some values) : Int.ofNat values.size = t.rows := by
  rcases column?_eq_some found with ⟨column, inside, -, converts⟩
  exact sized column inside values converts

theorem mem_columnNames {t : Table} {name : String} {values : Array Value}
    (found : t.column? name = some values) : name ∈ t.columnNames := by
  rcases column?_eq_some found with ⟨column, inside, same, -⟩
  exact List.mem_map.mpr ⟨column, inside, same⟩

theorem fields_of_row? {t : Table} {names : List String} {i : Nat} {row : Row}
    (found : t.row? names i = some row) : row.fields = names := by
  rcases Option.map_eq_some_iff.mp found with ⟨values, collected, rfl⟩
  have width := congrArg List.length (mapM_eq_some_iff.mp collected)
  simp only [List.length_map] at width
  exact List.map_fst_zip (Nat.le_of_eq width)

theorem size_of_row? {t : Table} {names : List String} {i : Nat} {row : Row}
    (found : t.row? names i = some row) : row.size = names.length := by
  rw [← Row.length_fields, fields_of_row? found]

/-- Where there is a row, each name has its column. -/
theorem isSome_column?_of_row? {t : Table} {names : List String} {i : Nat}
    (present : (t.row? names i).isSome) : ∀ name ∈ names, (t.column? name).isSome := by
  rw [row?, Option.isSome_map, isSome_mapM_iff] at present
  intro name member
  exact Option.isSome_of_isSome_bind (present name member)

/-- Where each name has its column, there is a row at every position of the table. -/
theorem Sized.isSome_row? {t : Table} (sized : t.Sized) {names : List String}
    (columns : ∀ name ∈ names, (t.column? name).isSome) {i : Nat} (inside : Int.ofNat i < t.rows) :
    (t.row? names i).isSome := by
  rw [row?, Option.isSome_map, isSome_mapM_iff]
  intro name member
  rcases Option.isSome_iff_exists.mp (columns name member) with ⟨values, found⟩
  rw [← sized.size_eq found] at inside
  have within : i < values.size := Int.ofNat_lt.mp inside
  rw [found, Option.bind_some, Array.getElem?_eq_getElem within]
  rfl

/-- At the place of a name a row holds a value of the column of that name. -/
theorem value_of_row? {t : Table} {names : List String} {i place : Nat} {name : String}
    (present : (t.row? names i).isSome) (named : names[place]? = some name) :
    (t.row? names i).bind (fun row => row.values[place]?) =
      (t.column? name).bind fun values => values[i]? := by
  rcases Option.isSome_iff_exists.mp present with ⟨row, found⟩
  rcases Option.map_eq_some_iff.mp found with ⟨values, collected, same⟩
  have listed := mapM_eq_some_iff.mp collected
  have width := congrArg List.length listed
  simp only [List.length_map] at width
  have held : row.values = values := by
    rw [← same]
    exact List.map_snd_zip (Nat.le_of_eq width.symm)
  have there := congrArg (fun items => items[place]?) listed
  simp only [List.getElem?_map, named, Option.map_some] at there
  rw [found, Option.bind_some, held]
  cases value : values[place]? with
  | none => simp [value] at there
  | some v =>
    rw [value, Option.map_some, Option.some.injEq] at there
    exact there.symm

end Table

/-! ## Chosen columns -/

namespace Selection

variable {selection : Selection} {columns : Option (List String)}

@[simp] theorem rows_project (t : Table) : (selection.project columns t).rows = t.rows := by
  cases columns with
  | none => rfl
  | some names => exact selection.rows_select names t

/-- A name that is asked for has its only column among the chosen columns where it has it among
all of them, wherever the name stands in the choice. -/
theorem column?_project (t : Table) {name : String}
    (distinct : ∀ names, columns = some names → names.Nodup)
    (asked : ∀ names, columns = some names → name ∈ names) :
    (selection.project columns t).column? name = t.column? name := by
  cases columns with
  | none => rfl
  | some names =>
    have same := selection.named_select t (distinct names rfl) (asked names rfl)
    simp only [project, Table.column?, same]

theorem row?_project (t : Table) {names : List String} (i : Nat)
    (distinct : ∀ names, columns = some names → names.Nodup)
    (asked : ∀ chosen, columns = some chosen → ∀ name ∈ names, name ∈ chosen) :
    (selection.project columns t).row? names i = t.row? names i := by
  have alike : ∀ name ∈ names,
      (((selection.project columns t).column? name).bind fun values => values[i]?) =
        (t.column? name).bind fun values => values[i]? := by
    intro name member
    rw [column?_project t distinct fun chosen same => asked chosen same name member]
  rw [Table.row?, Table.row?, mapM_congr alike]

theorem sized_project {t : Table} (sized : t.Sized) : (selection.project columns t).Sized := by
  cases columns with
  | none => exact sized
  | some names => exact selection.sized_select names sized

/-- What a chosen column fails by, a column of the table fails by. -/
theorem fails_project {t : Table} {part : Column} {e : Error}
    (chosen : part ∈ (selection.project columns t).columns) (fails : part.values = .error e) :
    ∃ column ∈ t.columns, column.values = .error e := by
  cases columns with
  | none => exact ⟨part, chosen, fails⟩
  | some names => exact selection.fails_select chosen fails

end Selection

namespace RowGroup

/-! ## Converted columns -/

theorem toOption_soleColumn (t : Table) (name : String) :
    (soleColumn t name).toOption = t.column? name := by
  unfold soleColumn Table.column?
  generalize t.named name = found
  rcases found with _ | ⟨column, _ | ⟨other, rest⟩⟩ <;> rfl

/-- Converting succeeds exactly if each name has its only column. -/
theorem toOption_convert (g : RowGroup) (names : List String) :
    (g.convert names).toOption = (names.mapM g.table.column?).map (Converted.mk names) := by
  have sole : (names.mapM (soleColumn g.table)).toOption = names.mapM g.table.column? := by
    rw [toOption_mapM]
    simp only [toOption_soleColumn]
  rw [convert, ← sole]
  by_cases missing : (names.filter fun name => !g.columns.contains name).isEmpty
  · rw [if_pos missing]
    cases names.mapM (soleColumn g.table) <;> rfl
  · rw [if_neg missing, sole]
    cases collected : names.mapM g.table.column? with
    | none => rfl
    | some columns =>
      have present : names.filter (fun name => !g.columns.contains name) = [] := by
        apply List.filter_eq_nil_iff.mpr
        intro name member
        have some : (g.table.column? name).isSome := isSome_mapM_iff.mp (by rw [collected]; rfl)
          name member
        rcases Option.isSome_iff_exists.mp some with ⟨values, found⟩
        have inside : name ∈ g.columns := Table.mem_columnNames found
        simpa using inside
      exact absurd (by rw [present]; rfl) missing

theorem convert_eq_ok_iff {g : RowGroup} {names : List String} {c : Converted} :
    g.convert names = .ok c ↔ c.names = names ∧ names.mapM g.table.column? = some c.columns := by
  rw [← toOption_eq_some, toOption_convert]
  rcases c with ⟨kept, columns⟩
  cases names.mapM g.table.column? with
  | none => simp
  | some found =>
    simp only [Option.map_some, Option.some.injEq, Converted.mk.injEq]
    constructor
    · rintro ⟨rfl, rfl⟩
      exact ⟨rfl, rfl⟩
    · rintro ⟨rfl, rfl⟩
      exact ⟨rfl, rfl⟩

theorem convert_isOk_iff {g : RowGroup} {names : List String} :
    (∃ c, g.convert names = .ok c) ↔ ∀ name ∈ names, (g.table.column? name).isSome := by
  rw [← isSome_mapM_iff, Option.isSome_iff_exists]
  constructor
  · rintro ⟨c, converted⟩
    exact ⟨c.columns, (convert_eq_ok_iff.mp converted).2⟩
  · rintro ⟨columns, found⟩
    exact ⟨⟨names, columns⟩, convert_eq_ok_iff.mpr ⟨rfl, found⟩⟩

/-! ## Kept columns -/

/-- The columns a group keeps are those it would convert again. -/
def Faithful (g : RowGroup) : Prop :=
  ∀ c, g.converted = some c → g.convert c.names = .ok c

theorem faithful_of_fresh {g : RowGroup} (fresh : g.converted = none) : g.Faithful := by
  intro c kept
  rw [fresh] at kept
  cases kept

theorem columnsFor_eq {g : RowGroup} (faithful : g.Faithful) (names : List String) :
    g.columnsFor names = g.convert names := by
  unfold columnsFor kept?
  cases kept : g.converted with
  | none => rfl
  | some c =>
    by_cases same : c.names = names
    · simp only [if_pos same]
      rw [← same]
      exact (faithful c kept).symm
    · simp only [if_neg same]

theorem toOption_pick (columns : List (Array Value)) (i : Nat) :
    (pick columns i).toOption = columns.mapM fun column => column[i]? := by
  rw [pick, toOption_mapM]
  congr 1
  funext column
  cases column[i]? <;> rfl

/-- A row is assembled from a group as if nothing had been assembled from it before, and the group
that is handed back has the same table and is faithful again. -/
theorem assemble_faithful {g : RowGroup} (faithful : g.Faithful) (schema : Schema) (i : Int) :
    (g.assemble schema i).result = (assemble schema i { g with converted := none }).result ∧
      (g.assemble schema i).state.index = g.index ∧ (g.assemble schema i).state.table = g.table ∧
      (g.assemble schema i).state.Faithful := by
  have fresh := columnsFor_eq (faithful_of_fresh (g := { g with converted := none }) rfl) schema.names
  have alike : convert { g with converted := none } schema.names = g.convert schema.names := rfl
  unfold assemble numRows
  simp only [fresh, alike, columnsFor_eq faithful]
  by_cases inside : 0 ≤ i ∧ i < g.table.rows
  · simp only [if_pos inside]
    cases converted : g.convert schema.names with
    | error e => exact ⟨rfl, rfl, rfl, faithful⟩
    | ok c =>
      refine ⟨rfl, rfl, rfl, ?_⟩
      intro kept same
      cases same
      rw [(convert_eq_ok_iff.mp converted).1]
      exact converted
  · simp only [if_neg inside]
    exact ⟨trivial, trivial, trivial, faithful⟩

/-- A row inside a group whose columns convert is the transpose of them. -/
theorem toOption_assemble {g : RowGroup} (faithful : g.Faithful) (schema : Schema) {i : Nat}
    (inside : Int.ofNat i < g.numRows) :
    (g.assemble schema (Int.ofNat i)).result.toOption = g.table.row? schema.names i := by
  have within : 0 ≤ Int.ofNat i ∧ Int.ofNat i < g.numRows := ⟨Int.natCast_nonneg i, inside⟩
  unfold assemble
  simp only [if_pos within, columnsFor_eq faithful]
  cases converted : g.convert schema.names with
  | error e =>
    have nothing : g.table.row? schema.names i = none := by
      apply Option.eq_none_iff_forall_not_mem.mpr
      intro row member
      have present : (g.table.row? schema.names i).isSome := by
        rw [member]
        rfl
      rcases convert_isOk_iff.mpr (Table.isSome_column?_of_row? present) with ⟨c, converts⟩
      rw [converted] at converts
      cases converts
    rw [nothing]
    rfl
  | ok c =>
    rcases convert_eq_ok_iff.mp converted with ⟨names, columns⟩
    have picked := toOption_pick c.columns i
    rw [mapM_bind columns] at picked
    rw [Table.row?, ← picked]
    simp only [names, Int.toNat_natCast, Int.ofNat_eq_natCast]
    cases pick c.columns i <;> rfl

end RowGroup
end RowReader
