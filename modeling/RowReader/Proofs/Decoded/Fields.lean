import RowReader.Decoded.Fields

/-!
# Names of a schema

The schema of a decoded file names the file's fields in their order, and a choice among them names
what was chosen in the order of the choice.
-/

namespace RowReader

namespace DecodedFile

/-- The stored columns can be described: each has a physical type that is known. -/
def Described (d : DecodedFile) : Prop :=
  ∃ leaves, d.leaves = .ok leaves ∧
    ∀ leaf ∈ leaves, (PhysicalType.ofName? leaf.physicalName).isSome

theorem fieldFrom_spec {leaves : List Leaf}
    (known : ∀ leaf ∈ leaves, (PhysicalType.ofName? leaf.physicalName).isSome) (f : TopField) :
    ∃ field, fieldFrom leaves f = .ok field ∧ field.name = f.name := by
  unfold fieldFrom
  cases found : leafAt? leaves f.name with
  | none => exact ⟨groupField f, rfl, rfl⟩
  | some leaf =>
    have inside : leaf ∈ leaves := List.mem_reverse.mp (List.mem_of_find?_eq_some found)
    rcases Option.isSome_iff_exists.mp (known leaf inside) with ⟨physical, named⟩
    simp only [columnField, named]
    exact ⟨_, rfl, rfl⟩

theorem fieldsFrom_spec {leaves : List Leaf}
    (known : ∀ leaf ∈ leaves, (PhysicalType.ofName? leaf.physicalName).isSome)
    (fields : List TopField) :
    ∃ schema : Schema, fields.mapM (fieldFrom leaves) = .ok schema ∧
      schema.names = fields.map TopField.name := by
  induction fields with
  | nil => exact ⟨[], rfl, rfl⟩
  | cons f fields ih =>
    rcases fieldFrom_spec known f with ⟨field, described, name⟩
    rcases ih with ⟨schema, others, names⟩
    refine ⟨field :: schema, ?_, ?_⟩
    · rw [List.mapM_cons, described, others]
      rfl
    · rw [Schema.names, List.map_cons, name, List.map_cons, ← names, Schema.names]

end DecodedFile

namespace Schema

theorem lastNamed?_spec {schema : Schema} {name : String} (present : name ∈ schema.names) :
    ∃ f, schema.lastNamed? name = some f ∧ f.name = name := by
  rcases List.mem_map.mp present with ⟨field, member, same⟩
  have found : (schema.lastNamed? name).isSome :=
    List.find?_isSome.mpr ⟨field, List.mem_reverse.mpr member, beq_iff_eq.mpr same⟩
  rcases Option.isSome_iff_exists.mp found with ⟨f, last⟩
  have match_name := List.find?_some last
  exact ⟨f, last, eq_of_beq match_name⟩

theorem names_filterMap_lastNamed? {schema : Schema} {names : List String}
    (present : ∀ name ∈ names, name ∈ schema.names) :
    Schema.names (names.filterMap schema.lastNamed?) = names := by
  induction names with
  | nil => rfl
  | cons name rest ih =>
    rcases lastNamed?_spec (present name List.mem_cons_self) with ⟨f, found, same⟩
    have others := ih fun other member => present other (List.mem_cons_of_mem name member)
    rw [List.filterMap_cons_some found, Schema.names, List.map_cons, same]
    exact congrArg (name :: ·) others

/-- Names that are there can be chosen, in any order. -/
theorem choose_spec {schema : Schema} {names : List String}
    (present : ∀ name ∈ names, name ∈ schema.names) :
    ∃ chosen : Schema, schema.choose names = .ok chosen ∧ chosen.names = names := by
  have missing : names.filter (fun name => !schema.names.contains name) = [] := by
    apply List.filter_eq_nil_iff.mpr
    intro name member
    simpa using present name member
  refine ⟨names.filterMap schema.lastNamed?, ?_, names_filterMap_lastNamed? present⟩
  simp only [choose, missing, List.isEmpty_nil, if_true]

theorem project_spec {schema : Schema} {columns : Option (List String)}
    (present : ∀ names, columns = some names → ∀ name ∈ names, name ∈ schema.names) :
    ∃ chosen : Schema, schema.project columns = .ok chosen ∧
      chosen.names = columns.getD schema.names := by
  cases columns with
  | none => exact ⟨schema, rfl, rfl⟩
  | some names => exact choose_spec (present names rfl)

end Schema

namespace DecodedFile

/-- The names of all top-level fields, in file order. -/
def fieldNames (d : DecodedFile) : List String := d.fields.map TopField.name

theorem allFields_spec {d : DecodedFile} (described : d.Described) :
    ∃ schema : Schema, d.allFields = .ok schema ∧ schema.names = d.fieldNames := by
  rcases described with ⟨leaves, readable, known⟩
  rcases fieldsFrom_spec known d.fields with ⟨schema, fields, names⟩
  refine ⟨schema, ?_, names⟩
  rw [allFields, readable]
  exact fields

end DecodedFile

namespace Options

/-- Names that a reading with these options hands out, in any order. -/
def Covers (options : Options) (names : List String) : Prop :=
  ∀ columns, options.columns = some columns → ∀ name ∈ names, name ∈ columns

/-- The names that are read from a file: those asked for, or all of its fields'. -/
def namesIn (options : Options) (d : DecodedFile) : List String :=
  options.columns.getD d.fieldNames

theorem covers_namesIn (options : Options) (d : DecodedFile) :
    options.Covers (options.namesIn d) := by
  intro columns asked name member
  rw [namesIn, asked] at member
  exact member

end Options
end RowReader
