import RowReader.Dataset
import RowReader.Proofs.Plain.Reduction
import RowReader.Proofs.Row.Dictionary

/-!
# Reduced datasets

A dataset whose rows stand under the names of its schema is reduced to its schema, the number of its
rows and the rows themselves, in their order.  If the names are distinct, each row is the dictionary in
which every name has the reduced value that is found in the row under it.
-/

namespace RowReader

/-! ## Shapes -/

namespace Value

/-- A list or a tuple becomes the list of its reduced items.  A record becomes the dictionary of its
names, each with its last value. -/
structure KeepsShape (v : Value) (p : Plain) : Prop where
  listed : ∀ items, v = list items ∨ v = tuple items →
    ∃ plains, p = .list plains ∧ List.Forall₂ ReducesTo items plains
  recorded : ∀ cells, v = record cells →
    ∃ entries, p = .dict entries ∧ List.Forall₂ Row.ReducedEntry (Row.toDict ⟨cells⟩) entries ∧
      entries.map Prod.fst = ((cells.map Prod.fst).eraseDups.map Key.text)

end Value

theorem Row.map_fst_of_reduced {cells : List (String × Value)} {entries : List (Key × Plain)}
    (each : List.Forall₂ ReducedEntry cells entries) :
    entries.map Prod.fst = (cells.map Prod.fst).map Key.text := by
  induction each with
  | nil => rfl
  | cons first _ ih => rw [List.map_cons, List.map_cons, List.map_cons, first.1, ih]

theorem Value.ReducesTo.keepsShape {v : Value} {p : Plain} (reduced : v.ReducesTo p) :
    v.KeepsShape p where
  listed items shape := by
    have listed : (list items).ReducesTo p := by
      rcases shape with rfl | rfl
      · exact reduced
      · exact reducesTo_tuple.mp reduced
    rcases reducesTo_list.mp listed with ⟨plains, each, rfl⟩
    exact ⟨plains, rfl, each⟩
  recorded cells shape := by
    subst shape
    have found : Row.toPlain ⟨cells⟩ = .ok p := reduced
    rcases Row.toPlain_toDict found with ⟨entries, rfl, each⟩
    refine ⟨entries, rfl, each, ?_⟩
    rw [Row.map_fst_of_reduced each, Row.map_fst_toDict]
    rfl

/-! ## Rows under their names -/

namespace Row

/-- The entry has the name for a key, and the reduced value that the row has under this name. -/
def ReducedField (row : Row) (name : String) (entry : Key × Plain) : Prop :=
  entry.1 = .text name ∧ ∃ v, row.lookUp (.text name) = .ok v ∧ v.ReducesTo entry.2

/-- A row with distinct names is reduced to the dictionary of what is found under them. -/
theorem toPlain_fields {row : Row} (names : row.fields.Nodup)
    (reduces : ∀ v ∈ row.values, v.Reduces) :
    ∃ entries, row.toPlain = .ok (.dict entries) ∧
      List.Forall₂ row.ReducedField row.fields entries := by
  rcases exists_forall₂ reduces with ⟨plains, reduced⟩
  have found : ∀ cell ∈ row.cells, row.lookUp (.text cell.1) = .ok cell.2 :=
    fun _ member => lookUp_of_mem names member
  have both : List.Forall₂ (fun cell p => row.lookUp (.text cell.1) = .ok cell.2 ∧
      Value.ReducesTo cell.2 p) row.cells plains :=
    (List.forall₂_and_left _ _).mpr ⟨found, List.forall₂_map_left_iff.mp reduced⟩
  refine ⟨_, toPlain_of_nodup names reduced, ?_⟩
  rw [fields, List.map_map]
  refine List.forall₂_map_left_iff.mpr ((forall₂_zip_map _ both).imp fun cell entry field => ?_)
  exact ⟨field.1, cell.2, field.2⟩

end Row

/-! ## Datasets -/

namespace Dataset

/-- The row is reduced to the dictionary of the values under these names. -/
def ReducedRow (names : List String) (row : Row) (p : Plain) : Prop :=
  ∃ entries, p = .dict entries ∧ List.Forall₂ row.ReducedField names entries

/-- Apart from its rows nothing of a dataset can fail to be reduced. -/
theorem toPlain_eq {d : Dataset} {rows : List Plain} (collected : d.rows.mapM Row.toPlain = .ok rows) :
    d.toPlain = .ok (.dict [(.text "schema", .list (d.schema.map Field.toPlain)),
      (.text "num_rows", .int d.size), (.text "rows", .list rows)]) := by
  rw [toPlain, collected]
  rfl

theorem toPlain_rows {d : Dataset} (conform : ∀ row ∈ d.rows, row.fields = d.fieldNames)
    (distinct : d.fieldNames.Nodup) (reduces : ∀ row ∈ d.rows, ∀ v ∈ row.values, v.Reduces) :
    ∃ rows, d.rows.mapM Row.toPlain = .ok rows ∧
      List.Forall₂ (ReducedRow d.fieldNames) d.rows rows := by
  have each : ∀ row ∈ d.rows, ∃ p, row.toPlain = .ok p ∧ ReducedRow d.fieldNames row p := by
    intro row member
    have names := conform row member
    rcases Row.toPlain_fields (names ▸ distinct) (reduces row member) with ⟨entries, reduced, fields⟩
    exact ⟨.dict entries, reduced, entries, rfl, names ▸ fields⟩
  rcases exists_forall₂ each with ⟨rows, both⟩
  exact ⟨rows, mapM_eq_ok_iff.mpr (both.imp fun _ _ => And.left), both.imp fun _ _ => And.right⟩

/-- A value whose dictionaries have keys with fingerprints is not reduced exactly if a tuple or a record
is a key somewhere in it, and the error says so.  What it is reduced to is safe for JSON, is reduced to
itself and has the shape of the value.  A dataset under distinct names, whose values are reduced, is
reduced to as many rows as it has, each of them with every name and the value that the row has there. -/
theorem reduced_values_and_rows :
    (∀ v : Value, v.Keyed →
      ((∃ e, v.toPlain = .error e) ↔ v.HasCompositeKey) ∧
      (∀ e, v.toPlain = .error e → Value.NoKey e) ∧
      ∀ p, v.ReducesTo p → p.toValue.JsonSafe ∧ p.toValue.ReducesTo p ∧ v.KeepsShape p) ∧
    ∀ d : Dataset, (∀ row ∈ d.rows, row.fields = d.fieldNames) → d.fieldNames.Nodup →
      (∀ row ∈ d.rows, ∀ v ∈ row.values, v.Reduces) →
      ∃ rows,
        d.toPlain = .ok (.dict [(.text "schema", .list (d.schema.map Field.toPlain)),
          (.text "num_rows", .int d.size), (.text "rows", .list rows)]) ∧
        rows.length = d.size ∧ List.Forall₂ (ReducedRow d.fieldNames) d.rows rows := by
  constructor
  · intro v keyed
    refine ⟨⟨?_, ?_⟩, ?_, ?_⟩
    · rintro ⟨e, failed⟩
      exact (Value.compositeKey_of_error keyed failed).2
    · intro has
      cases found : v.toPlain with
      | error e => exact ⟨e, rfl⟩
      | ok p => exact absurd ⟨p, found⟩ (Value.not_reduces_of_compositeKey has)
    · intro e failed
      exact (Value.compositeKey_of_error keyed failed).1
    · intro p reduced
      have distinct := Value.distinct_of_toPlain v reduced
      exact ⟨distinct.jsonSafe, distinct.reduced, reduced.keepsShape⟩
  · intro d conform distinct reduces
    rcases toPlain_rows conform distinct reduces with ⟨rows, collected, each⟩
    exact ⟨rows, toPlain_eq collected, each.length_eq.symm, each⟩

/-! ## A mixed dataset -/

/-- Two keys that become one, over bytes and over a tuple. -/
def mixed : Value :=
  .dict [(.int 1, .bytes [0]), (.bool true, .tuple [.null])]

/-- A tuple among the keys. -/
def paired : Value :=
  .dict [(.tuple [.int 1], .null)]

def mixedRows : Dataset where
  rows := [⟨[("a", mixed), ("b", .null)]⟩, ⟨[("a", .int 1), ("b", .text "")]⟩]
  schema := [{ name := "a", typeName := "list" }, { name := "b", typeName := "string" }]

theorem keyed_of_no_parts {v : Value} (none : ∀ u, ¬ Value.Part u v)
    (other : ∀ entries, v ≠ .dict entries) : v.Keyed :=
  fun entries inside => absurd (Value.inside_of_no_parts none inside).symm (other entries)

theorem keyed_tuple {v : Value} (keyed : v.Keyed) : (Value.tuple [v]).Keyed := by
  refine Value.keyed_of_parts ?_ (fun _ => nofun)
  rintro u ⟨⟩
  next member => exact List.mem_singleton.mp member ▸ keyed

theorem keyed_dict {entries : List (Value × Value)}
    (each : ∀ entry ∈ entries, entry.1.Keyed ∧ entry.2.Keyed)
    (hashed : ∀ entry ∈ entries, ∃ print, entry.1.fingerprint = .ok print) :
    (Value.dict entries).Keyed := by
  refine Value.keyed_of_parts ?_ ?_
  · intro u part
    cases part with
    | key member => exact (each _ member).1
    | value member => exact (each _ member).2
  · rintro _ ⟨⟩
    exact hashed

theorem keyed_mixed : mixed.Keyed := by
  refine keyed_dict ?_ ?_
  · simp only [List.forall_mem_cons]
    refine ⟨⟨keyed_of_no_parts ?_ ?_, keyed_of_no_parts ?_ ?_⟩,
      ⟨keyed_of_no_parts ?_ ?_, keyed_tuple (keyed_of_no_parts ?_ ?_)⟩, nofun⟩ <;> exact fun _ => nofun
  · simp only [List.forall_mem_cons]
    exact ⟨⟨_, rfl⟩, ⟨_, rfl⟩, nofun⟩

theorem keyed_paired : paired.Keyed := by
  refine keyed_dict ?_ ?_
  · simp only [List.forall_mem_cons]
    refine ⟨⟨keyed_tuple (keyed_of_no_parts ?_ ?_), keyed_of_no_parts ?_ ?_⟩, nofun⟩ <;>
      exact fun _ => nofun
  · simp only [List.forall_mem_cons]
    exact ⟨⟨_, rfl⟩, nofun⟩

theorem reduced_values_and_rows_of_mixed :
    (∃ e, paired.toPlain = .error e) ∧
    (∃ p, mixed.ReducesTo p ∧ p.toValue.JsonSafe ∧ p.toValue.ReducesTo p ∧ mixed.KeepsShape p) ∧
    ∃ rows,
      mixedRows.toPlain = .ok (.dict [(.text "schema", .list (mixedRows.schema.map Field.toPlain)),
        (.text "num_rows", .int mixedRows.size), (.text "rows", .list rows)]) ∧
      rows.length = mixedRows.size ∧
      List.Forall₂ (ReducedRow mixedRows.fieldNames) mixedRows.rows rows := by
  have composite : paired.HasCompositeKey :=
    ⟨_, Value.inside_self _, _, List.mem_cons_self, .inl ⟨_, rfl⟩⟩
  rcases reduced_values_and_rows with ⟨values, datasets⟩
  refine ⟨(values paired keyed_paired).1.mpr composite, ⟨_, rfl, ?_⟩, datasets mixedRows ?_ ?_ ?_⟩
  · exact (values mixed keyed_mixed).2.2 _ rfl
  · decide
  · decide
  · simp only [mixedRows, List.forall_mem_cons, Row.values, List.map_cons, List.map_nil,
      List.not_mem_nil, false_implies, implies_true, and_true]
    exact ⟨⟨⟨_, rfl⟩, _, rfl⟩, ⟨_, rfl⟩, _, rfl⟩

end Dataset
end RowReader
