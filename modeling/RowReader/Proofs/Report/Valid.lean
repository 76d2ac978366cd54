import RowReader.Proofs.Dataset
import RowReader.Proofs.Plain.Valid

/-!
# Rows and datasets as JSON

A decoded value holds no record, its dictionaries have distinct texts for keys, its durations are in
range, and its integers are short enough to be written.  Such a value can be made plain, and the doubles in it are those of the plain value together with
the seconds of its durations, which are finite.  So a row and a dataset of such values always have a
text, and it is JSON exactly if every double at any depth is finite.

The values of a row are those of its dictionary: of a name that is repeated only the last one counts.
-/

namespace RowReader

namespace Plain

theorem finite_float {x : Number.Binary64} : (float x).Finite ↔ Json.isFinite x = true := by
  constructor
  · rintro ⟨⟩
    assumption
  · exact .float

theorem finite_list {items : List Plain} : (list items).Finite ↔ ∀ v ∈ items, v.Finite := by
  constructor
  · rintro ⟨⟩
    assumption
  · exact .list

theorem finite_dict {entries : List (Key × Plain)} :
    (dict entries).Finite ↔ ∀ entry ∈ entries, entry.2.Finite := by
  constructor
  · rintro ⟨⟩
    assumption
  · exact .dict

end Plain

namespace Value

/-! ## Decoded values -/

/-- A value of the kinds that files are decoded to. -/
structure Decodable (v : Value) : Prop where
  named : ∀ entries, Inside (dict entries) v → ∃ cells : List (String × Value),
    entries = cells.map (fun cell => (text cell.1, cell.2)) ∧ (cells.map Prod.fst).Nodup
  unrecorded : ∀ cells, ¬ Inside (record cells) v
  inRange : ∀ d, Inside (duration d) v → d.InRange
  short : v.Short

/-- All doubles in the value are finite. -/
def Finite (v : Value) : Prop := ∀ x, Inside (float x) v → Json.isFinite x = true

theorem Decodable.part {u v : Value} (decodable : Decodable v) (part : Part u v) : Decodable u where
  named entries inside := decodable.named entries (inside.of_part part)
  unrecorded cells inside := decodable.unrecorded cells (inside.of_part part)
  inRange d inside := decodable.inRange d (inside.of_part part)
  short n inside := decodable.short n (inside.of_part part)

theorem decodable_of_parts {v : Value} (parts : ∀ u, Part u v → u.Decodable)
    (named : ∀ entries, v = dict entries → ∃ cells : List (String × Value),
      entries = cells.map (fun cell => (text cell.1, cell.2)) ∧ (cells.map Prod.fst).Nodup)
    (unrecorded : ∀ cells, v ≠ record cells) (inRange : ∀ d, v = duration d → d.InRange)
    (short : ∀ n, v = int n → Number.Short n) : v.Decodable := by
  refine ⟨fun entries inside => ?_, fun cells inside => ?_, fun d inside => ?_,
    fun n inside => ?_⟩ <;> rcases inside.cases_tail with same | ⟨u, inner, part⟩
  · exact named entries same
  · exact (parts u part).named entries inner
  · exact unrecorded cells same
  · exact (parts u part).unrecorded cells inner
  · exact inRange d same
  · exact (parts u part).inRange d inner
  · exact short n same
  · exact (parts u part).short n inner

/-- The doubles in a value that is none itself are those in its parts. -/
theorem finite_iff_parts {v : Value} (other : ∀ x, v ≠ float x) :
    v.Finite ↔ ∀ u, Part u v → u.Finite :=
  forall_inside_iff_parts other

theorem finite_float {x : Number.Binary64} : (float x).Finite ↔ Json.isFinite x = true := by
  constructor
  · exact fun finite => finite x (inside_self _)
  · intro finite y inside
    have same : float y = float x := inside_of_no_parts (fun _ => nofun) inside
    cases same
    exact finite

theorem finite_list {items : List Value} : (list items).Finite ↔ ∀ v ∈ items, v.Finite := by
  refine (finite_iff_parts ?_).trans ?_
  · exact fun _ => nofun
  constructor
  · exact fun parts v member => parts v (.item member)
  · rintro each u ⟨⟩
    next member => exact each u member

theorem finite_tuple {items : List Value} : (tuple items).Finite ↔ ∀ v ∈ items, v.Finite := by
  refine (finite_iff_parts ?_).trans ?_
  · exact fun _ => nofun
  constructor
  · exact fun parts v member => parts v (.place member)
  · rintro each u ⟨⟩
    next member => exact each u member

theorem part_of_mem {cells : List (String × Value)} {cell : String × Value} (member : cell ∈ cells) :
    Part cell.2 (dict (cells.map fun cell => (text cell.1, cell.2))) :=
  .value (List.mem_map_of_mem (f := fun cell => (text cell.1, cell.2)) member)

/-- Texts as keys have no doubles in them. -/
theorem finite_dict {cells : List (String × Value)} :
    (dict (cells.map fun cell => (text cell.1, cell.2))).Finite ↔ ∀ cell ∈ cells, cell.2.Finite := by
  refine (finite_iff_parts ?_).trans ?_
  · exact fun _ => nofun
  constructor
  · exact fun parts cell member => parts cell.2 (part_of_mem member)
  · intro each u part
    cases part with
    | key member =>
      rcases List.mem_map.mp member with ⟨cell, -, rfl⟩
      refine (finite_iff_parts ?_).mpr ?_ <;> rintro _ ⟨⟩
    | value member =>
      rcases List.mem_map.mp member with ⟨cell, there, rfl⟩
      exact each cell there

/-- What a value comes to that is plain, can be written, and is finite together with the value. -/
structure Comes (v : Value) (p : Plain) : Prop where
  reduced : v.ReducesTo p
  short : p.Short
  finite_iff : p.Finite ↔ v.Finite

theorem Comes.list {v : Value} {items : List Value} {plains : List Plain}
    (each : List.Forall₂ Comes items plains) (finite : v.Finite ↔ ∀ u ∈ items, u.Finite)
    (reduced : (list items).ReducesTo (.list plains) → v.ReducesTo (.list plains)) :
    v.Comes (.list plains) where
  reduced := reduced (reducesTo_list.mpr ⟨plains, each.imp fun _ _ here => here.reduced, rfl⟩)
  short := .list (forall_mem_of_related each.flip fun _ _ here => here.short)
  finite_iff := by
    rw [Plain.finite_list, finite]
    exact forall_mem_iff_of_forall₂ each.flip fun _ _ here => here.finite_iff

/-- With distinct texts for keys a dictionary is reduced like a record. -/
theorem Comes.dict {cells : List (String × Value)} {plains : List Plain}
    (names : (cells.map Prod.fst).Nodup)
    (each : List.Forall₂ (fun cell p => Comes cell.2 p) cells plains) :
    (dict (cells.map fun cell => (text cell.1, cell.2))).Comes
      (.dict ((cells.map fun cell => Key.text cell.1).zip plains)) where
  reduced := by
    have reduced : List.Forall₂ (fun cell p => ReducesTo cell.2 p) cells plains :=
      each.imp fun _ _ here => here.reduced
    have fresh : ∀ entry ∈ ([] : List (Key × Plain)), ∀ cell ∈ cells,
        entry.1.same (.text cell.1) = false := List.forall_mem_nil _
    have entered := cellsToPlain_of_fresh reduced names fresh
    rw [ReducesTo, toPlain, ← cellsToPlain_eq, entered]
    rfl
  short := by
    have entries := (forall₂_zip_map (fun cell => Key.text cell.1) each).flip
    refine Plain.short_dict.mpr (forall_mem_of_related entries fun entry cell here => ?_)
    exact ⟨here.1 ▸ trivial, here.2.short⟩
  finite_iff := by
    rw [Plain.finite_dict, finite_dict]
    exact forall_mem_iff_of_forall₂ (forall₂_zip_map _ each).flip fun _ _ entry =>
      entry.2.finite_iff

/-- A value of the kinds that files are decoded to can be made plain and written, and both are finite
together. -/
theorem Decodable.comes {v : Value} (decodable : v.Decodable) : ∃ p, v.Comes p := by
  induction v using of_parts with
  | step v ih =>
    have part {u : Value} (part : Part u v) : ∃ p, u.Comes p := ih u part (decodable.part part)
    have scalar {p : Plain} (reduced : v.ReducesTo p) (short : p.Short) (finite : p.Finite)
        (none : ∀ u, ¬ Part u v) (other : ∀ x, v ≠ float x) : ∃ p, v.Comes p :=
      ⟨p, reduced, short,
        iff_of_true finite ((finite_iff_parts other).mpr fun u part => absurd part (none u))⟩
    cases v with
    | float x => exact ⟨_, rfl, .float x, Plain.finite_float.trans finite_float.symm⟩
    | list items =>
      rcases exists_forall₂ fun u member => part (.item member) with ⟨plains, each⟩
      exact ⟨_, .list each finite_list id⟩
    | tuple items =>
      rcases exists_forall₂ fun u member => part (.place member) with ⟨plains, each⟩
      exact ⟨_, .list each finite_tuple reducesTo_tuple.mpr⟩
    | dict entries =>
      rcases decodable.named entries (inside_self _) with ⟨cells, rfl, names⟩
      have values : ∀ cell ∈ cells, ∃ p, cell.2.Comes p :=
        fun cell member => part (part_of_mem member)
      rcases exists_forall₂ values with ⟨plains, each⟩
      exact ⟨_, .dict names each⟩
    | record cells => exact absurd (inside_self _) (decodable.unrecorded cells)
    -- The other kinds have no parts, and what they are reduced to is finite.
    | null => exact scalar rfl .null .null (fun _ => nofun) fun _ => nofun
    | bool b => exact scalar rfl (.bool b) (.bool b) (fun _ => nofun) fun _ => nofun
    | int n =>
      have short := decodable.short n (inside_self _)
      exact scalar rfl (.int short) (.int n) (fun _ => nofun) fun _ => nofun
    | duration d =>
      have seconds := isFinite_totalSeconds (decodable.inRange d (inside_self _))
      exact scalar rfl (.float _) (.float seconds) (fun _ => nofun) fun _ => nofun
    | _ => exact scalar rfl (.text _) (.text _) (fun _ => nofun) fun _ => nofun

theorem Decodable.comes_of_reduced {v : Value} (decodable : v.Decodable) {p : Plain}
    (reduced : v.ReducesTo p) : v.Comes p := by
  rcases decodable.comes with ⟨q, comes⟩
  cases comes.reduced.symm.trans reduced
  exact comes

end Value

/-! ## Rows -/

namespace Row

/-- The row is made of values of the kinds that files are decoded to. -/
def Decodable (row : Row) : Prop := ∀ v ∈ row.values, v.Decodable

/-- All doubles in the dictionary of the row are finite. -/
def Finite (row : Row) : Prop := ∀ cell ∈ row.toDict, cell.2.Finite

theorem Decodable.reduced {row : Row} (decodable : row.Decodable) :
    ∃ p, row.toPlain = .ok p ∧ p.Short ∧ (p.Finite ↔ row.Finite) := by
  have reduces : ∀ v ∈ row.values, v.Reduces := fun v member =>
    (decodable v member).comes.imp fun _ comes => comes.reduced
  rcases row.toPlain_of_reduces reduces with ⟨p, found⟩
  rcases toPlain_toDict found with ⟨entries, rfl, each⟩
  have cells : ∀ cell ∈ row.toDict, cell.2.Decodable := fun cell member =>
    decodable cell.2 (List.mem_map_of_mem (row.toDict_subset member))
  have both := ((List.forall₂_and_left _ _).mpr ⟨cells, each⟩).flip
  refine ⟨_, found, ?_, ?_⟩
  · refine Plain.short_dict.mpr (forall_mem_of_related both fun _ _ entry => ?_)
    exact ⟨entry.2.1 ▸ trivial, (entry.1.comes_of_reduced entry.2.2).short⟩
  · rw [Plain.finite_dict, Finite]
    exact forall_mem_iff_of_forall₂ both fun _ _ entry =>
      (entry.1.comes_of_reduced entry.2.2).finite_iff

end Row

/-! ## Datasets -/

theorem Field.finite_toPlain (f : Field) : f.toPlain.Finite := by
  refine .dict ?_
  simp only [List.forall_mem_cons]
  refine ⟨.text _, .text _, ?_, ?_, .int _, nofun⟩
  · split
    · exact .null
    · exact .int _
  · split
    · exact .null
    · exact .text _

/-- The codes of a field are short. -/
theorem Field.short_toPlain (f : Field) : f.toPlain.Short := by
  refine Plain.short_dict.mpr ?_
  simp only [List.forall_mem_cons]
  refine ⟨⟨trivial, .text _⟩, ⟨trivial, .text _⟩, ⟨trivial, ?_⟩, ⟨trivial, ?_⟩, ⟨trivial, .int ?_⟩,
    nofun⟩
  · split
    · exact .null
    · next physical _ => exact .int (by cases physical <;> decide)
  · split
    · exact .null
    · exact .text _
  · cases f.repetition <;> decide

namespace Dataset

theorem reduced_of_decodable {d : Dataset} (decodable : ∀ row ∈ d.rows, row.Decodable)
    (short : Number.Short d.size) :
    ∃ p, d.toPlain = .ok p ∧ p.Short ∧ (p.Finite ↔ ∀ row ∈ d.rows, row.Finite) := by
  rcases exists_forall₂ fun row member => (decodable row member).reduced with ⟨rows, each⟩
  refine ⟨_, toPlain_eq (mapM_eq_ok_iff.mpr (each.imp fun _ _ => And.left)), ?_, ?_⟩
  · have schema : ∀ p ∈ d.schema.map Field.toPlain, p.Short :=
      List.forall_mem_map.mpr fun f _ => f.short_toPlain
    have contents : ∀ p ∈ rows, p.Short :=
      forall_mem_of_related each.flip fun _ _ both => both.2.1
    refine Plain.short_dict.mpr ?_
    simp only [List.forall_mem_cons]
    exact ⟨⟨trivial, .list schema⟩, ⟨trivial, .int short⟩, ⟨trivial, .list contents⟩, nofun⟩
  have schema : ∀ p ∈ d.schema.map Field.toPlain, p.Finite :=
    List.forall_mem_map.mpr fun f _ => f.finite_toPlain
  have contents : (∀ p ∈ rows, p.Finite) ↔ ∀ row ∈ d.rows, row.Finite :=
    forall_mem_iff_of_forall₂ each.flip fun _ _ both => both.2.2
  rw [← contents]
  constructor
  · intro finite
    exact Plain.finite_list.mp (Plain.finite_dict.mp finite (.text "rows", .list rows) (by simp))
  · intro finite
    refine .dict ?_
    simp only [List.forall_mem_cons]
    exact ⟨.list schema, .int _, .list finite, nofun⟩

/-- What is made plain has a text, which is JSON exactly if the plain value is finite. -/
theorem text_of_reduced {p : Plain} {finite : Prop} (short : p.Short) (alike : p.Finite ↔ finite) :
    ∃ text, (Json.render .compact p).mapError DatasetError.json = .ok text ∧
      (Json.IsText text.toList ↔ finite) := by
  rcases Json.render_grammatical short with ⟨text, written, valid⟩
  refine ⟨text, ?_, valid.trans alike⟩
  rw [written]
  rfl

/-- Rows of values of the kinds that files are decoded to have a line each, and the dataset of them has
a text, as long as their number is no integer that is too long to be written.  Each of these is JSON
exactly if all doubles in it are finite, at any depth. -/
theorem json_iff_finite {d : Dataset} (decodable : ∀ row ∈ d.rows, row.Decodable)
    (short : Number.Short d.size) :
    (∀ row ∈ d.rows, ∃ line, Report.jsonLine row = .ok line ∧
      (Json.IsText line.toList ↔ row.Finite)) ∧
    ∃ text, d.toJson .compact = .ok text ∧
      (Json.IsText text.toList ↔ ∀ row ∈ d.rows, row.Finite) := by
  constructor
  · intro row member
    rcases (decodable row member).reduced with ⟨p, found, short, alike⟩
    rw [Report.jsonLine_eq found]
    exact text_of_reduced short alike
  · rcases reduced_of_decodable decodable short with ⟨p, found, short, alike⟩
    rw [toJson, found]
    exact text_of_reduced short alike

/-! ## A measurement -/

/-- A day and a half, and a list of a number and of what is none. -/
def measured : Row :=
  ⟨[("for", .duration ⟨1, 43200, 0⟩), ("x", .list [.float ⟨0x3ff8000000000000⟩, .float .nan])]⟩

theorem decodable_float (x : Number.Binary64) : (Value.float x).Decodable := by
  refine Value.decodable_of_parts ?_ ?_ ?_ ?_ ?_ <;> rintro _ ⟨⟩

theorem decodable_measured : measured.Decodable := by
  simp only [Row.Decodable, measured, Row.values, List.map_cons, List.map_nil, List.forall_mem_cons]
  refine ⟨Value.decodable_of_parts ?_ ?_ ?_ ?_ ?_, Value.decodable_of_parts ?_ ?_ ?_ ?_ ?_,
    List.forall_mem_nil _⟩
  iterate 3
    · rintro _ ⟨⟩
  · rintro d ⟨⟩
    exact ⟨by decide, by decide, by decide⟩
  · rintro _ ⟨⟩
  · rintro u ⟨⟩
    next member =>
      simp only [List.mem_cons, List.not_mem_nil, or_false] at member
      rcases member with rfl | rfl <;> exact decodable_float _
  iterate 4
    · rintro _ ⟨⟩

def measurements : Dataset where
  rows := [measured]
  schema := [{ name := "for", typeName := "duration[us]" }, { name := "x", typeName := "list" }]

theorem json_iff_finite_of_measurements :
    (∀ row ∈ measurements.rows, row.Decodable) ∧ Number.Short measurements.size ∧
    (∀ row ∈ measurements.rows, ∃ line, Report.jsonLine row = .ok line ∧
      (Json.IsText line.toList ↔ row.Finite)) ∧
    ∃ text, measurements.toJson .compact = .ok text ∧
      (Json.IsText text.toList ↔ ∀ row ∈ measurements.rows, row.Finite) := by
  have decodable : ∀ row ∈ measurements.rows, row.Decodable :=
    List.forall_mem_singleton.mpr decodable_measured
  have short : Number.Short measurements.size := by decide
  exact ⟨decodable, short, json_iff_finite decodable short⟩

/-- What is not a number is printed by its name, which is not JSON. -/
theorem nan_is_printed_bare :
    Row.Decodable ⟨[("x", .float .nan)]⟩ ∧
    Report.jsonLine ⟨[("x", .float .nan)]⟩ = .ok "\x7b\"x\": NaN\x7d" ∧
    ¬ Json.IsText "\x7b\"x\": NaN\x7d".toList := by
  refine ⟨List.forall_mem_singleton.mpr (decodable_float .nan), rfl, fun valid => ?_⟩
  exact absurd valid.calm.quiet (by decide)

end Dataset
end RowReader
