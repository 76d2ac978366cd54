import RowReader.Proofs.Plain.Distinct
import RowReader.Proofs.Report

/-!
# Rows as lines of JSON

The line of a row is made of printable ASCII, and it is read back as the dictionary of the row's names
with its reduced values.  As no line has a line break in it, the lines of many rows can be told apart
again when each is ended by one.
-/

namespace RowReader
namespace Report

/-- The lines of a text, each of which is ended by a line break.  What stands behind the last line
break is none. -/
def endedLines (text : String) : List String :=
  ((text.toList.splitOn '\n').dropLast).map String.ofList

/-- The line is printable and is read as what the row is reduced to, which is its names in their
order with the reduced values. -/
structure ReadsBack (row : Row) (line : String) : Prop where
  printable : PrintableAscii line.toList
  reads : ∃ plains, List.Forall₂ Value.ReducesTo row.values plains ∧
    let unstructured := Plain.dict ((row.fields.map Key.text).zip plains)
    row.toPlain = .ok unstructured ∧ Json.read line = some unstructured

/-- The value is reduced to one that JSON has room for. -/
def Plainly (v : Value) : Prop := ∃ p, v.ReducesTo p ∧ p.Lossless

theorem exists_plains {values : List Value} (plain : ∀ v ∈ values, Plainly v) :
    ∃ plains, List.Forall₂ Value.ReducesTo values plains ∧ ∀ p ∈ plains, p.Lossless := by
  rcases exists_forall₂ plain with ⟨plains, both⟩
  have each : ∀ p ∈ plains, p.Lossless :=
    forall_mem_of_related both.flip fun _ _ here => here.2
  exact ⟨plains, both.imp fun _ _ => And.left, each⟩

theorem lossless_zip (names : List String) {plains : List Plain}
    (each : ∀ p ∈ plains, p.Lossless) :
    (Plain.dict ((names.map Key.text).zip plains)).Lossless := by
  refine .dict ?_ ?_
  · intro entry member
    rcases List.mem_map.mp (List.of_mem_zip member).1 with ⟨name, -, same⟩
    exact ⟨name, same.symm⟩
  · intro entry member
    exact each entry.2 (List.of_mem_zip member).2

/-- A row with distinct names can be written if what its values are reduced to can be. -/
theorem writable_iff_of_nodup {row : Row} {plains : List Plain} (names : row.fields.Nodup)
    (reduced : List.Forall₂ Value.ReducesTo row.values plains) :
    row.Writable ↔ ∀ p ∈ plains, p.Short := by
  have whole := Row.toPlain_of_nodup names reduced
  have many : plains.length ≤ (row.fields.map Key.text).length := by
    rw [← reduced.length_eq, Row.length_values, List.length_map, Row.length_fields]
  have values := List.map_snd_zip many
  constructor
  · rintro ⟨p, plain, short⟩ v member
    cases whole.symm.trans plain
    rw [← values] at member
    rcases List.mem_map.mp member with ⟨entry, listed, rfl⟩
    exact (Plain.short_dict.mp short entry listed).2
  · intro short
    refine ⟨_, whole, Plain.short_dict.mpr fun entry listed => ⟨?_, ?_⟩⟩
    · rcases List.mem_map.mp (List.of_mem_zip listed).1 with ⟨name, -, same⟩
      exact same ▸ trivial
    · exact short _ (List.of_mem_zip listed).2

theorem jsonLine_back {row : Row} (names : row.fields.Nodup) (plain : ∀ v ∈ row.values, Plainly v)
    (writable : row.Writable) : ∃ line, jsonLine row = .ok line ∧ ReadsBack row line := by
  rcases exists_plains plain with ⟨plains, reduced, each⟩
  have whole := Row.toPlain_of_nodup names reduced
  have distinct := Value.distinct_of_toPlain row.toValue whole
  rcases jsonLine_of_writable writable with ⟨line, made, printable⟩
  rcases writable with ⟨p, same, short⟩
  cases whole.symm.trans same
  rcases Json.writesBack_of_lossless (lossless_zip row.fields each) distinct short 0
    with ⟨text, written, reads⟩
  have line' : jsonLine row = .ok text := by
    rw [jsonLine_eq whole, Json.render, written]
    rfl
  cases made.symm.trans line'
  exact ⟨line, made, printable, plains, reduced, whole, Json.read_of_readsAs reads⟩

/-- Lines without line breaks are told apart again. -/
theorem endedLines_join {lines : List String} (whole : ∀ line ∈ lines, '\n' ∉ line.toList) :
    endedLines (String.join (lines.map fun line => line ++ "\n")) = lines := by
  have split : (String.join (lines.map fun line => line ++ "\n")).toList.splitOn '\n' =
      lines.map String.toList ++ [[]] := by
    induction lines with
    | nil => rfl
    | cons line rest ih =>
      rcases List.forall_mem_cons.mp whole with ⟨here, there⟩
      rw [List.map_cons, String.join_cons, String.toList_append, String.toList_append,
        List.append_assoc]
      have other : ∀ c ∈ line.toList, (c == '\n') = false := by
        intro c member
        rw [beq_eq_false_iff_ne]
        rintro rfl
        exact here member
      refine (List.splitOnP_append_cons_of_forall_mem other '\n' rfl _).trans ?_
      exact congrArg (line.toList :: ·) (ih there)
  rw [endedLines, split, List.dropLast_concat, List.map_map]
  exact (List.map_congr_left fun line _ => String.ofList_toList).trans (List.map_id _)

/-- A row whose names are distinct and whose values are reduced without doubles or keys that are no
texts has a line of JSON, unless it is reduced to something with an integer that is too long to be
written, which is what it is refused for.  The line is printable ASCII, without any line break, and is
read as what its row is reduced to.  If all rows have one and these are printed, each ended by a line
break, then the lines of what is printed are these. -/
theorem json_lines_read_back {rows : List Row} (names : ∀ row ∈ rows, row.fields.Nodup)
    (plain : ∀ row ∈ rows, ∀ v ∈ row.values, Plainly v) :
    (∀ row ∈ rows, (row.Writable → ∃ line, jsonLine row = .ok line ∧ ReadsBack row line) ∧
      (¬ row.Writable → jsonLine row = .error (.json (.overlong {})))) ∧
    ((∀ row ∈ rows, row.Writable) → ∃ lines : List String, rows.map jsonLine = lines.map .ok ∧
      List.Forall₂ ReadsBack rows lines ∧
      endedLines (String.join (lines.map fun line => line ++ "\n")) = lines) := by
  have back : ∀ row ∈ rows, row.Writable → ∃ line, jsonLine row = .ok line ∧ ReadsBack row line :=
    fun row member => jsonLine_back (names row member) (plain row member)
  refine ⟨fun row member => ⟨back row member, ?_⟩, fun writable => ?_⟩
  · rcases exists_plains (plain row member) with ⟨plains, reduced, -⟩
    exact jsonLine_overlong (Row.toPlain_of_nodup (names row member) reduced)
  · rcases exists_forall₂ fun row member => back row member (writable row member)
      with ⟨lines, each⟩
    have written : List.Forall₂ (fun row line => jsonLine row = .ok line) rows lines :=
      each.imp fun _ _ => And.left
    have whole : ∀ line ∈ lines, '\n' ∉ line.toList :=
      forall_mem_of_related each.flip fun _ _ found => found.2.printable.not_mem (by decide)
    have all : rows.map jsonLine = lines.map .ok := map_eq_map_ok_iff.mpr (mapM_eq_ok_iff.mpr written)
    exact ⟨lines, all, each.imp fun _ _ => And.right, endedLines_join whole⟩

/-! ## Two rows -/

/-- Quotes, line breaks, characters outside the basic plane, a long number and nested values. -/
def sampleRows : List Row :=
  [⟨[("a\"\n", .text "é\\ \x7f😀"), ("n", .int (-123456789012345678901234567890))]⟩,
    ⟨[("", .tuple [.null, .bool true, .dict [(.bytes [0], .list [])]])]⟩]

theorem json_lines_read_back_of_sample :
    ∃ lines : List String, sampleRows.map jsonLine = lines.map .ok ∧
      List.Forall₂ ReadsBack sampleRows lines ∧
      endedLines (String.join (lines.map fun line => line ++ "\n")) = lines := by
  have names : ∀ row ∈ sampleRows, row.fields.Nodup := by decide
  refine (json_lines_read_back names ?_).2 ?_
  · simp only [sampleRows, List.forall_mem_cons, Row.values, List.map_cons, List.map_nil,
      List.not_mem_nil, false_implies, implies_true, and_true]
    refine ⟨⟨⟨_, rfl, .text _⟩, _, rfl, .int _⟩, _, rfl, .list ?_⟩
    simp only [List.forall_mem_cons, List.not_mem_nil, false_implies, implies_true, and_true]
    refine ⟨.null, .bool true, .dict (List.forall_mem_singleton.mpr ⟨_, rfl⟩) ?_⟩
    exact List.forall_mem_singleton.mpr (.list (List.forall_mem_nil _))
  · rcases List.forall_mem_cons.mp names with ⟨first, others⟩
    have second := List.forall_mem_singleton.mp others
    refine List.forall_mem_cons.mpr ⟨?_, List.forall_mem_singleton.mpr ?_⟩
    · refine (writable_iff_of_nodup first (.cons rfl (.cons rfl .nil))).mpr ?_
      exact List.forall_mem_cons.mpr ⟨.text _, List.forall_mem_singleton.mpr (.int (by decide))⟩
    · refine (writable_iff_of_nodup second (.cons rfl .nil)).mpr ?_
      refine List.forall_mem_singleton.mpr (.list ?_)
      simp only [List.forall_mem_cons, List.not_mem_nil, false_implies, implies_true, and_true]
      refine ⟨.null, .bool true, .dict (List.forall_mem_singleton.mpr trivial) ?_⟩
      exact List.forall_mem_singleton.mpr (.list (List.forall_mem_nil _))

/-- The least integer with too many digits leaves its row without a line. -/
theorem overlong_row_has_no_line :
    let row : Row := ⟨[("n", .int (10 ^ Number.digitLimit : Nat))]⟩
    row.fields.Nodup ∧ (∀ v ∈ row.values, Plainly v) ∧
      jsonLine row = .error (.json (.overlong {})) := by
  intro row
  have names : row.fields.Nodup := by decide
  have long : ¬ row.Writable := by
    rw [writable_iff_of_nodup names (.cons rfl .nil)]
    intro short
    exact Number.not_short_pow (Plain.short_int.mp (List.forall_mem_singleton.mp short))
  exact ⟨names, List.forall_mem_singleton.mpr ⟨_, rfl, .int _⟩, jsonLine_overlong rfl long⟩

end Report
end RowReader
