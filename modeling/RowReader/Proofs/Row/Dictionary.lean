import Mathlib.Data.List.Forall2
import Mathlib.Data.List.Induction
import RowReader.Proofs.Plain.Distinct

/-!
# Names of a row

A name may stand in a row more than once.  Looking it up finds its first value.  The dictionary of a row
has each of its names once, in the order of their first places, with the last value of each, and a row
is reduced to the dictionary with reduced values.
-/

namespace RowReader
namespace Row

/-! ## Looking up -/

theorem valueOf?_cons (name other : String) (v : Value) (cells : List (String × Value)) :
    valueOf? ⟨(other, v) :: cells⟩ name = if other = name then some v else valueOf? ⟨cells⟩ name := by
  unfold valueOf?
  by_cases same : other = name
  · rw [if_pos same, List.find?_cons_of_pos (by simpa using same)]
    rfl
  · rw [if_neg same, List.find?_cons_of_neg (by simpa using same)]

/-- Where the values under some names are those of a function, the name decides about the value. -/
theorem valueOf?_zip {f : String → Option Value} {names : List String} {values : List Value}
    (listed : names.map f = values.map some) {name : String} (member : name ∈ names) :
    valueOf? ⟨names.zip values⟩ name = f name := by
  induction names generalizing values with
  | nil => cases member
  | cons other rest ih =>
    rcases values with _ | ⟨v, values⟩
    · cases listed
    · rw [List.map_cons, List.map_cons, List.cons.injEq] at listed
      rcases listed with ⟨first, others⟩
      rw [List.zip_cons_cons, valueOf?_cons]
      by_cases same : other = name
      · rw [if_pos same, ← same, first]
      · have later : name ∈ rest := (List.mem_cons.mp member).resolve_left (Ne.symm same)
        rw [if_neg same, ih others later]

/-- Among distinct names each one finds its own value. -/
theorem lookUp_of_mem {cells : List (String × Value)} (distinct : (cells.map Prod.fst).Nodup)
    {cell : String × Value} (member : cell ∈ cells) :
    lookUp ⟨cells⟩ (.text cell.1) = .ok cell.2 := by
  have found : valueOf? ⟨cells⟩ cell.1 = some cell.2 := by
    induction cells with
    | nil => cases member
    | cons first rest ih =>
      rcases List.nodup_cons.mp distinct with ⟨own, others⟩
      rw [valueOf?_cons]
      rcases List.mem_cons.mp member with rfl | later
      · rw [if_pos rfl]
      · have other : first.1 ≠ cell.1 := fun same => own (same ▸ List.mem_map_of_mem later)
        rw [if_neg other, ih others later]
  simp only [lookUp, found]

/-! ## The dictionary -/

/-- A cell is put behind the others, or under its name if that is there already. -/
theorem enter_eq (done : List (String × Value)) (cell : String × Value) :
    toDict.enter done cell =
      if cell.1 ∈ done.map Prod.fst then
        done.map fun other => if other.1 == cell.1 then (other.1, cell.2) else other
      else done ++ [cell] := by
  have known : (done.any fun other => other.1 == cell.1) = true ↔ cell.1 ∈ done.map Prod.fst := by
    simp only [List.any_eq_true, beq_iff_eq, List.mem_map]
  simp only [toDict.enter, known]

theorem map_fst_enter (done : List (String × Value)) (cell : String × Value) :
    (toDict.enter done cell).map Prod.fst =
      if cell.1 ∈ done.map Prod.fst then done.map Prod.fst else done.map Prod.fst ++ [cell.1] := by
  rw [enter_eq]
  by_cases there : cell.1 ∈ done.map Prod.fst
  · rw [if_pos there, if_pos there, List.map_map]
    refine List.map_congr_left fun other _ => ?_
    rw [Function.comp_apply]
    split <;> rfl
  · rw [if_neg there, if_neg there, List.map_append]
    rfl

/-- The names of the dictionary are those of the row without repetitions. -/
theorem map_fst_toDict (row : Row) : row.toDict.map Prod.fst = row.fields.eraseDups := by
  rcases row with ⟨cells⟩
  induction cells using List.reverseRecOn with
  | nil => rfl
  | append_singleton cells cell ih =>
    have entered : toDict ⟨cells ++ [cell]⟩ = toDict.enter (toDict ⟨cells⟩) cell := by
      simp [toDict, List.foldl_append]
    have names : fields ⟨cells ++ [cell]⟩ = fields ⟨cells⟩ ++ [cell.1] := by
      simp [fields]
    rw [entered, map_fst_enter, ih, names, List.eraseDups_append]
    by_cases there : cell.1 ∈ fields ⟨cells⟩
    · rw [if_pos (List.mem_eraseDups.mpr there)]
      simp [List.removeAll, there]
    · rw [if_neg (mt List.mem_eraseDups.mp there)]
      simp [List.removeAll, there]
      rfl

theorem mem_of_mem_enter {done cells : List (String × Value)} {cell other : String × Value}
    (inside : done ⊆ cells) (member : cell ∈ cells) (entered : other ∈ toDict.enter done cell) :
    other ∈ cells := by
  unfold toDict.enter at entered
  split at entered
  · rcases List.mem_map.mp entered with ⟨old, there, same⟩
    split at same
    · next named =>
      rw [eq_of_beq named] at same
      exact same ▸ member
    · exact same ▸ inside there
  · rcases List.mem_append.mp entered with old | new
    · exact inside old
    · exact List.mem_singleton.mp new ▸ member

/-- Every entry of the dictionary is a cell of the row. -/
theorem toDict_subset (row : Row) : row.toDict ⊆ row.cells := by
  have kept {cells : List (String × Value)} : ∀ {done}, done ⊆ row.cells → cells ⊆ row.cells →
      cells.foldl toDict.enter done ⊆ row.cells := by
    induction cells with
    | nil => exact fun inside _ => inside
    | cons cell rest ih =>
      intro done inside all
      rcases List.cons_subset.mp all with ⟨here, there⟩
      exact ih (fun _ entered => mem_of_mem_enter inside here entered) there
  exact kept (List.nil_subset _) (List.Subset.refl _)

/-! ## The reduced dictionary -/

/-- The entry has the name for a key, and the value reduced. -/
def ReducedEntry (cell : String × Value) (entry : Key × Plain) : Prop :=
  entry.1 = .text cell.1 ∧ cell.2.ReducesTo entry.2

variable {done : List (String × Value)} {entered : List (Key × Plain)}

theorem any_reduced (each : List.Forall₂ ReducedEntry done entered) (name : String) :
    (entered.any fun entry => entry.1.same (.text name)) = done.any fun other => other.1 == name := by
  induction each with
  | nil => rfl
  | cons first others ih => rw [List.any_cons, List.any_cons, ih, first.1, Key.same_text]

/-- Entering a cell and setting its entry go together. -/
theorem reduced_enter (each : List.Forall₂ ReducedEntry done entered) {cell : String × Value}
    {p : Plain} (reduced : cell.2.ReducesTo p) :
    List.Forall₂ ReducedEntry (toDict.enter done cell)
      (Plain.setEntry entered (.text cell.1) p) := by
  unfold toDict.enter Plain.setEntry
  rw [any_reduced each]
  split
  · rw [List.forall₂_map_left_iff, List.forall₂_map_right_iff]
    refine each.imp fun other entry same => ?_
    rw [same.1, Key.same_text]
    split
    · exact ⟨rfl, reduced⟩
    · exact same
  · exact List.rel_append each (.cons ⟨rfl, reduced⟩ .nil)

theorem reduced_of_cellsToPlain {cells : List (String × Value)} {entries : List (Key × Plain)}
    (each : List.Forall₂ ReducedEntry done entered)
    (found : Value.cellsToPlain cells entered = .ok entries) :
    List.Forall₂ ReducedEntry (cells.foldl toDict.enter done) entries := by
  induction cells generalizing done entered with
  | nil =>
    cases found
    exact each
  | cons cell rest ih =>
    rw [Value.cellsToPlain] at found
    cases reduced : cell.2.toPlain with
    | error e => simp [reduced] at found
    | ok p =>
      simp only [reduced] at found
      exact ih (reduced_enter each reduced) found

/-- A row is reduced to its dictionary with the values reduced. -/
theorem toPlain_toDict {row : Row} {p : Plain} (found : row.toPlain = .ok p) :
    ∃ entries, p = .dict entries ∧ List.Forall₂ ReducedEntry row.toDict entries := by
  rw [toPlain, toValue, Value.toPlain] at found
  rcases ok_of_map found with ⟨entries, entered, rfl⟩
  exact ⟨entries, rfl, reduced_of_cellsToPlain .nil entered⟩

end Row
end RowReader
