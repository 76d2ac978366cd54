import RowReader.Proofs.Action.Collect
import RowReader.Proofs.Plain.ReadBack
import RowReader.Row

/-!
# Keys of reduced values

A dictionary that comes of a reduction has no key twice: an entry whose key is there already takes the
place of the old one.  For a row this means that distinct names stay as they are, each with the
reduced value of its cell.
-/

namespace RowReader

/-- Texts are the same key if they are the same text. -/
theorem Key.same_text (a b : String) : (Key.text a).same (.text b) = (a == b) := by
  unfold same Value.sameKey toValue
  simp only [Value.same]
  rfl

namespace Plain

/-- Entries with distinct keys, whose values have distinct keys as well. -/
structure Entered (entries : List (Key × Plain)) : Prop where
  apart : Apart entries
  each : ∀ entry ∈ entries, entry.2.Distinct

theorem entered_nil : Entered [] := ⟨.nil, nofun⟩

theorem Entered.setEntry {entries : List (Key × Plain)} (entered : Entered entries) (key : Key)
    {v : Plain} (distinct : v.Distinct) : Entered (Plain.setEntry entries key v) := by
  unfold Plain.setEntry
  split
  · constructor
    · refine List.pairwise_map.mpr (entered.apart.imp fun {a b} other => ?_)
      split <;> split <;> exact other
    · intro entry member
      rcases List.mem_map.mp member with ⟨old, there, rfl⟩
      split
      · exact distinct
      · exact entered.each old there
  · next missing =>
    have fresh : ∀ entry ∈ entries, entry.1.same key = false := by
      simpa using missing
    constructor
    · refine List.pairwise_append.mpr ⟨entered.apart, List.pairwise_singleton _ _, ?_⟩
      intro old member new last
      rw [List.mem_singleton.mp last]
      exact fresh old member
    · intro entry member
      rcases List.mem_append.mp member with old | new
      · exact entered.each entry old
      · rw [List.mem_singleton.mp new]
        exact distinct

end Plain

namespace Value

open Plain (Entered entered_nil)

mutual

theorem distinct_of_toPlain : (v : Value) → {p : Plain} → v.toPlain = .ok p → p.Distinct
  | .null, _, rfl => .null
  | .bool b, _, rfl => .bool b
  | .int n, _, rfl => .int n
  | .float x, _, rfl => .float x
  | .text s, _, rfl => .text s
  | .bytes data, _, rfl => .text _
  | .date d, _, rfl => .text _
  | .time t, _, rfl => .text _
  | .moment m, _, rfl => .text _
  | .duration d, _, rfl => .float _
  | .decimal d, _, rfl => .text _
  | .list items, _, reduced => by
    rw [toPlain] at reduced
    rcases ok_of_map reduced with ⟨plains, found, rfl⟩
    exact .list (distinct_of_itemsToPlain items found)
  | .tuple items, _, reduced => by
    rw [toPlain] at reduced
    rcases ok_of_map reduced with ⟨plains, found, rfl⟩
    exact .list (distinct_of_itemsToPlain items found)
  | .dict entries, _, reduced => by
    rw [toPlain] at reduced
    rcases ok_of_map reduced with ⟨plains, found, rfl⟩
    have entered := entered_of_entriesToPlain entries entered_nil found
    exact .dict entered.apart entered.each
  | .record cells, _, reduced => by
    rw [toPlain] at reduced
    rcases ok_of_map reduced with ⟨plains, found, rfl⟩
    have entered := entered_of_cellsToPlain cells entered_nil found
    exact .dict entered.apart entered.each

theorem distinct_of_itemsToPlain : (items : List Value) → {plains : List Plain} →
    itemsToPlain items = .ok plains → ∀ p ∈ plains, p.Distinct
  | [], _, rfl => fun _ => nofun
  | v :: rest, _, reduced => by
    rw [itemsToPlain] at reduced
    cases first : toPlain v with
    | error e => simp [first] at reduced
    | ok p =>
      simp only [first] at reduced
      rcases ok_of_map reduced with ⟨plains, others, rfl⟩
      exact List.forall_mem_cons.mpr
        ⟨distinct_of_toPlain v first, distinct_of_itemsToPlain rest others⟩

theorem entered_of_entriesToPlain : (entries : List (Value × Value)) →
    {done plains : List (Key × Plain)} → Entered done → entriesToPlain entries done = .ok plains →
    Entered plains
  | [], _, _, entered, rfl => entered
  | (key, v) :: rest, done, plains, entered, reduced => by
    rw [entriesToPlain] at reduced
    cases named : toPlain key with
    | error e => simp [named] at reduced
    | ok plainKey =>
      cases valued : toPlain v with
      | error e => simp [named, valued] at reduced
      | ok p =>
        cases keyed : plainKey.toKey with
        | error e => simp [named, valued, keyed] at reduced
        | ok k =>
          simp only [named, valued, keyed] at reduced
          exact entered_of_entriesToPlain rest
            (entered.setEntry k (distinct_of_toPlain v valued)) reduced

theorem entered_of_cellsToPlain : (cells : List (String × Value)) →
    {done plains : List (Key × Plain)} → Entered done → cellsToPlain cells done = .ok plains →
    Entered plains
  | [], _, _, entered, rfl => entered
  | (name, v) :: rest, done, plains, entered, reduced => by
    rw [cellsToPlain] at reduced
    cases valued : toPlain v with
    | error e => simp [valued] at reduced
    | ok p =>
      simp only [valued] at reduced
      exact entered_of_cellsToPlain rest
        (entered.setEntry (.text name) (distinct_of_toPlain v valued)) reduced

end

/-! ## Rows -/

/-- The value is reduced to this one. -/
def ReducesTo (v : Value) (p : Plain) : Prop := v.toPlain = .ok p

/-- Cells with distinct names, of which none is a key already, are entered one behind the other. -/
theorem cellsToPlain_of_fresh {cells : List (String × Value)} {plains : List Plain}
    (reduced : List.Forall₂ (fun cell p => ReducesTo cell.2 p) cells plains)
    (names : (cells.map Prod.fst).Nodup) {done : List (Key × Plain)}
    (fresh : ∀ entry ∈ done, ∀ cell ∈ cells, entry.1.same (.text cell.1) = false) :
    cellsToPlain cells done = .ok (done ++ (cells.map fun cell => Key.text cell.1).zip plains) := by
  induction reduced generalizing done with
  | nil => rw [List.map_nil, List.zip_nil_left, List.append_nil, cellsToPlain]
  | @cons cell p cells plains first others ih =>
    rcases List.nodup_cons.mp names with ⟨own, rest⟩
    have here : ∀ entry ∈ done, entry.1.same (.text cell.1) = false := fun entry member =>
      fresh entry member cell List.mem_cons_self
    have later : ∀ entry ∈ done ++ [(Key.text cell.1, p)], ∀ other ∈ cells,
        entry.1.same (.text other.1) = false := by
      intro entry member other there
      rcases List.mem_append.mp member with old | new
      · exact fresh entry old other (List.mem_cons_of_mem cell there)
      · rw [List.mem_singleton.mp new]
        rw [Key.same_text, beq_eq_false_iff_ne]
        intro same
        exact own (same ▸ List.mem_map_of_mem there)
    have behind := ih rest later
    rw [cellsToPlain, show toPlain cell.2 = .ok p from first]
    simp only [Plain.setEntry_of_apart here, behind, List.append_assoc]
    rfl

end Value

/-- A row with distinct names becomes the dictionary of its names with the reduced values. -/
theorem Row.toPlain_of_nodup {row : Row} {plains : List Plain} (names : row.fields.Nodup)
    (reduced : List.Forall₂ Value.ReducesTo row.values plains) :
    row.toPlain = .ok (.dict ((row.fields.map Key.text).zip plains)) := by
  have cells : List.Forall₂ (fun cell p => Value.ReducesTo cell.2 p) row.cells plains :=
    List.forall₂_map_left_iff.mp reduced
  have entered := Value.cellsToPlain_of_fresh cells names (fun _ => nofun : ∀ entry ∈ [], _)
  rw [Row.toPlain, Row.toValue, Value.toPlain, entered, Row.fields, List.map_map]
  rfl

end RowReader
