import RowReader.Proofs.Action.Collect
import RowReader.Proofs.Number.Numeral
import RowReader.Proofs.Value.Parts
import RowReader.Value.Text

/-!
# Values that have a text

The text of a value is put together from those of its parts, and only an integer can be without one.  So
a value has a text exactly if every integer in it, at any depth, is short enough to be written.
-/

namespace RowReader
namespace Value

/-- All integers in the value are short enough to be written. -/
def Short (v : Value) : Prop := ∀ n, Inside (int n) v → Number.Short n

theorem short_iff_parts {v : Value} (other : ∀ n, v ≠ int n) :
    v.Short ↔ ∀ u, Part u v → u.Short :=
  forall_inside_iff_parts other

theorem short_int {n : Int} : (int n).Short ↔ Number.Short n := by
  constructor
  · exact fun short => short n (inside_self _)
  · intro short m inside
    have same : int m = int n := inside_of_no_parts (fun _ => nofun) inside
    cases same
    exact short

/-- Without parts there is nothing too long in a value that is no integer. -/
theorem short_of_no_parts {v : Value} (other : ∀ n, v ≠ int n) (none : ∀ u, ¬ Part u v) : v.Short :=
  (short_iff_parts other).mpr fun u part => absurd part (none u)

theorem short_null : null.Short := by
  refine short_of_no_parts ?_ ?_ <;> rintro _ ⟨⟩

theorem short_text {text : String} : (Value.text text).Short := by
  refine short_of_no_parts ?_ ?_ <;> rintro _ ⟨⟩

theorem short_list {items : List Value} : (list items).Short ↔ ∀ v ∈ items, v.Short := by
  refine (short_iff_parts ?_).trans ?_
  · exact fun _ => nofun
  constructor
  · exact fun parts v member => parts v (.item member)
  · rintro each u ⟨⟩
    next member => exact each u member

theorem short_tuple {items : List Value} : (tuple items).Short ↔ ∀ v ∈ items, v.Short := by
  refine (short_iff_parts ?_).trans ?_
  · exact fun _ => nofun
  constructor
  · exact fun parts v member => parts v (.place member)
  · rintro each u ⟨⟩
    next member => exact each u member

theorem short_dict {entries : List (Value × Value)} :
    (dict entries).Short ↔ ∀ entry ∈ entries, entry.1.Short ∧ entry.2.Short := by
  refine (short_iff_parts ?_).trans ?_
  · exact fun _ => nofun
  constructor
  · exact fun parts entry member => ⟨parts _ (.key member), parts _ (.value member)⟩
  · rintro each u (_ | _)
    · next member => exact (each _ member).1
    · next member => exact (each _ member).2

theorem short_record {cells : List (String × Value)} :
    (record cells).Short ↔ ∀ cell ∈ cells, cell.2.Short := by
  refine (short_iff_parts ?_).trans ?_
  · exact fun _ => nofun
  constructor
  · exact fun parts cell member => parts _ (.cell member)
  · rintro each u ⟨⟩
    next member => exact each _ member

/-! ## The texts of several parts -/

theorem literals_eq_mapM (items : List Value) : literals items = items.mapM literal := by
  induction items with
  | nil => rfl
  | cons v rest ih => rw [literals, List.mapM_cons, ih]

/-- The text of an entry of a dictionary. -/
def entryLiteral (entry : Value × Value) : Except Number.Overlong String := do
  let name ← literal entry.1
  let text ← literal entry.2
  return name ++ ": " ++ text

theorem entryLiterals_eq_mapM (entries : List (Value × Value)) :
    entryLiterals entries = entries.mapM entryLiteral := by
  induction entries with
  | nil => rfl
  | cons entry rest ih =>
    rw [entryLiterals, List.mapM_cons, ih]
    simp only [entryLiteral, bind_assoc, pure_bind]

/-- The text of a field of a record. -/
def cellLiteral (cell : String × Value) : Except Number.Overlong String := do
  let text ← literal cell.2
  return cell.1 ++ "=" ++ text

theorem cellLiterals_eq_mapM (cells : List (String × Value)) :
    cellLiterals cells = cells.mapM cellLiteral := by
  induction cells with
  | nil => rfl
  | cons cell rest ih =>
    rw [cellLiterals, List.mapM_cons, ih]
    simp only [cellLiteral, bind_assoc, pure_bind]

theorem exists_entryLiteral_iff {entry : Value × Value} :
    (∃ text, entryLiteral entry = .ok text) ↔
      (∃ text, literal entry.1 = .ok text) ∧ ∃ text, literal entry.2 = .ok text := by
  rw [entryLiteral]
  cases literal entry.1 with
  | error e => simp [bind, Except.bind]
  | ok name => cases literal entry.2 <;> simp [bind, Except.bind, pure, Except.pure]

theorem exists_cellLiteral_iff {cell : String × Value} :
    (∃ text, cellLiteral cell = .ok text) ↔ ∃ text, literal cell.2 = .ok text := by
  rw [cellLiteral]
  cases literal cell.2 <;> simp [bind, Except.bind, pure, Except.pure]

/-! ## The text of a value -/

theorem exists_literal_iff {v : Value} : (∃ text, v.literal = .ok text) ↔ v.Short := by
  induction v using of_parts with
  | step v ih =>
    have scalar {text : String} (written : v.literal = .ok text) (other : ∀ n, v ≠ int n)
        (none : ∀ u, ¬ Part u v) : (∃ text, v.literal = .ok text) ↔ v.Short :=
      iff_of_true ⟨text, written⟩ (short_of_no_parts other none)
    cases v with
    | int n =>
      rw [literal, short_int, Number.writeInteger]
      split <;> simp [*]
    | list items =>
      rw [literal, exists_ok_map_iff, literals_eq_mapM, exists_mapM_iff, short_list]
      exact forall₂_congr fun v member => ih v (.item member)
    | tuple items =>
      rw [literal, exists_ok_map_iff, literals_eq_mapM, exists_mapM_iff, short_tuple]
      exact forall₂_congr fun v member => ih v (.place member)
    | dict entries =>
      rw [literal, exists_ok_map_iff, entryLiterals_eq_mapM, exists_mapM_iff, short_dict]
      refine forall₂_congr fun entry member => ?_
      rw [exists_entryLiteral_iff, ih entry.1 (.key member), ih entry.2 (.value member)]
    | record cells =>
      rw [literal, exists_ok_map_iff, cellLiterals_eq_mapM, exists_mapM_iff, short_record]
      refine forall₂_congr fun cell member => ?_
      rw [exists_cellLiteral_iff, ih cell.2 (.cell member)]
    | _ =>
      rw [literal] at *
      exact scalar rfl (fun _ => nofun) (fun _ => nofun)

theorem exists_shown_iff {v : Value} : (∃ text, v.shown = .ok text) ↔ v.Short := by
  have scalar {text : String} (written : v.shown = .ok text) (other : ∀ n, v ≠ int n)
      (none : ∀ u, ¬ Part u v) : (∃ text, v.shown = .ok text) ↔ v.Short :=
    iff_of_true ⟨text, written⟩ (short_of_no_parts other none)
  unfold shown at *
  split at * <;> first
    | exact scalar rfl (fun _ => nofun) (fun _ => nofun)
    | exact exists_literal_iff

end Value
end RowReader
