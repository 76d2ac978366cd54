import Mathlib.Logic.Relation
import RowReader.Value

/-!
# Parts of a value

The items of a list or a tuple, the keys and the values of a dictionary, and the values of a record
are the parts of it.  A value holds another one if that is a part of it at some depth, or the value
itself.  What holds of a value whenever it holds of its parts holds of every value.
-/

namespace RowReader
namespace Value

/-- The first value is an immediate part of the second. -/
inductive Part : Value → Value → Prop
  | item {v : Value} {items : List Value} (member : v ∈ items) : Part v (.list items)
  | place {v : Value} {items : List Value} (member : v ∈ items) : Part v (.tuple items)
  | key {entry : Value × Value} {entries : List (Value × Value)} (member : entry ∈ entries) :
    Part entry.1 (.dict entries)
  | value {entry : Value × Value} {entries : List (Value × Value)} (member : entry ∈ entries) :
    Part entry.2 (.dict entries)
  | cell {cell : String × Value} {cells : List (String × Value)} (member : cell ∈ cells) :
    Part cell.2 (.record cells)

theorem Part.sizeOf_lt {u v : Value} (part : Part u v) : sizeOf u < sizeOf v := by
  cases part with
  | item member =>
    have smaller := List.sizeOf_lt_of_mem member
    simp only [list.sizeOf_spec]
    omega
  | place member =>
    have smaller := List.sizeOf_lt_of_mem member
    simp only [tuple.sizeOf_spec]
    omega
  | @key entry _ member =>
    have smaller := List.sizeOf_lt_of_mem member
    rcases entry with ⟨key, v⟩
    simp only [Prod.mk.sizeOf_spec, dict.sizeOf_spec] at smaller ⊢
    omega
  | @value entry _ member =>
    have smaller := List.sizeOf_lt_of_mem member
    rcases entry with ⟨key, v⟩
    simp only [Prod.mk.sizeOf_spec, dict.sizeOf_spec] at smaller ⊢
    omega
  | @cell cell _ member =>
    have smaller := List.sizeOf_lt_of_mem member
    rcases cell with ⟨name, v⟩
    simp only [Prod.mk.sizeOf_spec, record.sizeOf_spec] at smaller ⊢
    omega

/-- What a value takes over from its parts, every value has. -/
theorem of_parts {motive : Value → Prop} (step : ∀ v, (∀ u, Part u v → motive u) → motive v)
    (v : Value) : motive v :=
  (measure (sizeOf : Value → Nat)).wf.induction v fun v parts =>
    step v fun u part => parts u part.sizeOf_lt

/-- The value is the other one or a part of it at some depth. -/
def Inside : Value → Value → Prop := Relation.ReflTransGen Part

theorem inside_self (v : Value) : Inside v v := .refl

theorem Inside.of_part {u v w : Value} (inside : Inside u v) (part : Part v w) : Inside u w :=
  inside.tail part

/-- A scalar holds nothing but itself. -/
theorem inside_of_no_parts {u v : Value} (none : ∀ w, ¬ Part w v) (inside : Inside u v) : u = v := by
  rcases inside.cases_tail with same | ⟨w, -, part⟩
  · exact same.symm
  · exact absurd part (none w)

/-- What holds of all values of a kind inside a value, which is not of this kind itself, is what holds of
those inside its parts. -/
theorem forall_inside_iff_parts {α : Type} {kind : α → Value} {P : α → Prop} {v : Value}
    (other : ∀ x, v ≠ kind x) :
    (∀ x, Inside (kind x) v → P x) ↔ ∀ u, Part u v → ∀ x, Inside (kind x) u → P x := by
  constructor
  · exact fun all u part x inside => all x (inside.of_part part)
  · intro parts x inside
    rcases inside.cases_tail with same | ⟨u, inner, part⟩
    · exact absurd same (other x)
    · exact parts u part x inner

end Value
end RowReader
