import RowReader.Source

/-!
# Sources over lists

The plainest source there is: the row groups that are left, each a list of rows or the error that
asking for it meets.  Closing it leaves no group, and closing it again changes nothing.
-/

namespace RowReader
namespace Source

/-- Hands out groups from a list under a given schema. -/
def listed (schema : Schema) : Source (List (Except Error (List Row))) (List Row) where
  readSchema := pure schema
  nextRowGroup := fun groups =>
    match groups with
    | [] => { result := .ok none, state := [] }
    | group :: rest => { result := group.map some, state := rest }
  assembleRow := fun rows _ i => fun groups =>
    match rows[i]? with
    | some row => { result := .ok (row, rows), state := groups }
    | none => { result := .error (.rowOutOfRange i 0 rows.length), state := groups }
  close := Action.modifyState fun _ => []
  index := fun _ => 0
  numRows := List.length
  pending := List.length
  pending_nextRowGroup := by
    intro groups g answered
    cases groups with
    | nil => cases answered
    | cons group rest => exact Nat.lt_succ_self rest.length
  pending_assembleRow := by
    intro rows schema i groups
    cases found : rows[i]? <;> simp

/-- One column of whole numbers. -/
def ids : Schema := [{ name := "id", typeName := "int64" }]

def idRow (n : Int) : Row := ⟨[("id", .int n)]⟩

end Source
end RowReader
