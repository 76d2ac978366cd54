import RowReader.Source

/-!
# Scripted sources

A source that plays back a script: the groups it hands out with their rows, and the errors it
raises.  It counts the calls it receives, so a test of a pass can see exactly what was asked of
the source.
-/

namespace RowReader

structure ScriptedGroup where
  index : Int
  /-- The row count the group claims, which may differ from the rows it has. -/
  declared : Nat
  rows : List (List Value)

structure Script where
  names : List String
  groups : List (Except Error ScriptedGroup)
  schemaError : Option Error := none
  /-- How many schema calls fail, when not all of them do. -/
  schemaFailures : Option Nat := none
  closeError : Option Error := none

/-- A script with the calls made so far. -/
structure ScriptedSource where
  script : Script
  cursor : Nat := 0
  closed : Bool := false
  closeCalls : Nat := 0
  schemaCalls : Nat := 0
  requested : Nat := 0
  assembled : Nat := 0

namespace ScriptedSource

/-- What every call but `close` raises once the source is closed. -/
def closedError : Error := .reported .closed "fake source is closed"

def schema (s : ScriptedSource) : Schema :=
  s.script.names.map fun name => { name, typeName := "int64" }

/-- Whether the schema call counted last is one of those that fail. -/
def schemaFails (s : ScriptedSource) : Bool :=
  match s.script.schemaFailures with
  | none => true
  | some failures => s.schemaCalls ≤ failures

def readSchema : Action ScriptedSource Schema := do
  Action.modifyState fun s => { s with schemaCalls := s.schemaCalls + 1 }
  let s ← Action.getState
  if s.closed then Action.fail closedError
  else
    match s.script.schemaError with
    | some e => if s.schemaFails then Action.fail e else return s.schema
    | none => return s.schema

def nextRowGroup : Action ScriptedSource (Option ScriptedGroup) := fun s =>
  if s.closed then { result := .error closedError, state := s }
  else
    match s.script.groups[s.cursor]? with
    | none => { result := .ok none, state := s }
    | some group =>
      { result := group.map some
        state := { s with cursor := s.cursor + 1, requested := s.requested + 1 } }

/-- Field names for a row that does not fit the schema. -/
def columnNames (width : Nat) : List String :=
  (List.range width).map fun i => "c" ++ toString i

/-- Names the values by the schema when they fit it. -/
def rowOf (schema : Schema) (values : List Value) : Row :=
  let names := if values.length = schema.length then schema.names else columnNames values.length
  ⟨names.zip values⟩

def assembleRow (g : ScriptedGroup) (schema : Schema) (i : Nat) :
    Action ScriptedSource (Row × ScriptedGroup) := fun s =>
  if s.closed then { result := .error closedError, state := s }
  else
    let s := { s with assembled := s.assembled + 1 }
    match g.rows[i]? with
    | none =>
      let index := g.index
      { result := .error (.reported .decoding s!"row group {index} truncated at row {i}")
        state := s }
    | some values => { result := .ok (rowOf schema values, g), state := s }

/-- Every call counts, and only the first one may fail. -/
def close : Action ScriptedSource Unit := fun s =>
  let result := match s.script.closeError with
    | some e => if s.closeCalls = 0 then .error e else .ok ()
    | none => .ok ()
  { result, state := { s with closed := true, closeCalls := s.closeCalls + 1 } }

def source : Source ScriptedSource ScriptedGroup where
  readSchema := readSchema
  nextRowGroup := nextRowGroup
  assembleRow := assembleRow
  close := close
  index := ScriptedGroup.index
  numRows := ScriptedGroup.declared
  pending := fun s => s.script.groups.length - s.cursor
  pending_nextRowGroup := by
    intro s g answered
    simp only [nextRowGroup] at answered ⊢
    split
    · simp_all
    · split
      · simp_all
      · next group found =>
        have inside := (List.getElem?_eq_some_iff.mp found).1
        simp only
        omega
  pending_assembleRow := by
    intro g schema i s
    simp only [assembleRow]
    split
    · exact Nat.le_refl _
    · split <;> exact Nat.le_refl _

end ScriptedSource
end RowReader
