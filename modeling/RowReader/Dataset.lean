import RowReader.Row
import RowReader.Schema
import RowReader.Plain.Json

/-!
# Datasets

A dataset is a file read completely: its rows in file order and the schema they were assembled
against.
-/

namespace RowReader

structure Dataset where
  rows : List Row
  schema : Schema

/-- What can go wrong when a dataset is queried or written. -/
inductive DatasetError where
  | noField (name : String) (available : List String)
  | row (e : RowError)
  | unhashable (e : Unhashable)
  | json (e : Json.WriteError)
  | comparison (e : ComparisonError)
  | frozen (name : String)
  deriving DecidableEq, Repr

def DatasetError.message : DatasetError → String
  | .noField name available =>
    Text.quote
      ("Field \"" ++ name ++ "\" not found. Available fields: " ++ Text.nameTuple available)
  | .row e => e.message
  | .unhashable e => e.message
  | .json e => e.message
  | .comparison e => e.message
  | .frozen name => "cannot assign to field " ++ Text.quote name

namespace Dataset

def size (d : Dataset) : Nat := d.rows.length

def fieldNames (d : Dataset) : List String := d.schema.names

/-- All values of the first field of a name, in row order. -/
def column (d : Dataset) (name : String) : Except DatasetError (List Value) :=
  match d.fieldNames.findIdx? fun other => other == name with
  | none => .error (.noField name d.fieldNames)
  | some position =>
    d.rows.mapM fun row => (row.valueAtPlace position).mapError DatasetError.row

/-- Schema, row count and rows as one plain value. -/
def toPlain (d : Dataset) : Except Unhashable Plain := do
  let rows ← d.rows.mapM Row.toPlain
  return .dict [
    (.text "schema", .list (d.schema.map Field.toPlain)),
    (.text "num_rows", .int (Int.ofNat d.size)),
    (.text "rows", .list rows)]

def toJson (layout : Json.Layout) (d : Dataset) : Except DatasetError String := do
  let plain ← d.toPlain.mapError DatasetError.unhashable
  (Json.render layout plain).mapError DatasetError.json

def literal (d : Dataset) : String :=
  "Dataset(rows=" ++ toString d.size ++ ", fields=" ++ Text.nameList d.fieldNames ++ ")"

/-- Datasets are compared row by row, if they have equally many, and then field by field. -/
def same (a b : Dataset) : Except ComparisonError Bool := do
  if a.rows.length ≠ b.rows.length then return false
  else if ← (a.rows.zip b.rows).allM fun pair => pair.1.same pair.2 then return a.schema == b.schema
  else return false

/-- No part of a dataset can be assigned. -/
def assign (_ : Dataset) (name : String) : Except DatasetError Unit :=
  .error (.frozen name)

end Dataset
end RowReader
