import RowReader.Pass
import RowReader.Reader.Source
import RowReader.World

/-!
# Row files

A row file names a file and the options to read it with.  It holds nothing open: each call opens
the file, makes one pass over it or asks its footer, and closes it again.  Only the schema is kept,
since it is the same for the whole file.
-/

namespace RowReader

structure RowFile where
  location : Location
  options : Options := Options.standard
  schema : Option Schema := none

namespace RowFile

variable {ω α : Type}

/-- Opens a fresh reader. -/
def openReader (srv : Server ω) (pf : RowFile) : Action (World ω) (Reader × Handle) := do
  Action.debug .container ("Opening " ++ pf.location.name)
  World.openReader srv pf.location pf.options

/-- Uses a fresh reader, which is closed however the use ends. -/
def withReader (srv : Server ω) (pf : RowFile) (use : Action (Reader × Handle × World ω) α) :
    Action (World ω) α := do
  let (reader, handle) ← pf.openReader srv
  let file := Handle.file srv
  let closing := use.andFinally (Reader.close file)
  let ((a, _), _) ← Action.holding handle (Action.holding reader closing)
  return a

/-- The schema, read once. -/
def readSchema (srv : Server ω) : Action (RowFile × World ω) Schema := do
  let (pf, _) ← Action.getState
  match pf.schema with
  | some schema => return schema
  | none =>
    let schema ← Action.onPart Prod.snd (fun w both => (both.1, w))
      (pf.withReader srv (Reader.readSchema (Handle.file srv)))
    Action.modifyState fun (pf, w) => ({ pf with schema := some schema }, w)
    return schema

/-- The whole file. -/
def read (srv : Server ω) (pf : RowFile) : Action (World ω) Dataset := do
  let (reader, handle) ← pf.openReader srv
  let pass := Action.holding {} (Pass.materialize (Reader.source (Handle.file srv)))
  let (((dataset, _), _), _) ← Action.holding handle (Action.holding reader pass)
  return dataset

def numRows (srv : Server ω) (pf : RowFile) : Action (World ω) Int :=
  pf.withReader srv (Reader.numRows (Handle.file srv))

def numRowGroups (srv : Server ω) (pf : RowFile) : Action (World ω) Nat :=
  pf.withReader srv (Reader.numRowGroups (Handle.file srv))

/-- One line for each field. -/
def schemaLines (schema : Schema) : String :=
  String.intercalate "\n" (schema.map Field.text)

def literal (pf : RowFile) : String :=
  "ParquetFile(" ++ Text.quote pf.location.name ++ ")"

end RowFile
end RowReader
