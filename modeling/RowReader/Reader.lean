import RowReader.Decoded.Fields
import RowReader.Framing
import RowReader.RowGroup
import RowReader.Source

/-!
# Readers

A reader is a file opened for one pass over its row groups, and it owns that file.  Opening checks
the framing only.  The footer is read by the first call that needs it; a call that fails to read it
leaves it to the next.  Row groups are handed out in file order, and the position moves on before
anything about a group can fail, so a failed group is not tried again.  After closing every call
but another close fails, and that one does nothing.

The state of a reader's actions is the reader together with the file's own state.
-/

namespace RowReader

/-- What a reader has asked of the decoder: the groups, the last one first, and how often it was
closed. -/
structure DecoderUse where
  groups : List Nat := []
  closes : Nat := 0

structure Reader where
  /-- What messages call the file. -/
  name : String
  options : Options
  decoding : Decoding
  footerRead : Bool := false
  schema : Option Schema := none
  /-- The position of the next row group. -/
  cursor : Nat := 0
  closed : Bool := false
  used : DecoderUse := {}

namespace Reader

variable {φ α : Type}

/-- The reader as it stands. -/
def current : Action (Reader × φ) Reader := fun both => { result := .ok both.1, state := both }

def update (f : Reader → Reader) : Action (Reader × φ) Unit :=
  Action.modifyState fun both => (f both.1, both.2)

/-- Acts on the file of a reader. -/
def onFile (act : Action φ α) : Action (Reader × φ) α :=
  Action.onPart Prod.snd (fun f both => (both.1, f)) act

/-! ## Opening and closing -/

/-- Goes on after a harmless fault with no more than a warning. -/
def tolerate {σ : Type} (harmless : Fault → Bool) (warning : String) (act : Action σ Unit) :
    Action σ Unit :=
  act.rescue fun e =>
    match e with
    | .fault f =>
      if harmless f then Action.note .warning .source (warning ++ ": " ++ f.text)
      else Action.fail e
    | _ => Action.fail e

/-- Closes the file itself. -/
def closeFile (file : ByteFile φ) (name : String) : Action φ Unit := do
  tolerate Fault.isSystem ("Error closing " ++ name) file.close
  Action.debug .source ("Closed " ++ name)

/-- Whether closing the decoder may fail without harm. -/
def harmlessInDecoder (f : Fault) : Bool := f.isDecoder || f.isSystem

/-- Closes the decoder, which there is once the footer has been read. -/
def closeDecoder : Action (Reader × φ) Unit := do
  let r ← current
  if r.footerRead then
    update fun r => { r with used := { r.used with closes := r.used.closes + 1 } }
    let error? := match r.decoding with
      | .ok d => d.closeError
      | .error _ => none
    tolerate harmlessInDecoder ("Error closing reader for " ++ r.name)
      (match error? with
        | some e => Action.fail e
        | none => return ())
  else return ()

def close (file : ByteFile φ) : Action (Reader × φ) Unit := do
  let r ← current
  if r.closed then return ()
  else
    update fun r => { r with closed := true }
    closeDecoder
    onFile (closeFile file r.name)

/-- What opening reports for an error of the framing check.  The file is closed before these are
reported, and left alone by an error that has none. -/
def openingError? (name : String) : Error → Option Error
  | .fault f => if f.isSystem then some (.cannotRead name f) else none
  | e => some e

/-- Opens a file that is called `name`. -/
def openFile (file : ByteFile φ) (name : String) (options : Options) (decoding : Decoding) :
    Action φ Reader := do
  let size ← file.checkMagic.rescue fun e =>
    match openingError? name e with
    | none => Action.fail e
    | some reported => do
      closeFile file name
      Action.fail reported
  Action.debug .source (s!"Opened " ++ name ++ s!" ({size} bytes)")
  return { name, options, decoding }

/-! ## Footer and schema -/

def requireOpen : Action (Reader × φ) Reader := do
  let r ← current
  if r.closed then Action.fail (.sourceClosed r.name) else return r

/-- How a failed reading of the footer is reported. -/
def footerError (name : String) : Error → Error
  | .fault f =>
    if f.isDecoder || f.isSystem || f.isValue then .footerUnparsed name f else .fault f
  | e => e

/-- The decoded file, whose footer is read unless it has been. -/
def footer (file : ByteFile φ) : Action (Reader × φ) DecodedFile := do
  let r ← requireOpen
  if r.footerRead then Action.ofExcept r.decoding
  else
    let _ ← (onFile file.checkFooter).mapError (footerError r.name)
    let d ← (Action.ofExcept r.decoding).mapError (footerError r.name)
    update fun r => { r with footerRead := true }
    let groups := d.groups.length
    Action.debug .source ("Parsed footer of " ++ r.name ++ s!": {groups} row groups, {d.rows} rows")
    return d

/-- How a failed description of the fields is reported. -/
def schemaError (name : String) : Error → Error
  | .fault f =>
    if f.isDecoder || f.isKey || f.isValue then .schemaUnreadable name f else .fault f
  | e => e

/-- The fields rows are assembled against. -/
def fieldsOf (r : Reader) (d : DecodedFile) : Except Error Schema := do
  let fields ← d.allFields.mapError (schemaError r.name)
  fields.project r.options.columns

/-- The schema, found once and then kept. -/
def readSchema (file : ByteFile φ) : Action (Reader × φ) Schema := do
  let r ← requireOpen
  match r.schema with
  | some schema => return schema
  | none =>
    let d ← footer file
    let schema ← Action.ofExcept (r.fieldsOf d)
    update fun r => { r with schema := some schema }
    Action.debug .source ("Schema of " ++ r.name ++ ": " ++ Text.nameList schema.names)
    return schema

/-! ## Row groups -/

/-- How a failed decoding of a row group is reported. -/
def groupError (index : Nat) (name : String) : Error → Error
  | .fault f =>
    if f.isDecoder || f.isSystem || f.isValue then .undecodable index name f else .fault f
  | e => e

/-- The limit that a group exceeds, if there is one. -/
def limitExceeded? (options : Options) (stored : StoredGroup) : Option Int :=
  options.maxRowGroupBytes.filter fun limit => limit < stored.bytes

/-- The row group at an index, which the decoder is asked for. -/
def decodeGroup (r : Reader) (index : Nat) (stored : StoredGroup) : Except Error RowGroup := do
  let table ← stored.table.mapError (groupError index r.name)
  RowGroup.ofTable (Int.ofNat index) stored.rows
    (stored.selection.project r.options.columns table)

/-- The row group at an index; one that is too large is not decoded. -/
def takeGroup (index : Nat) (stored : StoredGroup) : Action (Reader × φ) RowGroup := do
  let r ← current
  match limitExceeded? r.options stored with
  | some limit => Action.fail (.rowGroupTooLarge index r.name stored.bytes limit)
  | none =>
    update fun r => { r with used := { r.used with groups := index :: r.used.groups } }
    let g ← Action.ofExcept (r.decodeGroup index stored)
    Action.debug .rowGroup g.arrival
    return g

/-- The next row group in file order, or none after the last. -/
def nextRowGroup (file : ByteFile φ) : Action (Reader × φ) (Option RowGroup) := do
  let d ← footer file
  let r ← current
  match d.groups[r.cursor]? with
  | none =>
    Action.debug .source ("No more row groups in " ++ r.name)
    return none
  | some stored =>
    update fun r => { r with cursor := r.cursor + 1 }
    some <$> takeGroup r.cursor stored

/-- The row of a group at a position, with the group after it. -/
def assembleRow (g : RowGroup) (schema : Schema) (i : Int) :
    Action (Reader × φ) (Row × RowGroup) := do
  let _ ← requireOpen
  let out := g.assemble schema i
  return (← Action.ofExcept out.result, out.state)

/-- The total row count that the footer states. -/
def numRows (file : ByteFile φ) : Action (Reader × φ) Int := do
  return (← footer file).rows

def numRowGroups (file : ByteFile φ) : Action (Reader × φ) Nat := do
  return (← footer file).groups.length

def literal (r : Reader) : String :=
  let state := if r.closed then "closed" else s!"next_row_group={r.cursor}"
  "ArrowParquetSource(" ++ r.name ++ ", " ++ state ++ ")"

end Reader
end RowReader
