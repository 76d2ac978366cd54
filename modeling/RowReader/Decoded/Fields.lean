import RowReader.Decoded
import RowReader.Options
import RowReader.Schema

/-!
# Fields of a decoded file

Each top-level field is described by the stored column whose path is the field's name, if there is
one.  A field without such a column is a group.  Of two columns with one path the later counts,
and so does the later of two fields with one name when fields are chosen by name.
-/

namespace RowReader
namespace DecodedFile

/-- The last stored column with a path. -/
def leafAt? (leaves : List Leaf) (path : String) : Option Leaf :=
  leaves.reverse.find? fun leaf => leaf.path == path

/-- The logical type that a column shows by this text.  There is none where it shows `None`. -/
def logicalNamed? (text : String) : Option String :=
  if text = "None" then none else some text

/-- A field described by its own stored column, whose physical type must be known. -/
def columnField (f : TopField) (leaf : Leaf) : Except Error Field :=
  match PhysicalType.ofName? leaf.physicalName with
  | none => .error (.fault ⟨.key, leaf.physicalName⟩)
  | some physical =>
    .ok
      { name := f.name, typeName := f.typeName, physical := some physical
        logical := logicalNamed? leaf.logicalName
        repetition := .ofLevels leaf.maxDefinition leaf.maxRepetition }

/-- A field whose values are spread over several stored columns. -/
def groupField (f : TopField) : Field :=
  { name := f.name, typeName := f.typeName
    repetition := if f.nullable then .optional else .required }

def fieldFrom (leaves : List Leaf) (f : TopField) : Except Error Field :=
  match leafAt? leaves f.name with
  | none => .ok (groupField f)
  | some leaf => columnField f leaf

/-- All top-level fields, in file order. -/
def allFields (d : DecodedFile) : Except Error Schema := do
  let leaves ← d.leaves
  d.fields.mapM (fieldFrom leaves)

end DecodedFile

namespace Schema

/-- The last field of a name. -/
def lastNamed? (schema : Schema) (name : String) : Option Field :=
  schema.reverse.find? fun f => f.name == name

/-- The fields of the given names, in their order. -/
def choose (names : List String) (schema : Schema) : Except Error Schema :=
  let missing := names.filter fun name => !schema.names.contains name
  if missing.isEmpty then .ok (names.filterMap schema.lastNamed?)
  else .error (.columnsNotFound missing schema.names.eraseDups)

/-- The fields that options ask for. -/
def project (columns : Option (List String)) (schema : Schema) : Except Error Schema :=
  match columns with
  | none => .ok schema
  | some names => schema.choose names

end Schema
end RowReader
