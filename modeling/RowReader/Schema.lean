import RowReader.Plain

/-!
# Schemas

A schema lists the top-level fields of a file.  A field stored as one column has a physical type;
a field without one is a group, whose values are assembled from several columns.
-/

namespace RowReader

/-- How the values of a column are stored. -/
inductive PhysicalType where
  | boolean
  | int32
  | int64
  | int96
  | float
  | double
  | byteArray
  | fixedLenByteArray
  deriving DecidableEq, Repr

namespace PhysicalType

def all : List PhysicalType :=
  [boolean, int32, int64, int96, float, double, byteArray, fixedLenByteArray]

def name : PhysicalType → String
  | boolean => "BOOLEAN"
  | int32 => "INT32"
  | int64 => "INT64"
  | int96 => "INT96"
  | float => "FLOAT"
  | double => "DOUBLE"
  | byteArray => "BYTE_ARRAY"
  | fixedLenByteArray => "FIXED_LEN_BYTE_ARRAY"

def code : PhysicalType → Nat
  | boolean => 0
  | int32 => 1
  | int64 => 2
  | int96 => 3
  | float => 4
  | double => 5
  | byteArray => 6
  | fixedLenByteArray => 7

def ofName? (name : String) : Option PhysicalType :=
  all.find? fun t => t.name == name

def ofCode? (code : Int) : Option PhysicalType :=
  all.find? fun t => Int.ofNat t.code == code

theorem ofName?_name (t : PhysicalType) : ofName? t.name = some t := by
  cases t <;> decide

end PhysicalType

/-- How often a field occurs in one row. -/
inductive Repetition where
  | required
  | optional
  | repeated
  deriving DecidableEq, Repr

namespace Repetition

def all : List Repetition := [required, optional, repeated]

def name : Repetition → String
  | required => "REQUIRED"
  | optional => "OPTIONAL"
  | repeated => "REPEATED"

def code : Repetition → Nat
  | required => 0
  | optional => 1
  | repeated => 2

def ofName? (name : String) : Option Repetition :=
  all.find? fun r => r.name == name

def ofCode? (code : Int) : Option Repetition :=
  all.find? fun r => Int.ofNat r.code == code

/-- The repetition of a top-level column.  For such a column the largest repetition level counts
its repeated steps, and the largest definition level its steps that need not be present. -/
def ofLevels (maxDefinition maxRepetition : Int) : Repetition :=
  if 0 < maxRepetition then repeated
  else if 0 < maxDefinition then optional
  else required

end Repetition

structure Field where
  name : String
  /-- The type of the field's values in memory, as the decoder names it. -/
  typeName : String
  physical : Option PhysicalType := none
  logical : Option String := none
  repetition : Repetition := .optional
  deriving DecidableEq, Repr

namespace Field

def isGroup (f : Field) : Bool := f.physical.isNone

/-- The logical type in brackets; an empty one is not shown. -/
def logicalSuffix (logical : Option String) : String :=
  match logical with
  | none => ""
  | some name => if name.isEmpty then "" else " [" ++ name ++ "]"

/-- One line about a field. -/
def text (f : Field) : String :=
  match f.physical with
  | none => "Group(" ++ f.name ++ ": " ++ f.typeName ++ " " ++ f.repetition.name ++ ")"
  | some physical =>
    "Column(" ++ f.name ++ ": " ++ physical.name ++ " " ++ f.repetition.name
      ++ logicalSuffix f.logical ++ ")"

/-- A named choice with its code. -/
def choiceLiteral (kind name : String) (code : Nat) : String :=
  "<" ++ kind ++ "." ++ name ++ ": " ++ toString code ++ ">"

/-- All parts of a field by name. -/
def literal (f : Field) : String :=
  let physical := match f.physical with
    | none => "None"
    | some p => choiceLiteral "Type" p.name p.code
  let logical := match f.logical with
    | none => "None"
    | some name => Text.quote name
  "SchemaField(name=" ++ Text.quote f.name ++ ", arrow_type=" ++ Text.quote f.typeName
    ++ ", physical_type=" ++ physical ++ ", logical_type=" ++ logical ++ ", repetition="
    ++ choiceLiteral "Repetition" f.repetition.name f.repetition.code ++ ")"

/-- A field as a plain value; choices are given by their codes. -/
def toPlain (f : Field) : Plain :=
  .dict [
    (.text "name", .text f.name),
    (.text "arrow_type", .text f.typeName),
    (.text "physical_type", match f.physical with
      | none => .null
      | some p => .int (Int.ofNat p.code)),
    (.text "logical_type", match f.logical with
      | none => .null
      | some name => .text name),
    (.text "repetition", .int (Int.ofNat f.repetition.code))]

end Field

abbrev Schema := List Field

def Schema.names (schema : Schema) : List String :=
  schema.map Field.name

end RowReader
