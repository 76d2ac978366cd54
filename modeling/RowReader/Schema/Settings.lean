import RowReader.Schema
import RowReader.Setting

/-!
# Fields from settings

A field can be given by settings; its name and type are required, the rest has defaults.
-/

namespace RowReader
namespace Field

/-- Reads a field from settings.  Unknown settings are ignored. -/
def ofSettings (settings : Setting.Settings) : Except (List SettingError) Field :=
  let name := Setting.require settings "name" Setting.readString
  let typeName := Setting.require settings "arrow_type" Setting.readString
  let physical := Setting.readOr settings "physical_type" none
    (Setting.readOptional
      (Setting.readChoice (PhysicalType.all.map PhysicalType.code) PhysicalType.ofCode?))
  let logical := Setting.readOr settings "logical_type" none
    (Setting.readOptional Setting.readString)
  let repetition := Setting.readOr settings "repetition" .optional
    (Setting.readChoice (Repetition.all.map Repetition.code) Repetition.ofCode?)
  match name, typeName, physical, logical, repetition with
  | .ok name, .ok typeName, .ok physical, .ok logical, .ok repetition =>
    .ok { name, typeName, physical, logical, repetition }
  | _, _, _, _, _ =>
    .error (Setting.problems name ++ Setting.problems typeName ++ Setting.problems physical
      ++ Setting.problems logical ++ Setting.problems repetition)

/-- No part of a field can be assigned. -/
def assign (_ : Field) (name : String) : Except (List SettingError) Unit :=
  .error [⟨[.name name], .frozen⟩]

end Field
end RowReader
