import RowReader.Setting

/-!
# Reading options

Which fields to read and in which order, whether columns are decoded in parallel, and how large a
row group may be.  Options that exist are sound: a list of fields names at least one and none
twice, and a size limit is positive.
-/

namespace RowReader

structure Options where
  /-- The fields to read, in output order; every field without them. -/
  columns : Option (List String) := none
  useThreads : Bool := true
  /-- The largest compressed size a row group may have. -/
  maxRowGroupBytes : Option Int := none
  columns_sound : ∀ names, columns = some names → names ≠ [] ∧ names.Nodup := by simp
  limit_pos : ∀ limit, maxRowGroupBytes = some limit → 0 < limit := by simp

namespace Options

def standard : Options := {}

/-- The names that occur at least twice, each once, by code points. -/
def duplicates (names : List String) : List String :=
  ((names.filter fun name => 1 < names.count name).eraseDups).mergeSort fun a b => a ≤ b

/-- What is wrong with a list of fields. -/
def columnsProblem? (names : List String) : Option SettingProblem :=
  if names = [] then some (.rule "columns must name at least one field")
  else if names.Nodup then none
  else some (.rule ("columns contains duplicates: " ++ Text.nameList (duplicates names)))

theorem columnsProblem?_eq_none_iff (names : List String) :
    columnsProblem? names = none ↔ names ≠ [] ∧ names.Nodup := by
  simp only [columnsProblem?]
  split
  · next empty => simp [empty]
  · next nonempty =>
    split
    · next distinct => simp [nonempty, distinct]
    · next repeated => simp [repeated]

/-- A list of texts, with a problem at the place of every item that is none. -/
def readNames (items : List Plain) : Except (List SettingError) (List String) :=
  let failed := items.zipIdx.filterMap fun (item, i) =>
    match Setting.readString item with
    | .ok _ => none
    | .error problem => some ⟨[.name "columns", .item i], problem⟩
  if failed.isEmpty then
    .ok (items.filterMap fun item => (Setting.readString item).toOption)
  else .error failed

def readColumns (settings : Setting.Settings) : Except (List SettingError) (Option (List String)) :=
  match Setting.find? settings "columns" with
  | none => .ok none
  | some .null => .ok none
  | some (.list items) => (readNames items).map some
  | some _ => .error [⟨[.name "columns"], .notATuple⟩]

def readLimit (v : Plain) : Except SettingProblem (Option Int) := do
  match ← Setting.readOptional Setting.readInteger v with
  | none => return none
  | some limit => if 0 < limit then return some limit else throw .notPositive

/-- Joins settings that were read one by one; this is where a list of fields is checked. -/
def join (columns : Option (List String)) (useThreads : Bool) (limit : Option Int) :
    Except SettingError Options :=
  match columns.bind columnsProblem? with
  | some problem => .error ⟨[], problem⟩
  | none =>
    if sound : (∀ names, columns = some names → names ≠ [] ∧ names.Nodup)
        ∧ (∀ n, limit = some n → 0 < n) then
      .ok
        { columns, useThreads, maxRowGroupBytes := limit
          columns_sound := sound.1, limit_pos := sound.2 }
    else .error ⟨[.name "max_row_group_bytes"], .notPositive⟩

/-- Reads options from settings.  Unknown settings are ignored. -/
def ofSettings (settings : Setting.Settings) : Except (List SettingError) Options :=
  let columns := readColumns settings
  let useThreads := Setting.readOr settings "use_threads" true Setting.readBoolean
  let limit := Setting.readOr settings "max_row_group_bytes" none readLimit
  match columns, useThreads, limit with
  | .ok columns, .ok useThreads, .ok limit =>
    (join columns useThreads limit).mapError fun e => [e]
  | _, _, _ =>
    .error (Setting.problems columns ++ Setting.problems useThreads ++ Setting.problems limit)

/-- No part of options can be assigned. -/
def assign (_ : Options) (name : String) : Except (List SettingError) Unit :=
  .error [⟨[.name name], .frozen⟩]

end Options
end RowReader
