import Mathlib.Data.List.Sort
import Mathlib.Data.String.Basic
import RowReader.Options
import RowReader.Proofs.Action.Collect

/-!
# Options from settings

Options are read from settings whose list of columns is a list of texts.  Such a list is accepted
exactly if it names a field at all and none twice, and the names that are repeated are told one after
another in the order of their code points.
-/

namespace RowReader
namespace Options

open Setting (Settings)

/-! ## Repeated names -/

theorem mem_duplicates {names : List String} {name : String} :
    name ∈ duplicates names ↔ 2 ≤ names.count name := by
  rw [duplicates, List.mem_mergeSort, List.mem_eraseDups, List.mem_filter, decide_eq_true_iff]
  constructor
  · exact fun both => both.2
  · exact fun twice => ⟨List.count_pos_iff.mp (by omega), twice⟩

/-- The names are sorted, and sorting neither adds a repetition nor leaves one. -/
theorem duplicates_increasing (names : List String) : (duplicates names).Pairwise (· < ·) := by
  have sorted : (duplicates names).Pairwise (· ≤ ·) := List.pairwise_mergeSort' (· ≤ ·) _
  have distinct : (duplicates names).Nodup :=
    (List.mergeSort_perm _ _).nodup_iff.mpr (nodup_eraseDups _)
  exact (sorted.and distinct).imp fun both => lt_of_le_of_ne both.1 both.2

/-! ## Reading the settings -/

variable {settings : Settings} {names : List String} {threads : Bool} {limit : Option Int}

/-- A list of texts has no item that is none. -/
theorem readNames_texts (names : List String) : readNames (names.map .text) = .ok names := by
  have all_read : (names.map Plain.text).filterMap
      (fun item => (Setting.readString item).toOption) = names := by
    rw [List.filterMap_map]
    exact List.filterMap_some
  rw [readNames, if_pos]
  · exact congrArg Except.ok all_read
  · rw [List.isEmpty_iff, List.filterMap_eq_nil_iff]
    rintro ⟨item, i⟩ member
    rcases List.mem_map.mp (List.fst_mem_of_mem_zipIdx member) with ⟨name, -, rfl⟩
    rfl

theorem readColumns_texts
    (given : Setting.find? settings "columns" = some (.list (names.map .text))) :
    readColumns settings = .ok (some names) := by
  rw [readColumns, given]
  dsimp only
  rw [readNames_texts]
  rfl

theorem pos_of_readLimit {v : Plain} (read : readLimit v = .ok limit) :
    ∀ n, limit = some n → 0 < n := by
  rintro n rfl
  rw [readLimit] at read
  cases found : Setting.readOptional Setting.readInteger v with
  | error problem =>
    rw [found] at read
    cases read
  | ok number =>
    rw [found] at read
    cases number with
    | none => cases read
    | some m =>
      change (if 0 < m then Except.ok (some m) else Except.error SettingProblem.notPositive) = _
        at read
      split at read
      · next positive =>
        cases read
        exact positive
      · cases read

/-- A limit is positive, whether it was left out or could be read. -/
theorem pos_of_readOr
    (read : Setting.readOr settings "max_row_group_bytes" none readLimit = .ok limit) :
    ∀ n, limit = some n → 0 < n := by
  rw [Setting.readOr] at read
  split at read
  · cases read
    exact nofun
  · next v _ =>
    cases found : readLimit v with
    | error problem =>
      rw [found] at read
      cases read
    | ok limit' =>
      rw [found] at read
      cases read
      exact pos_of_readLimit found

/-- Where everything could be read, the list of columns decides. -/
theorem ofSettings_eq (given : Setting.find? settings "columns" = some (.list (names.map .text)))
    (switched : Setting.readOr settings "use_threads" true Setting.readBoolean = .ok threads)
    (limited : Setting.readOr settings "max_row_group_bytes" none readLimit = .ok limit) :
    ofSettings settings = (join (some names) threads limit).mapError fun e => [e] := by
  simp only [ofSettings, readColumns_texts given, switched, limited]

theorem ofSettings_refused
    (given : Setting.find? settings "columns" = some (.list (names.map .text)))
    (switched : Setting.readOr settings "use_threads" true Setting.readBoolean = .ok threads)
    (limited : Setting.readOr settings "max_row_group_bytes" none readLimit = .ok limit)
    {problem : SettingProblem} (found : columnsProblem? names = some problem) :
    ofSettings settings = .error [⟨[], problem⟩] := by
  rw [ofSettings_eq given switched limited, join, Option.bind_some, found]
  rfl

theorem ofSettings_accepted
    (given : Setting.find? settings "columns" = some (.list (names.map .text)))
    (switched : Setting.readOr settings "use_threads" true Setting.readBoolean = .ok threads)
    (limited : Setting.readOr settings "max_row_group_bytes" none readLimit = .ok limit)
    (sound : names ≠ [] ∧ names.Nodup) :
    ∃ options, ofSettings settings = .ok options ∧ options.columns = some names ∧
      options.useThreads = threads ∧ options.maxRowGroupBytes = limit := by
  have all : (∀ chosen, some names = some chosen → chosen ≠ [] ∧ chosen.Nodup) ∧
      ∀ n, limit = some n → 0 < n :=
    ⟨by rintro _ ⟨⟩; exact sound, pos_of_readOr limited⟩
  rw [ofSettings_eq given switched limited, join, Option.bind_some,
    (columnsProblem?_eq_none_iff names).mpr sound]
  dsimp only
  rw [dif_pos all]
  exact ⟨_, rfl, rfl, rfl, rfl⟩

end Options
end RowReader
