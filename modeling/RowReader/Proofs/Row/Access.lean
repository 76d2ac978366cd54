import RowReader.Proofs.Report
import RowReader.Proofs.Row.Dictionary

/-!
# Access to a row by name

A row answers for a name in two ways.  Looking the name up finds the value at its first place.  The
dictionary of the row, and what the row is reduced to, are built from the front, and a later value
takes the place of an earlier one, so they hold the value at the last place of the name.

The two ways meet in one lemma: the dictionary of a row is looked up as the row read backwards is.
-/

namespace RowReader
namespace Row

/-- The value stands under the name, which has no place before. -/
def FirstUnder (row : Row) (name : String) (v : Value) : Prop :=
  ∃ ahead behind, row.cells = ahead ++ (name, v) :: behind ∧ name ∉ ahead.map Prod.fst

/-- The value stands under the name, which has no place behind. -/
def LastUnder (row : Row) (name : String) (v : Value) : Prop :=
  ∃ ahead behind, row.cells = ahead ++ (name, v) :: behind ∧ name ∉ behind.map Prod.fst

variable {row : Row} {name : String} {v w : Value}

/-! ## Lists of names with values -/

theorem lookup_cons (name : String) (cell : String × Value) (rest : List (String × Value)) :
    (cell :: rest).lookup name = if name = cell.1 then some cell.2 else rest.lookup name := by
  rw [List.lookup_cons]
  by_cases same : name = cell.1
  · rw [if_pos same, beq_iff_eq.mpr same]
  · rw [if_neg same, beq_false_of_ne same]

theorem forall_bne_iff {cells : List (String × Value)} :
    (∀ cell ∈ cells, (name != cell.1) = true) ↔ name ∉ cells.map Prod.fst := by
  rw [List.mem_map]
  constructor
  · rintro differ ⟨cell, member, rfl⟩
    exact bne_iff_ne.mp (differ cell member) rfl
  · exact fun absent cell member => bne_iff_ne.mpr fun same => absent ⟨cell, member, same.symm⟩

theorem lookup_eq_none_iff {cells : List (String × Value)} :
    cells.lookup name = none ↔ name ∉ cells.map Prod.fst := by
  rw [List.lookup_eq_none_iff, forall_bne_iff]

theorem lookup_eq_some_iff : row.cells.lookup name = some v ↔ row.FirstUnder name v := by
  simp only [List.lookup_eq_some_iff, forall_bne_iff, FirstUnder]

/-- The last value of a name is the first one of the row read backwards. -/
theorem lookup_reverse_eq_some_iff :
    row.cells.reverse.lookup name = some v ↔ row.LastUnder name v := by
  rw [show row.cells.reverse.lookup name = some v ↔ FirstUnder ⟨row.cells.reverse⟩ name v from
    lookup_eq_some_iff]
  constructor
  · rintro ⟨ahead, behind, split, absent⟩
    refine ⟨behind.reverse, ahead.reverse, ?_, by simpa using absent⟩
    have turned := congrArg List.reverse split
    simpa using turned
  · rintro ⟨ahead, behind, split, absent⟩
    exact ⟨behind.reverse, ahead.reverse, by simp [split], by simpa using absent⟩

/-- Among distinct names each entry is found under its own. -/
theorem lookup_of_mem {entries : List (String × Value)} (distinct : (entries.map Prod.fst).Nodup)
    {entry : String × Value} (member : entry ∈ entries) :
    entries.lookup entry.1 = some entry.2 := by
  rcases List.append_of_mem member with ⟨ahead, behind, rfl⟩
  refine List.lookup_eq_some_iff.mpr ⟨ahead, behind, rfl, forall_bne_iff.mpr fun early => ?_⟩
  rw [List.map_append, List.map_cons] at distinct
  exact (List.nodup_append.mp distinct).2.2 _ early _ List.mem_cons_self rfl

/-! ## Looking up in the row -/

theorem valueOf?_eq_lookup (row : Row) (name : String) :
    row.valueOf? name = row.cells.lookup name := by
  rcases row with ⟨cells⟩
  induction cells with
  | nil => rfl
  | cons cell rest ih =>
    rw [valueOf?_cons, lookup_cons, ih]
    exact if_congr eq_comm rfl rfl

theorem lookUp_eq_ok_iff : row.lookUp (.text name) = .ok v ↔ row.FirstUnder name v := by
  rw [← lookup_eq_some_iff, ← valueOf?_eq_lookup, lookUp]
  cases row.valueOf? name <;> simp

theorem lookUp_eq_missing_iff :
    row.lookUp (.text name) = .error (.missingField name) ↔ name ∉ row.fields := by
  rw [fields, ← lookup_eq_none_iff, ← valueOf?_eq_lookup, lookUp]
  cases row.valueOf? name <;> simp

/-- A name of the row is looked up as it is without a default. -/
theorem getD_of_mem (known : name ∈ row.fields) (default : Value) :
    row.getD (.text name) default = row.lookUp (.text name) := by
  cases found : row.valueOf? name with
  | some v => simp only [getD, lookUp, found]
  | none => exact absurd known (by rwa [fields, ← lookup_eq_none_iff, ← valueOf?_eq_lookup])

/-- Any default comes back for a name exactly if the row does not have it. -/
theorem getD_eq_default_iff :
    (∀ default, row.getD (.text name) default = .ok default) ↔ name ∉ row.fields := by
  constructor
  · intro every known
    have null := every .null
    have true := every (.bool true)
    rw [getD_of_mem known] at null true
    cases null.symm.trans true
  · intro absent default
    rw [getD, lookUp_eq_missing_iff.mpr absent]

/-! ## Looking up in the dictionary -/

/-- Taking a new value under a name changes what is found under it, and nothing else. -/
theorem lookup_replace (done : List (String × Value)) (cell : String × Value) :
    (done.map fun other => if other.1 == cell.1 then (other.1, cell.2) else other).lookup name =
      if name = cell.1 then (done.lookup name).map fun _ => cell.2 else done.lookup name := by
  induction done with
  | nil => simp
  | cons other rest ih =>
    rw [List.map_cons, lookup_cons, lookup_cons, ih]
    by_cases here : name = other.1
    · subst here
      by_cases named : other.1 = cell.1
      · simp [named]
      · simp [named]
    · have passed : name ≠ (if other.1 == cell.1 then (other.1, cell.2) else other).1 := by
        split <;> exact here
      rw [if_neg here, if_neg passed]

theorem lookup_enter (done : List (String × Value)) (cell : String × Value) :
    (toDict.enter done cell).lookup name =
      if name = cell.1 then some cell.2 else done.lookup name := by
  rw [enter_eq]
  by_cases there : cell.1 ∈ done.map Prod.fst
  · rw [if_pos there, lookup_replace]
    split
    · next same =>
      cases found : done.lookup name with
      | some old => rfl
      | none => exact absurd there (same ▸ lookup_eq_none_iff.mp found)
    · rfl
  · rw [if_neg there, List.lookup_append, lookup_cons]
    split
    · next same =>
      rw [same, lookup_eq_none_iff.mpr there]
      rfl
    · exact Option.or_none

theorem toDict_concat (cells : List (String × Value)) (cell : String × Value) :
    toDict ⟨cells ++ [cell]⟩ = toDict.enter (toDict ⟨cells⟩) cell :=
  List.foldl_concat ..

/-- The dictionary of a row is looked up as the row read backwards is. -/
theorem lookup_toDict (row : Row) (name : String) :
    row.toDict.lookup name = row.cells.reverse.lookup name := by
  rcases row with ⟨cells⟩
  induction cells using List.reverseRecOn with
  | nil => rfl
  | append_singleton cells cell ih =>
    rw [toDict_concat, lookup_enter, ih, List.reverse_concat, lookup_cons]

theorem lookup_toDict_eq_some_iff : row.toDict.lookup name = some v ↔ row.LastUnder name v := by
  rw [lookup_toDict, lookup_reverse_eq_some_iff]

theorem nodup_toDict (row : Row) : (row.toDict.map Prod.fst).Nodup := by
  rw [map_fst_toDict]
  exact nodup_eraseDups row.fields

/-- Each entry of the dictionary has the last value of its name. -/
theorem lastUnder_of_mem_toDict {entry : String × Value} (member : entry ∈ row.toDict) :
    row.LastUnder entry.1 entry.2 :=
  lookup_toDict_eq_some_iff.mp (lookup_of_mem row.nodup_toDict member)

/-- The entries of the reduced row are the names once each, with what their last values reduce to. -/
theorem toPlain_eq_last (reduce : ∀ v ∈ row.values, v.Reduces) :
    ∃ entries, row.toPlain = .ok (.dict entries) ∧
      List.Forall₂ (fun name entry => entry.1 = .text name ∧
        ∃ v, row.LastUnder name v ∧ v.ReducesTo entry.2) row.fields.eraseDups entries := by
  rcases toPlain_of_reduces reduce with ⟨p, plain⟩
  rcases toPlain_toDict plain with ⟨entries, rfl, each⟩
  refine ⟨entries, plain, ?_⟩
  have last : ∀ cell ∈ row.toDict, row.LastUnder cell.1 cell.2 := fun _ => lastUnder_of_mem_toDict
  rw [← map_fst_toDict, List.forall₂_map_left_iff]
  refine ((List.forall₂_and_left _ _).mpr ⟨last, each⟩).imp ?_
  rintro cell entry ⟨stands, named, reduced⟩
  exact ⟨named, cell.2, stands, reduced⟩

/-! ## Names that are repeated, and rows without any -/

theorem mem_of_firstUnder (first : row.FirstUnder name v) : (name, v) ∈ row.cells := by
  rcases first with ⟨ahead, behind, split, -⟩
  exact split ▸ List.mem_append_right ahead List.mem_cons_self

/-- Under a name that is not repeated the first value is the last one. -/
theorem eq_of_not_repeated (once : row.fields.count name < 2) (first : row.FirstUnder name v)
    (last : row.LastUnder name w) : v = w := by
  have alsoLast : row.LastUnder name v := by
    rcases first with ⟨ahead, behind, split, -⟩
    refine ⟨ahead, behind, split, fun again => ?_⟩
    have more := List.count_pos_iff.mpr again
    simp only [fields, split, List.map_append, List.map_cons, List.count_append,
      List.count_cons_self] at once
    omega
  rw [← lookup_toDict_eq_some_iff] at alsoLast last
  exact Option.some.inj (alsoLast.symm.trans last)

theorem exists_firstUnder (known : name ∈ row.fields) : ∃ v, row.FirstUnder name v := by
  cases found : row.cells.lookup name with
  | some v => exact ⟨v, lookup_eq_some_iff.mp found⟩
  | none => exact absurd known (lookup_eq_none_iff.mp found)

theorem exists_lastUnder (known : name ∈ row.fields) : ∃ v, row.LastUnder name v := by
  cases found : row.toDict.lookup name with
  | some v => exact ⟨v, lookup_toDict_eq_some_iff.mp found⟩
  | none =>
    refine absurd known ?_
    rwa [lookup_eq_none_iff, map_fst_toDict, List.mem_eraseDups] at found

/-- The dictionary of a row with distinct names is the row. -/
theorem toDict_of_nodup (distinct : row.fields.Nodup) : row.toDict = row.cells := by
  rcases row with ⟨cells⟩
  induction cells using List.reverseRecOn with
  | nil => rfl
  | append_singleton cells cell ih =>
    rw [fields, List.map_append] at distinct
    rcases List.nodup_append.mp distinct with ⟨early, -, apart⟩
    have new : cell.1 ∉ cells.map Prod.fst := fun old => apart _ old _ List.mem_cons_self rfl
    rw [toDict_concat, ih early, enter_eq, if_neg new]

/-- A value is found at its place, counted from the first or back from the end. -/
theorem valueAt_of_getElem? {place : Nat} {position : Int} (found : row.values[place]? = some v)
    (reached : -positionLimit ≤ position ∧ position < positionLimit)
    (meant : position = place ∨ position = place - row.size) : row.valueAt position = .ok v := by
  have inside : place < row.size := by
    have bound := (List.getElem?_eq_some_iff.mp found).1
    rwa [length_values] at bound
  have counted : (if position < 0 then position + Int.ofNat row.size else position) = place := by
    rw [Int.ofNat_eq_natCast]
    split <;> rcases meant with rfl | rfl <;> omega
  have front : ¬ (place : Int) < 0 := by omega
  have same : (place : Int).toNat = place := Int.toNat_natCast place
  simp only [valueAt, counted, if_neg front, same, valueAtPlace, found]
  exact if_neg (by omega)

/-- Looking up and the dictionary agree about all names, whatever it takes for values to agree, if they
agree about those that are repeated. -/
theorem agree_iff (agree : Value → Value → Prop) (alike : ∀ v ∈ row.values, agree v v) :
    (∀ name ∈ row.fields, ∃ v w, row.lookUp (.text name) = .ok v ∧
      row.toDict.lookup name = some w ∧ agree v w) ↔
    ∀ name, 2 ≤ row.fields.count name →
      ∃ v w, row.FirstUnder name v ∧ row.LastUnder name w ∧ agree v w := by
  simp only [lookUp_eq_ok_iff, lookup_toDict_eq_some_iff]
  constructor
  · intro every name repeated
    exact every name (List.count_pos_iff.mp (by omega))
  · intro every name known
    by_cases repeated : 2 ≤ row.fields.count name
    · exact every name repeated
    · rcases exists_firstUnder known with ⟨v, first⟩
      rcases exists_lastUnder known with ⟨w, last⟩
      obtain rfl := eq_of_not_repeated (by omega) first last
      exact ⟨v, v, first, last, alike v (List.mem_map_of_mem (mem_of_firstUnder first))⟩

/-- A name is looked up at its first place, with or without a default, and is missing exactly if the
row does not have it.  The dictionary of a row, and what a row is reduced to if its values can be, has
each name once, in the order of the first places, with the value of the last.  So looking up and the
dictionary agree about every name exactly if the first and the last value of each repeated name do,
for any notion of agreeing under which a value agrees with itself.  Where no name is repeated, a value
is found under its name, under its place counted from either end, and in the dictionary, which is the
row. -/
theorem found_first_kept_last (row : Row) (reduce : ∀ v ∈ row.values, v.Reduces) :
    (∀ name v, row.lookUp (.text name) = .ok v ↔ row.FirstUnder name v) ∧
    (∀ name, row.lookUp (.text name) = .error (.missingField name) ↔ name ∉ row.fields) ∧
    (∀ name ∈ row.fields, ∀ default, row.getD (.text name) default = row.lookUp (.text name)) ∧
    (∀ name, (∀ default, row.getD (.text name) default = .ok default) ↔ name ∉ row.fields) ∧
    row.toDict.map Prod.fst = row.fields.eraseDups ∧
    (∀ entry ∈ row.toDict, row.LastUnder entry.1 entry.2) ∧
    (∃ entries, row.toPlain = .ok (.dict entries) ∧
      List.Forall₂ (fun name entry => entry.1 = .text name ∧
        ∃ v, row.LastUnder name v ∧ v.ReducesTo entry.2) row.fields.eraseDups entries) ∧
    (∀ agree : Value → Value → Prop, (∀ v ∈ row.values, agree v v) →
      ((∀ name ∈ row.fields, ∃ v w, row.lookUp (.text name) = .ok v ∧
          row.toDict.lookup name = some w ∧ agree v w) ↔
        ∀ name, 2 ≤ row.fields.count name →
          ∃ v w, row.FirstUnder name v ∧ row.LastUnder name w ∧ agree v w)) ∧
    (row.fields.Nodup →
      (∀ (place : Nat) name v, row.fields[place]? = some name → row.values[place]? = some v →
        row.lookUp (.text name) = .ok v ∧ row.toDict.lookup name = some v ∧
        ∀ position : Int, -positionLimit ≤ position ∧ position < positionLimit →
          position = place ∨ position = place - row.size → row.lookUp (.int position) = .ok v) ∧
      row.toDict.length = row.size ∧
      row.toDict.map Prod.fst = row.fields ∧ row.toDict.map Prod.snd = row.values) := by
  refine ⟨fun _ _ => lookUp_eq_ok_iff, fun _ => lookUp_eq_missing_iff,
    fun _ known default => getD_of_mem known default, fun _ => getD_eq_default_iff,
    row.map_fst_toDict, fun _ => lastUnder_of_mem_toDict, toPlain_eq_last reduce, agree_iff, ?_⟩
  intro distinct
  have dictionary := toDict_of_nodup distinct
  refine ⟨fun place name v named found => ?_, ?_⟩
  · have member : (name, v) ∈ row.cells := by
      rw [fields, List.getElem?_map, Option.map_eq_some_iff] at named
      rw [values, List.getElem?_map, Option.map_eq_some_iff] at found
      rcases named with ⟨cell, there, rfl⟩
      rcases found with ⟨same, here, rfl⟩
      obtain rfl := Option.some.inj (here.symm.trans there)
      exact List.mem_of_getElem? here
    refine ⟨lookUp_of_mem distinct member, ?_, fun position reached meant => ?_⟩
    · rw [dictionary]
      exact lookup_of_mem distinct member
    · exact valueAt_of_getElem? found reached meant
  · rw [dictionary]
    exact ⟨rfl, rfl, rfl⟩

/-- A row with a name that stands at three of its places. -/
def tripled : Row :=
  ⟨[("a", .int 1), ("b", .text "x"), ("a", .null), ("a", .int 3)]⟩

/-- The first of the three values is looked up, the last is in the dictionary, and they differ. -/
theorem found_first_kept_last_of_tripled :
    (∀ v ∈ tripled.values, v.Reduces) ∧
    tripled.lookUp (.text "a") = .ok (.int 1) ∧
    tripled.getD (.text "c") (.bool true) = .ok (.bool true) ∧
    tripled.toDict.map Prod.fst = ["a", "b"] ∧ tripled.LastUnder "a" (.int 3) ∧
    tripled.toPlain = .ok (.dict [(.text "a", .int 3), (.text "b", .text "x")]) ∧
    ¬ ∀ name ∈ tripled.fields, ∃ v w, tripled.lookUp (.text name) = .ok v ∧
      tripled.toDict.lookup name = some w ∧ v = w := by
  have reduce : ∀ v ∈ tripled.values, v.Reduces := by
    simp [tripled, values, Value.Reduces, Value.toPlain]
  rcases found_first_kept_last tripled reduce
    with ⟨first, -, -, missing, names, last, plain, agree, -⟩
  have here := (first "a" (.int 1)).mpr ⟨[], _, rfl, List.not_mem_nil⟩
  have kept := last ("a", .int 3) List.mem_cons_self
  refine ⟨reduce, here, (missing "c").mpr (by decide) _, names, kept, by cbv, ?_⟩
  rw [agree Eq fun _ _ => rfl]
  intro every
  rcases every "a" (by decide) with ⟨v, w, stands, behind, rfl⟩
  obtain rfl := Except.ok.inj (here.symm.trans ((first "a" v).mpr stands))
  cases lookup_toDict_eq_some_iff.mpr behind

end Row
end RowReader
