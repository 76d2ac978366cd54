import RowReader.Proofs.Plain.Distinct
import RowReader.Proofs.Report
import RowReader.Proofs.Value.Parts

/-!
# Reducing values

A reduction goes through a value part by part: lists and tuples become lists of their reduced items, and
a dictionary has its keys and its values reduced.  It fails only where a key becomes a list or a
dictionary, which no key can be.  In a dictionary whose keys have fingerprints these are the tuples and
the records, so the reduction of a value fails exactly if there is one among the keys of a dictionary
somewhere in it.

What comes of a reduction is made of scalars, lists and dictionaries with scalars for keys, and is
reduced to itself.
-/

namespace RowReader

theorem error_of_map {α β : Type} {f : α → β} {r : Except Unhashable α} {e : Unhashable}
    (mapped : r.map f = .error e) : r = .error e := by
  cases r with
  | error other =>
    cases mapped
    rfl
  | ok a => cases mapped

namespace Value

/-! ## Each kind of value -/

theorem itemsToPlain_eq_mapM (items : List Value) : itemsToPlain items = items.mapM toPlain := by
  induction items with
  | nil => rfl
  | cons v rest ih =>
    rw [itemsToPlain, List.mapM_cons, ih]
    cases toPlain v with
    | error e => rfl
    | ok p => cases rest.mapM toPlain <;> rfl

theorem itemsToPlain_eq_ok_iff {items : List Value} {plains : List Plain} :
    itemsToPlain items = .ok plains ↔ List.Forall₂ ReducesTo items plains := by
  rw [itemsToPlain_eq_mapM]
  exact mapM_eq_ok_iff

theorem reducesTo_list {items : List Value} {p : Plain} :
    (list items).ReducesTo p ↔ ∃ plains, List.Forall₂ ReducesTo items plains ∧ p = .list plains := by
  rw [ReducesTo, toPlain]
  constructor
  · intro found
    rcases ok_of_map found with ⟨plains, reduced, rfl⟩
    exact ⟨plains, itemsToPlain_eq_ok_iff.mp reduced, rfl⟩
  · rintro ⟨plains, reduced, rfl⟩
    rw [itemsToPlain_eq_ok_iff.mpr reduced]
    rfl

theorem reducesTo_tuple {items : List Value} {p : Plain} :
    (tuple items).ReducesTo p ↔ (list items).ReducesTo p := by
  rw [ReducesTo, ReducesTo, toPlain, toPlain]

theorem error_of_itemsToPlain {items : List Value} {e : Unhashable}
    (failed : itemsToPlain items = .error e) : ∃ v ∈ items, v.toPlain = .error e := by
  rw [itemsToPlain_eq_mapM] at failed
  exact exists_error_of_mapM failed

/-- The entry is set under this key, with this value. -/
structure Enters (entry : Value × Value) (key : Key) (p : Plain) : Prop where
  named : ∃ plain, entry.1.ReducesTo plain ∧ plain.toKey = .ok key
  valued : entry.2.ReducesTo p

theorem enters_of_entriesToPlain {entries : List (Value × Value)} {done plains : List (Key × Plain)}
    (found : entriesToPlain entries done = .ok plains) :
    ∀ entry ∈ entries, ∃ key p, Enters entry key p := by
  induction entries generalizing done with
  | nil => exact fun _ => nofun
  | cons entry rest ih =>
    rw [entriesToPlain] at found
    cases named : toPlain entry.1 with
    | error e => simp [named] at found
    | ok plain =>
      cases valued : toPlain entry.2 with
      | error e => simp [named, valued] at found
      | ok p =>
        cases keyed : plain.toKey with
        | error e => simp [named, valued, keyed] at found
        | ok key =>
          simp only [named, valued, keyed] at found
          exact List.forall_mem_cons.mpr ⟨⟨key, p, ⟨plain, named, keyed⟩, valued⟩, ih found⟩

theorem error_of_entriesToPlain {entries : List (Value × Value)} {done : List (Key × Plain)}
    {e : Unhashable} (failed : entriesToPlain entries done = .error e) :
    ∃ entry ∈ entries, entry.1.toPlain = .error e ∨ entry.2.toPlain = .error e ∨
      ∃ plain, entry.1.ReducesTo plain ∧ plain.toKey = .error e := by
  induction entries generalizing done with
  | nil => cases failed
  | cons entry rest ih =>
    rw [entriesToPlain] at failed
    cases named : toPlain entry.1 with
    | error other =>
      simp only [named] at failed
      cases failed
      exact ⟨entry, List.mem_cons_self, .inl named⟩
    | ok plain =>
      cases valued : toPlain entry.2 with
      | error other =>
        simp only [named, valued] at failed
        cases failed
        exact ⟨entry, List.mem_cons_self, .inr (.inl valued)⟩
      | ok p =>
        cases keyed : plain.toKey with
        | error other =>
          simp only [named, valued, keyed] at failed
          cases failed
          exact ⟨entry, List.mem_cons_self, .inr (.inr ⟨plain, named, keyed⟩)⟩
        | ok key =>
          simp only [named, valued, keyed] at failed
          rcases ih failed with ⟨later, member, cause⟩
          exact ⟨later, List.mem_cons_of_mem entry member, cause⟩

/-- A record is reduced like the dictionary with its names for keys. -/
theorem cellsToPlain_eq (cells : List (String × Value)) (done : List (Key × Plain)) :
    cellsToPlain cells done = entriesToPlain (cells.map fun cell => (text cell.1, cell.2)) done := by
  induction cells generalizing done with
  | nil => rfl
  | cons cell rest ih =>
    rw [List.map_cons, cellsToPlain, entriesToPlain]
    cases toPlain cell.2 with
    | error e => rfl
    | ok p => exact ih _

/-! ## Where a reduction fails -/

/-- A tuple or a record, which may have a fingerprint and yet is reduced to what cannot be a key. -/
def Composite (key : Value) : Prop :=
  (∃ items, key = tuple items) ∨ ∃ cells, key = record cells

/-- Somewhere in the value there is a dictionary with a tuple or a record among its keys. -/
def HasCompositeKey (v : Value) : Prop :=
  ∃ entries, Inside (dict entries) v ∧ ∃ entry ∈ entries, Composite entry.1

/-- Every key of a dictionary somewhere in the value has a fingerprint. -/
def Keyed (v : Value) : Prop :=
  ∀ entries, Inside (dict entries) v → ∀ entry ∈ entries, ∃ print, entry.1.fingerprint = .ok print

theorem HasCompositeKey.of_part {u v : Value} (has : HasCompositeKey u) (part : Part u v) :
    HasCompositeKey v := by
  rcases has with ⟨entries, inside, composite⟩
  exact ⟨entries, inside.of_part part, composite⟩

theorem Keyed.part {u v : Value} (keyed : Keyed v) (part : Part u v) : Keyed u :=
  fun entries inside => keyed entries (inside.of_part part)

theorem keyed_of_parts {v : Value} (parts : ∀ u, Part u v → u.Keyed)
    (own : ∀ entries, v = dict entries → ∀ entry ∈ entries,
      ∃ print, entry.1.fingerprint = .ok print) : v.Keyed := by
  intro entries inside
  rcases inside.cases_tail with same | ⟨u, inner, part⟩
  · exact own entries same
  · exact parts u part entries inner

/-- The error of a key that is a list or a dictionary after the reduction. -/
def NoKey (e : Unhashable) : Prop := e = .kind "list" ∨ e = .kind "dict"

/-- A reduced key that cannot be one was a tuple or a record, if it had a fingerprint. -/
theorem composite_of_toKey {key : Value} {plain : Plain} {e : Unhashable}
    (reduced : key.ReducesTo plain) (failed : plain.toKey = .error e)
    (hashed : ∃ print, key.fingerprint = .ok print) : NoKey e ∧ Composite key := by
  have error : NoKey e := by
    cases plain with
    | list items =>
      cases failed
      exact .inl rfl
    | dict entries =>
      cases failed
      exact .inr rfl
    | _ => cases failed
  refine ⟨error, ?_⟩
  rcases hashed with ⟨print, hashed⟩
  cases key with
  | tuple items => exact .inl ⟨items, rfl⟩
  | record cells => exact .inr ⟨cells, rfl⟩
  | list items => simp [fingerprint] at hashed
  | dict entries => simp [fingerprint] at hashed
  | _ =>
    cases reduced
    cases failed

theorem compositeKey_of_error {v : Value} (keyed : v.Keyed) {e : Unhashable}
    (failed : v.toPlain = .error e) : NoKey e ∧ v.HasCompositeKey := by
  induction v using of_parts generalizing e with
  | step v ih =>
    have deeper {u : Value} (part : Part u v) (failed : u.toPlain = .error e) :
        NoKey e ∧ v.HasCompositeKey :=
      (ih u part (keyed.part part) failed).imp_right (·.of_part part)
    -- The error comes from a part, or else from a key of this very dictionary.
    cases v with
    | list items =>
      rw [toPlain] at failed
      rcases error_of_itemsToPlain (error_of_map failed) with ⟨u, member, cause⟩
      exact deeper (.item member) cause
    | tuple items =>
      rw [toPlain] at failed
      rcases error_of_itemsToPlain (error_of_map failed) with ⟨u, member, cause⟩
      exact deeper (.place member) cause
    | dict entries =>
      rw [toPlain] at failed
      rcases error_of_entriesToPlain (error_of_map failed) with
        ⟨entry, member, key | value | ⟨plain, reduced, cause⟩⟩
      · exact deeper (.key member) key
      · exact deeper (.value member) value
      · have hashed := keyed entries (inside_self _) entry member
        rcases composite_of_toKey reduced cause hashed with ⟨error, composite⟩
        exact ⟨error, entries, inside_self _, entry, member, composite⟩
    | record cells =>
      rw [toPlain, cellsToPlain_eq] at failed
      rcases error_of_entriesToPlain (error_of_map failed) with ⟨entry, member, cause⟩
      rcases List.mem_map.mp member with ⟨cell, there, rfl⟩
      rcases cause with key | value | ⟨plain, reduced, cause⟩
      · cases key
      · exact deeper (.cell there) value
      · cases reduced
        cases cause
    | _ => cases failed

/-- A tuple or a record is reduced to a list or a dictionary, and neither can be a key. -/
theorem Composite.not_key {key : Value} (composite : Composite key) {plain : Plain}
    (reduced : key.ReducesTo plain) (k : Key) : plain.toKey ≠ .ok k := by
  rcases composite with ⟨items, rfl⟩ | ⟨cells, rfl⟩
  · rcases reducesTo_list.mp (reducesTo_tuple.mp reduced) with ⟨plains, -, rfl⟩
    exact nofun
  · rw [ReducesTo, toPlain] at reduced
    rcases ok_of_map reduced with ⟨entries, -, rfl⟩
    exact nofun

/-- With a value all its parts are reduced. -/
theorem Reduces.of_part {u v : Value} (reduces : v.Reduces) (part : Part u v) : u.Reduces := by
  rcases reduces with ⟨p, reduced⟩
  have item {items : List Value} (reduced : (list items).ReducesTo p) (member : u ∈ items) :
      u.Reduces := by
    rcases reducesTo_list.mp reduced with ⟨plains, each, rfl⟩
    rcases List.mem_iff_get.mp member with ⟨⟨i, bound⟩, rfl⟩
    have within : i < plains.length := each.length_eq ▸ bound
    exact ⟨plains.get ⟨i, within⟩, each.get bound within⟩
  cases part with
  | item member => exact item reduced member
  | place member => exact item (reducesTo_tuple.mp reduced) member
  | key member =>
    rw [toPlain] at reduced
    rcases ok_of_map reduced with ⟨entries, found, -⟩
    rcases enters_of_entriesToPlain found _ member with ⟨key, p, enters⟩
    exact enters.named.imp fun _ => And.left
  | value member =>
    rw [toPlain] at reduced
    rcases ok_of_map reduced with ⟨entries, found, -⟩
    rcases enters_of_entriesToPlain found _ member with ⟨key, p, enters⟩
    exact ⟨p, enters.valued⟩
  | @cell cell _ member =>
    rw [toPlain, cellsToPlain_eq] at reduced
    rcases ok_of_map reduced with ⟨entries, found, -⟩
    have listed := List.mem_map_of_mem (f := fun cell => (text cell.1, cell.2)) member
    rcases enters_of_entriesToPlain found _ listed with ⟨key, p, enters⟩
    exact ⟨p, enters.valued⟩

theorem Reduces.of_inside {u v : Value} (reduces : v.Reduces) (inside : Inside u v) : u.Reduces := by
  induction inside using Relation.ReflTransGen.head_induction_on with
  | refl => exact reduces
  | head part _ ih => exact ih.of_part part

/-- A dictionary with a composite key is not reduced, wherever it stands. -/
theorem not_reduces_of_compositeKey {v : Value} (has : v.HasCompositeKey) : ¬ v.Reduces := by
  intro reduces
  rcases has with ⟨entries, inside, entry, member, composite⟩
  rcases reduces.of_inside inside with ⟨p, reduced⟩
  rw [toPlain] at reduced
  rcases ok_of_map reduced with ⟨plains, found, -⟩
  rcases enters_of_entriesToPlain found entry member with ⟨key, q, enters⟩
  rcases enters.named with ⟨plain, named, keyed⟩
  exact composite.not_key named key keyed

/-! ## What a reduction leaves -/

/-- A value that may be a key of a JSON object. -/
inductive Scalar : Value → Prop
  | null : Scalar .null
  | bool (b : Bool) : Scalar (.bool b)
  | int (n : Int) : Scalar (.int n)
  | float (x : Number.Binary64) : Scalar (.float x)
  | text (s : String) : Scalar (.text s)

/-- Scalars, and the lists and dictionaries that are made of them. -/
inductive JsonSafe : Value → Prop
  | scalar {v : Value} (scalar : Scalar v) : JsonSafe v
  | list {items : List Value} (each : ∀ v ∈ items, JsonSafe v) : JsonSafe (.list items)
  | dict {entries : List (Value × Value)} (keys : ∀ entry ∈ entries, Scalar entry.1)
      (each : ∀ entry ∈ entries, JsonSafe entry.2) : JsonSafe (.dict entries)

theorem scalar_toValue (key : Key) : Scalar key.toValue := by
  cases key with
  | null => exact .null
  | bool b => exact .bool b
  | int n => exact .int n
  | float x => exact .float x
  | text s => exact .text s

end Value

namespace Plain

open Value (Scalar JsonSafe ReducesTo)

theorem toValues_eq_map (items : List Plain) : toValues items = items.map toValue := by
  induction items with
  | nil => rfl
  | cons v rest ih => rw [toValues, List.map_cons, ih]

theorem entriesToValues_eq_map (entries : List (Key × Plain)) :
    entriesToValues entries = entries.map fun entry => (entry.1.toValue, entry.2.toValue) := by
  induction entries with
  | nil => rfl
  | cons entry rest ih => rw [entriesToValues, List.map_cons, ih]

/-- A plain value with distinct keys is safe, seen as a value. -/
theorem Distinct.jsonSafe {p : Plain} (distinct : p.Distinct) : p.toValue.JsonSafe := by
  induction distinct with
  | null => exact .scalar .null
  | bool b => exact .scalar (.bool b)
  | int n => exact .scalar (.int n)
  | float x => exact .scalar (.float x)
  | text s => exact .scalar (.text s)
  | list _ ih =>
    rw [toValue, toValues_eq_map]
    exact .list (List.forall_mem_map.mpr ih)
  | dict _ _ ih =>
    rw [toValue, entriesToValues_eq_map]
    exact .dict (List.forall_mem_map.mpr fun entry _ => Value.scalar_toValue entry.1)
      (List.forall_mem_map.mpr ih)

theorem reducesTo_toValue (key : Key) :
    ∃ plain, key.toValue.ReducesTo plain ∧ plain.toKey = .ok key := by
  cases key <;> exact ⟨_, rfl, rfl⟩

/-- Entries that are reduced to themselves are set one behind the other. -/
theorem entriesToPlain_of_apart {entries done : List (Key × Plain)}
    (each : ∀ entry ∈ entries, entry.2.toValue.ReducesTo entry.2) (apart : Apart (done ++ entries)) :
    Value.entriesToPlain (entriesToValues entries) done = .ok (done ++ entries) := by
  induction entries generalizing done with
  | nil => rw [entriesToValues, List.append_nil, Value.entriesToPlain]
  | cons entry rest ih =>
    rcases List.forall_mem_cons.mp each with ⟨valued, others⟩
    rcases reducesTo_toValue entry.1 with ⟨plain, named, keyed⟩
    have fresh : ∀ other ∈ done, other.1.same entry.1 = false := fun other member =>
      (List.pairwise_append.mp apart).2.2 other member entry List.mem_cons_self
    have behind := ih others (List.append_assoc done [entry] rest ▸ apart)
    rw [entriesToValues, Value.entriesToPlain]
    simp only [show entry.1.toValue.toPlain = .ok plain from named,
      show entry.2.toValue.toPlain = .ok entry.2 from valued, keyed, setEntry_of_apart fresh, behind,
      List.append_assoc]
    rfl

/-- A plain value with distinct keys is reduced to itself. -/
theorem Distinct.reduced {p : Plain} (distinct : p.Distinct) : p.toValue.ReducesTo p := by
  induction distinct with
  | list _ ih =>
    rw [toValue, toValues_eq_map]
    refine Value.reducesTo_list.mpr ⟨_, ?_, rfl⟩
    exact List.forall₂_map_left_iff.mpr (List.forall₂_same.mpr ih)
  | @dict entries apart _ ih =>
    have entered := entriesToPlain_of_apart ih (show Apart ([] ++ entries) from apart)
    rw [ReducesTo, toValue, Value.toPlain, entered]
    rfl
  | _ => rfl

end Plain
end RowReader
