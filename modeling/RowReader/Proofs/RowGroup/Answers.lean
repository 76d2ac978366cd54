import Mathlib.Data.List.Forall2
import RowReader.Proofs.Number.Numeral
import RowReader.Proofs.RowGroup

/-!
# Rows that are asked for one after the other

A group keeps the columns that it converted last, together with the names they were asked for by.
Rows may be asked for under any names and at any positions, in any order, and asking may fail.  What
comes back is the same each time as if nothing had been asked before: the columns kept are those that
would be converted again, and only names that are the same altogether lead back to them.

What comes back is stated without the columns kept, by the table, the names and the position alone.
-/

namespace RowReader
namespace RowGroup

/-- The answers to these calls, made one after the other. -/
def answers (g : RowGroup) : List (Schema × Int) → List (Except Error Row)
  | [] => []
  | (schema, i) :: rest =>
    (g.assemble schema i).result :: (g.assemble schema i).state.answers rest

/-- The faults by which a conversion tells that values have no counterpart: any fault of the decoder,
a key or a value that is wrong, and a number that is too large. -/
def Unconverted (f : Fault) : Prop :=
  (∃ kind, f.kind = .decoder kind) ∨ f.kind = .key ∨ f.kind = .value ∨ f.kind = .overflow

/-- A conversion that fails with this error, which is not one of those faults. -/
def Passes (t : Table) (name : String) (e : Error) : Prop :=
  (∃ column, t.named name = [column] ∧ column.values = .error e) ∧
    ∀ f, e = .fault f → ¬ Unconverted f

/-- Why a name that is there has no values. -/
inductive Refuses (t : Table) (index : Int) (name : String) : Error → Prop
  | repeated (many : 2 ≤ (t.named name).length) :
    Refuses t index name (.unconvertible index
      ⟨.key, s!"Field \"" ++ name ++ s!"\" exists {(t.named name).length} times in schema"⟩)
  | unconverted {column : Column} {f : Fault} (sole : t.named name = [column])
      (fails : column.values = .error (.fault f)) (known : Unconverted f) :
    Refuses t index name (.unconvertible index f)
  | passes {e : Error} (unchanged : Passes t name e) : Refuses t index name e

/-- What asking for a row comes to.  The position is looked at first, then whether all names are there,
and then the names one by one.  A position that there is not is quoted, unless it is too long for this. -/
inductive Answer (t : Table) (index : Int) (names : List String) (i : Int) :
    Except Error Row → Prop
  | outside (out : i < 0 ∨ t.rows ≤ i) (short : Number.Short i) :
    Answer t index names i (.error (.rowOutOfRange i index t.rows))
  | overlong (out : i < 0 ∨ t.rows ≤ i) (long : ¬ Number.Short i) :
    Answer t index names i (.error (.fault (.overlong {})))
  | missing (inside : 0 ≤ i ∧ i < t.rows) (absent : ∃ name ∈ names, name ∉ t.columnNames) :
    Answer t index names i
      (.error (.fieldsNotDecoded index (names.filter (· ∉ t.columnNames)) t.columnNames))
  | refused (inside : 0 ≤ i ∧ i < t.rows) (present : ∀ name ∈ names, name ∈ t.columnNames)
      {front back : List String} {name : String} {e : Error} (first : names = front ++ name :: back)
      (before : ∀ other ∈ front, (t.column? other).isSome) (refuses : Refuses t index name e) :
    Answer t index names i (.error e)
  | row (inside : 0 ≤ i ∧ i < t.rows) {values : List Value}
      (picked : List.Forall₂
        (fun name v => ∃ column, t.column? name = some column ∧ column[i.toNat]? = some v)
        names values) :
    Answer t index names i (.ok ⟨names.zip values⟩)

/-! ## One call -/

theorem conversionFault_iff {f : Fault} : conversionFault f = true ↔ Unconverted f := by
  rcases f with ⟨kind, message⟩
  cases kind <;> simp [conversionFault, Fault.isDecoder, Fault.isKey, Fault.isValue, Unconverted]

/-- A name that is there has its values or refuses with what is reported for it. -/
theorem refuses_of_soleColumn {t : Table} {index : Int} {name : String} {e : Error}
    (present : name ∈ t.columnNames) (failed : soleColumn t name = .error e) :
    Refuses t index name (conversionError index e) := by
  unfold soleColumn at failed
  split at failed
  · next column sole =>
    cases e with
    | fault f =>
      by_cases known : conversionFault f = true
      · rw [conversionError, if_pos known]
        exact .unconverted sole failed (conversionFault_iff.mp known)
      · rw [conversionError, if_neg known]
        refine .passes ⟨⟨column, sole, failed⟩, ?_⟩
        rintro _ ⟨⟩ unconverted
        exact known (conversionFault_iff.mpr unconverted)
    | _ => exact .passes ⟨⟨column, sole, failed⟩, fun f => nofun⟩
  · next several =>
    cases failed
    have some : 0 < (t.named name).length := by
      rcases List.mem_map.mp present with ⟨column, inside, rfl⟩
      exact List.length_pos_of_mem (List.mem_filter.mpr ⟨inside, beq_self_eq_true _⟩)
    have other : (t.named name).length ≠ 1 := by
      intro one
      rcases List.length_eq_one_iff.mp one with ⟨column, sole⟩
      exact several column sole
    exact .repeated (by omega)

theorem Answer.of_convert {g : RowGroup} {names : List String} {i : Int} {e : Error}
    (inside : 0 ≤ i ∧ i < g.table.rows) (failed : g.convert names = .error e) :
    Answer g.table g.index names i (.error e) := by
  by_cases whole : (names.filter fun name => !g.columns.contains name).isEmpty
  · have present : ∀ name ∈ names, name ∈ g.table.columnNames := by
      intro name member
      have kept := List.filter_eq_nil_iff.mp (List.isEmpty_iff.mp whole) name member
      simpa [columns] using kept
    simp only [convert, if_pos whole] at failed
    cases stopped : names.mapM (soleColumn g.table) with
    | ok columns => simp [stopped] at failed
    | error fault =>
      simp only [stopped, Except.error.injEq] at failed
      rcases first_error_of_mapM stopped with ⟨front, name, back, split, before, found⟩
      have there : name ∈ g.table.columnNames :=
        present name (split ▸ List.mem_append_right front List.mem_cons_self)
      rw [← failed]
      refine .refused inside present split ?_ (refuses_of_soleColumn there found)
      intro other member
      rcases before other member with ⟨values, converts⟩
      rw [← toOption_soleColumn, converts]
      rfl
  · have absent : ∃ name ∈ names, name ∉ g.table.columnNames := by
      simpa [columns] using whole
    have listed : names.filter (fun name => !g.columns.contains name) =
        names.filter (· ∉ g.table.columnNames) := by
      refine List.filter_congr fun name _ => ?_
      simp [columns]
    simp only [convert, if_neg whole, Except.error.injEq] at failed
    rw [← failed, listed]
    exact .missing inside absent

theorem Answer.of_row? {t : Table} {index : Int} {names : List String} {n : Nat} {row : Row}
    (inside : Int.ofNat n < t.rows) (found : t.row? names n = some row) :
    Answer t index names (Int.ofNat n) (.ok row) := by
  rcases Option.map_eq_some_iff.mp found with ⟨values, collected, rfl⟩
  have equal : List.Forall₂ Eq _ _ := List.forall₂_eq_eq_eq ▸ mapM_eq_some_iff.mp collected
  have picked := List.forall₂_map_right_iff.mp (List.forall₂_map_left_iff.mp equal)
  refine .row ⟨Int.natCast_nonneg n, inside⟩ (picked.imp fun name v here => ?_)
  exact Option.bind_eq_some_iff.mp here

/-- What a group answers whose kept columns are those it would convert again. -/
theorem Faithful.answer {g : RowGroup} (faithful : g.Faithful) (sized : g.table.Sized)
    (schema : Schema) (i : Int) :
    Answer g.table g.index schema.names i (g.assemble schema i).result := by
  by_cases inside : 0 ≤ i ∧ i < g.table.rows
  · cases converted : g.convert schema.names with
    | error e =>
      have stopped : (g.assemble schema i).result = .error e := by
        simp only [assemble, numRows, if_pos inside, columnsFor_eq faithful, converted]
      rw [stopped]
      exact .of_convert inside converted
    | ok c =>
      rcases Int.eq_ofNat_of_zero_le inside.1 with ⟨n, rfl⟩
      have columns := convert_isOk_iff.mp ⟨c, converted⟩
      rcases Option.isSome_iff_exists.mp (sized.isSome_row? columns inside.2) with ⟨row, found⟩
      have assembled := toOption_assemble faithful schema inside.2
      rw [found, toOption_eq_some] at assembled
      rw [show (g.assemble schema (n : Int)).result = .ok row from assembled]
      exact .of_row? inside.2 found
  · have stopped : (g.assemble schema i).result =
        .error (.quoting [i] (.rowOutOfRange i g.index g.table.rows)) := by
      unfold assemble numRows
      rw [if_neg inside]
    have out : i < 0 ∨ g.table.rows ≤ i := by omega
    rw [stopped]
    by_cases short : Number.Short i
    · rw [Error.quoting_of_short (List.forall_mem_singleton.mpr short)]
      exact .outside out short
    · rw [Error.quoting_overlong (mt List.forall_mem_singleton.mp short)]
      exact .overlong out short

/-- An error is one of decoding, unless the position is too long to be quoted in one, or a conversion
failed with another one, which then comes out. -/
theorem Answer.decoding {t : Table} {index : Int} {names : List String} {i : Int} {e : Error}
    (answer : Answer t index names i (.error e)) :
    e.kind? = some .decoding ∨ (¬ Number.Short i ∧ e = .fault (.overlong {})) ∨
      ∃ name ∈ names, Passes t name e := by
  cases answer with
  | outside => exact .inl rfl
  | overlong out long => exact .inr (.inl ⟨long, rfl⟩)
  | missing => exact .inl rfl
  | @refused inside present front back name e first before refuses =>
    cases refuses with
    | repeated => exact .inl rfl
    | unconverted => exact .inl rfl
    | passes unchanged =>
      exact .inr (.inr ⟨name, first ▸ List.mem_append_right front List.mem_cons_self, unchanged⟩)

/-! ## Many calls -/

/-- A faithful group answers each call as it would with no columns kept. -/
theorem Faithful.answers_eq {g : RowGroup} (faithful : g.Faithful) (calls : List (Schema × Int)) :
    g.answers calls =
      calls.map fun call => (assemble call.1 call.2 { g with converted := none }).result := by
  induction calls generalizing g with
  | nil => rfl
  | cons call rest ih =>
    rcases assemble_faithful faithful call.1 call.2 with ⟨same, index, table, again⟩
    have behind := ih again
    rw [index, table] at behind
    rw [answers, same, behind]
    rfl

/-- From a new group whose columns have a value for each of its rows, rows are asked for one after the
other, under any names and at any positions.  Each call is answered as it would be by the new group,
whatever was asked before, and the answer is the one that the table, the names and the position call
for.  An error is one of decoding, except that a position outside the group which has too many digits to
be written is refused for that, and a conversion which fails in another way than by telling that values
have no counterpart fails with its own. -/
theorem kept_columns_unseen {index declared : Int} {t : Table} {g : RowGroup}
    (built : ofTable index declared t = .ok g) (sized : t.Sized) (calls : List (Schema × Int)) :
    List.Forall₂ (fun call answer =>
        answer = (g.assemble call.1 call.2).result ∧ Answer t index call.1.names call.2 answer ∧
          ∀ e, answer = .error e →
            e.kind? = some .decoding ∨ (¬ Number.Short call.2 ∧ e = .fault (.overlong {})) ∨
              ∃ name ∈ call.1.names, Passes t name e)
      calls (g.answers calls) := by
  have fresh : g = { index, table := t } := by
    unfold ofTable at built
    split at built
    · cases built
      rfl
    · cases built
  subst fresh
  have faithful : Faithful { index, table := t } := faithful_of_fresh rfl
  rw [faithful.answers_eq calls, List.forall₂_map_right_iff, List.forall₂_same]
  rintro call -
  have answered := faithful.answer sized call.1 call.2
  refine ⟨rfl, answered, fun e failed => ?_⟩
  rw [failed] at answered
  exact answered.decoding

/-- One column does not convert and another one is there twice. -/
def patchyTable : Table where
  rows := 2
  columns := [⟨"a", .ok #[.int 1, .int 2]⟩, ⟨"b", .ok #[.int 3, .int 4]⟩,
    ⟨"c", .error (.fault ⟨.value, "year 0 is out of range"⟩)⟩, ⟨"d", .ok #[.null, .null]⟩,
    ⟨"d", .ok #[.null, .null]⟩]

/-- The two columns that convert are asked for in both orders, with failing calls in between. -/
def patchyCalls : List (Schema × Int) :=
  let ask (names : List String) : Schema := names.map fun name => { name, typeName := "int64" }
  [(ask ["a", "b"], 0), (ask ["b", "a"], 0), (ask ["a", "c"], 0), (ask ["b", "a"], 1),
    (ask ["d"], 1), (ask ["e", "a"], 0), (ask ["b", "a"], 2), (ask ["b", "b"], 0)]

theorem kept_columns_unseen_of_patchy :
    patchyTable.Sized ∧ ∃ g, ofTable 7 2 patchyTable = .ok g ∧
      List.Forall₂ (fun call answer =>
          answer = (g.assemble call.1 call.2).result ∧
            Answer patchyTable 7 call.1.names call.2 answer ∧
            ∀ e, answer = .error e →
              e.kind? = some .decoding ∨ (¬ Number.Short call.2 ∧ e = .fault (.overlong {})) ∨
                ∃ name ∈ call.1.names, Passes patchyTable name e)
        patchyCalls (g.answers patchyCalls) := by
  have sized : patchyTable.Sized := by
    simp [Table.Sized, patchyTable]
  have built : ofTable 7 2 patchyTable = .ok { index := 7, table := patchyTable } := rfl
  exact ⟨sized, _, built, kept_columns_unseen built sized patchyCalls⟩

/-- The first column breaks as it is converted, and of the name after it there are two. -/
def brokenTable : Table where
  rows := 1
  columns := [⟨"a", .error (.fault ⟨.runtime, "boom"⟩)⟩, ⟨"b", .ok #[.int 1]⟩, ⟨"b", .ok #[.int 2]⟩]

/-- Two calls that are not answered by an error of decoding: one for the least position with too many
digits, and one for a name that is there twice behind one whose column breaks. -/
theorem refused_but_not_by_decoding :
    let patchy : RowGroup := { index := 7, table := patchyTable }
    let broken : RowGroup := { index := 0, table := brokenTable }
    let schema : Schema := ["a", "b"].map fun name => { name, typeName := "int64" }
    ofTable 7 2 patchyTable = .ok patchy ∧ ofTable 0 1 brokenTable = .ok broken ∧
      (brokenTable.named "b").length = 2 ∧
      (patchy.assemble [] (10 ^ Number.digitLimit : Nat)).result = .error (.fault (.overlong {})) ∧
      (broken.assemble schema 0).result = .error (.fault ⟨.runtime, "boom"⟩) ∧
      ∀ f, (Error.fault f).kind? ≠ some .decoding := by
  intro patchy broken schema
  have outside : ¬ (0 ≤ ((10 ^ Number.digitLimit : Nat) : Int) ∧
      ((10 ^ Number.digitLimit : Nat) : Int) < patchy.numRows) := by
    have many : 10 ^ 1 ≤ 10 ^ Number.digitLimit := Nat.pow_le_pow_right (by decide) (by decide)
    have two : patchy.numRows = 2 := rfl
    omega
  refine ⟨rfl, rfl, rfl, ?_, rfl, fun _ => nofun⟩
  unfold assemble
  rw [if_neg outside, Error.quoting_overlong (mt List.forall_mem_singleton.mp Number.not_short_pow)]

end RowGroup
end RowReader
