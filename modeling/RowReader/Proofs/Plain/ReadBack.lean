import Mathlib.Data.List.Forall2
import RowReader.Proofs.Plain.Json
import RowReader.Proofs.Plain.Reading

/-!
# JSON that is read back

A plain value without doubles whose keys are texts is read back from its line as it was, provided that
it has a line, with no integer too long to be written, and that no dictionary in it has a key twice.  The proof is by induction on the value: behind the text of a
value there may stand a comma, a closing bracket or nothing, and in front of any of them the text is
read as the value.
-/

namespace RowReader

namespace Plain

/-- There is no double in the value, and each of its keys is a text. -/
inductive Lossless : Plain → Prop
  | null : Lossless .null
  | bool (b : Bool) : Lossless (.bool b)
  | int (n : Int) : Lossless (.int n)
  | text (s : String) : Lossless (.text s)
  | list {items : List Plain} (each : ∀ v ∈ items, Lossless v) : Lossless (.list items)
  | dict {entries : List (Key × Plain)} (named : ∀ entry ∈ entries, ∃ s, entry.1 = .text s)
      (each : ∀ entry ∈ entries, Lossless entry.2) : Lossless (.dict entries)

/-- No two of these entries have the same key. -/
def Apart (entries : List (Key × Plain)) : Prop :=
  entries.Pairwise fun a b => a.1.same b.1 = false

/-- No dictionary in the value has a key twice. -/
inductive Distinct : Plain → Prop
  | null : Distinct .null
  | bool (b : Bool) : Distinct (.bool b)
  | int (n : Int) : Distinct (.int n)
  | float (x : Number.Binary64) : Distinct (.float x)
  | text (s : String) : Distinct (.text s)
  | list {items : List Plain} (each : ∀ v ∈ items, Distinct v) : Distinct (.list items)
  | dict {entries : List (Key × Plain)} (apart : Apart entries)
      (each : ∀ entry ∈ entries, Distinct entry.2) : Distinct (.dict entries)

/-- A key that is not among the entries is set behind them. -/
theorem setEntry_of_apart {entries : List (Key × Plain)} {key : Key} {v : Plain}
    (apart : ∀ entry ∈ entries, entry.1.same key = false) :
    setEntry entries key v = entries ++ [(key, v)] := by
  have missing : entries.any (fun entry => entry.1.same key) = false := by
    simpa only [List.any_eq_false, Bool.not_eq_true] using apart
  rw [setEntry, if_neg (by rw [missing]; decide)]

end Plain

namespace Json

/-! ## One value -/

/-- The text begins with a character of its own and is read as this value in front of anything that
may follow a value. -/
structure ReadsAs (cs : List Char) (v : Plain) : Prop where
  begins : ∃ c rest, cs = c :: rest ∧ isSpace c = false ∧ c ≠ ']'
  reads : ∀ {fuel : Nat} {rest : List Char}, cs.length ≤ fuel → Ends rest →
    readValue fuel (cs ++ rest) = some (v, rest)

theorem ReadsAs.length_pos {cs : List Char} {v : Plain} (readsAs : ReadsAs cs v) :
    0 < cs.length := by
  rcases readsAs.begins with ⟨c, rest, rfl, -⟩
  exact Nat.succ_pos _

theorem readValue_space (fuel : Nat) (cs : List Char) :
    readValue fuel (' ' :: cs) = readValue fuel cs := by
  cases fuel with
  | zero => rfl
  | succ fuel => rfl

theorem readItems_space (fuel : Nat) (cs : List Char) :
    readItems fuel (' ' :: cs) = readItems fuel cs := by
  cases fuel with
  | zero => rfl
  | succ fuel => rw [readItems, readItems, readValue_space]

theorem readEntries_space (fuel : Nat) (done : List (Key × Plain)) (cs : List Char) :
    readEntries fuel done (' ' :: cs) = readEntries fuel done cs := by
  cases fuel with
  | zero => rfl
  | succ fuel => rfl

theorem readsAs_null : ReadsAs "null".toList .null where
  begins := ⟨'n', _, rfl, rfl, by decide⟩
  reads := by
    intro fuel rest long ends
    cases fuel with
    | zero => cases long
    | succ fuel => rfl

theorem readsAs_bool (b : Bool) : ReadsAs (if b then "true" else "false").toList (.bool b) where
  begins := by
    cases b with
    | true => exact ⟨'t', _, rfl, rfl, by decide⟩
    | false => exact ⟨'f', _, rfl, rfl, by decide⟩
  reads := by
    intro fuel rest long ends
    cases b with
    | true =>
      cases fuel with
      | zero => cases long
      | succ fuel => rfl
    | false =>
      cases fuel with
      | zero => cases long
      | succ fuel => rfl

theorem readScalar_other {c : Char} (null : c ≠ 'n') (true : c ≠ 't') (false : c ≠ 'f')
    (cs : List Char) :
    readScalar (c :: cs) = (readInteger (c :: cs)).map fun (n, rest) => (.int n, rest) := by
  have off {d : Char} (other : c ≠ d) (word : List Char) :
      (d :: word).isPrefixOf? (c :: cs) = none :=
    if_neg fun same => other (eq_of_beq same).symm
  have noNull : "null".toList.isPrefixOf? (c :: cs) = none := off null _
  have noTrue : "true".toList.isPrefixOf? (c :: cs) = none := off true _
  have noFalse : "false".toList.isPrefixOf? (c :: cs) = none := off false _
  simp only [readScalar, noNull, noTrue, noFalse]

theorem readValue_scalar {c : Char} (visible : isSpace c = false) (quote : c ≠ '"')
    (bracket : c ≠ '[') (brace : c ≠ '\x7b') (fuel : Nat) (cs : List Char) :
    readValue (fuel + 1) (c :: cs) = readScalar (c :: cs) := by
  simp only [readValue, after?_of_ne visible quote, after?_of_ne visible bracket,
    after?_of_ne visible brace, skipSpace_cons visible]

/-- A numeral begins with a digit or a minus. -/
theorem exists_numeral (n : Int) :
    ∃ c cs, (toString n).toList = c :: cs ∧ (c.isDigit = true ∨ c = '-') := by
  cases n with
  | ofNat n =>
    rcases exists_digit n with ⟨c, cs, listed, digit⟩
    exact ⟨c, cs, (toList_toString n).trans listed, .inl digit⟩
  | negSucc n =>
    refine ⟨'-', (toString (n + 1)).toList, ?_, .inr rfl⟩
    change ("-" ++ toString (n + 1)).toList = _
    rw [String.toList_append]
    rfl

theorem readsAs_int {n : Int} (short : Number.Short n) : ReadsAs (toString n).toList (.int n) := by
  rcases exists_numeral n with ⟨c, cs, written, numeral⟩
  have other {d : Char} (letter : d.isDigit = false) (unsigned : d ≠ '-') : c ≠ d := by
    rintro rfl
    rcases numeral with digit | minus
    · rw [letter] at digit
      cases digit
    · exact unsigned minus
  have visible : isSpace c = false := by
    simp only [isSpace, Bool.or_eq_false_iff, beq_eq_false_iff_ne]
    exact ⟨⟨⟨other rfl (by decide), other rfl (by decide)⟩, other rfl (by decide)⟩,
      other rfl (by decide)⟩
  refine ⟨⟨c, cs, written, visible, other rfl (by decide)⟩, ?_⟩
  intro fuel rest long ends
  have whole := readInteger_toString short ends
  rw [written] at long whole ⊢
  cases fuel with
  | zero => cases long
  | succ fuel =>
    rw [List.cons_append] at whole ⊢
    rw [readValue_scalar visible (other rfl (by decide)) (other rfl (by decide))
      (other rfl (by decide)), readScalar_other (other rfl (by decide)) (other rfl (by decide))
      (other rfl (by decide)), whole]
    rfl

theorem readsAs_text (s : String) : ReadsAs (stringText true s).toList (.text s) where
  begins := by
    rw [stringText, String.toList_ofList]
    exact ⟨'"', _, rfl, rfl, by decide⟩
  reads := by
    intro fuel rest long ends
    rw [stringText, String.toList_ofList] at long ⊢
    cases fuel with
    | zero => cases long
    | succ fuel =>
      have within := length_le_escaped s.toList
      have short : s.toList.length < fuel := by
        simp only [stringChars, List.length_cons, List.length_append] at long
        omega
      have whole := readChars_string short rest
      change (readChars fuel (s.toList.flatMap (escapeChar true) ++ ['"'] ++ rest)).map _ = _
      rw [List.append_assoc]
      change (readChars fuel (s.toList.flatMap (escapeChar true) ++ '"' :: rest)).map _ = _
      rw [whole]
      exact congrArg (fun s => some (Plain.text s, rest)) String.ofList_toList

/-! ## Items and entries -/

/-- The text of an entry is its quoted key, a colon and the text of its value. -/
def EntryReadsAs (part : String) (entry : Key × Plain) : Prop :=
  ∃ key text, entry.1 = .text key ∧ part = stringText true key ++ ": " ++ text ∧
    ReadsAs text.toList entry.2

theorem readItems_parts {parts : List String} {items : List Plain} {fuel : Nat}
    (each : List.Forall₂ (fun part v => ReadsAs part.toList v) parts items) (filled : parts ≠ [])
    (long : (String.intercalate ", " parts).toList.length < fuel) (rest : List Char) :
    readItems fuel ((String.intercalate ", " parts).toList ++ ']' :: rest) = some (items, rest) := by
  induction each generalizing fuel with
  | nil => exact absurd rfl filled
  | @cons part v parts items first others ih =>
    cases fuel with
    | zero => cases long
    | succ fuel =>
      cases others with
      | nil =>
        have within : part.toList.length ≤ fuel := Nat.le_of_lt_succ long
        have read := first.reads within (ends_cons (.inr (.inl rfl)) rest)
        change readItems (fuel + 1) (part.toList ++ ']' :: rest) = _
        rw [readItems, read]
        rfl
      | @cons next w parts items second others =>
        rw [String.intercalate_cons_cons, String.toList_append, String.toList_append] at long ⊢
        simp only [List.length_append] at long
        have within : part.toList.length ≤ fuel := by omega
        have later : (String.intercalate ", " (next :: parts)).toList.length < fuel := by
          have some_length := first.length_pos
          omega
        have read := first.reads within (ends_cons (.inl rfl)
          (' ' :: ((String.intercalate ", " (next :: parts)).toList ++ ']' :: rest)))
        have behind := ih (List.cons_ne_nil _ _) later
        rw [List.append_assoc, List.append_assoc]
        change readItems (fuel + 1) (part.toList ++ ',' :: ' ' ::
          ((String.intercalate ", " (next :: parts)).toList ++ ']' :: rest)) = _
        rw [readItems, read]
        change (readItems fuel (' ' :: ((String.intercalate ", " (next :: parts)).toList ++
          ']' :: rest))).bind _ = _
        rw [readItems_space, behind]
        rfl

theorem toList_stringText (s : String) :
    (stringText true s).toList = '"' :: (s.toList.flatMap (escapeChar true) ++ ['"']) :=
  String.toList_ofList

theorem readKey_string {fuel : Nat} {key : String}
    (long : (stringText true key).toList.length ≤ fuel + 1) (rest : List Char) :
    readKey fuel ((stringText true key).toList ++ ':' :: rest) = some (key, rest) := by
  have within := length_le_escaped key.toList
  rw [toList_stringText] at long ⊢
  simp only [List.length_cons, List.length_append, List.length_nil] at long
  have short : key.toList.length < fuel := by omega
  have whole := readChars_string short (':' :: rest)
  rw [List.cons_append, List.append_assoc]
  change (readChars fuel (key.toList.flatMap (escapeChar true) ++ '"' :: ':' :: rest)).bind _ = _
  rw [whole]
  exact congrArg (fun key => some (key, rest)) String.ofList_toList

/-- An entry is read and set behind those that are done, of which none has its key. -/
theorem readEntries_entry {done : List (Key × Plain)} {part : String} {entry : Key × Plain}
    {fuel : Nat} (first : EntryReadsAs part entry) (long : part.toList.length ≤ fuel)
    (fresh : ∀ other ∈ done, other.1.same entry.1 = false) {rest : List Char} (ends : Ends rest) :
    readEntries (fuel + 1) done (part.toList ++ rest) =
      match after? '\x7d' rest with
      | some rest => some (done ++ [entry], rest)
      | none => (after? ',' rest).bind fun rest => readEntries fuel (done ++ [entry]) rest := by
  rcases entry with ⟨_, v⟩
  rcases first with ⟨key, text, ⟨⟩, rfl, reads⟩
  rw [String.toList_append, String.toList_append] at long ⊢
  simp only [List.length_append] at long
  have keyLong : (stringText true key).toList.length ≤ fuel + 1 := by omega
  have valueLong : text.toList.length ≤ fuel := by omega
  have keyed := readKey_string keyLong (' ' :: (text.toList ++ rest))
  have valued := reads.reads valueLong ends
  rw [List.append_assoc, List.append_assoc]
  change readEntries (fuel + 1) done ((stringText true key).toList ++
    ':' :: ' ' :: (text.toList ++ rest)) = _
  rw [readEntries, keyed]
  change (readValue fuel (' ' :: (text.toList ++ rest))).bind _ = _
  rw [readValue_space, valued]
  change (match after? '\x7d' rest with
    | some rest => some (Plain.setEntry done (.text key) v, rest)
    | none => (after? ',' rest).bind fun rest =>
        readEntries fuel (Plain.setEntry done (.text key) v) rest) = _
  rw [Plain.setEntry_of_apart fresh]

theorem readEntries_parts {parts : List String} {entries done : List (Key × Plain)} {fuel : Nat}
    (each : List.Forall₂ EntryReadsAs parts entries) (filled : parts ≠ [])
    (apart : Plain.Apart (done ++ entries))
    (long : (String.intercalate ", " parts).toList.length < fuel) (rest : List Char) :
    readEntries fuel done ((String.intercalate ", " parts).toList ++ '\x7d' :: rest) =
      some (done ++ entries, rest) := by
  induction each generalizing fuel done with
  | nil => exact absurd rfl filled
  | @cons part entry parts entries first others ih =>
    have fresh : ∀ other ∈ done, other.1.same entry.1 = false := fun other member =>
      (List.pairwise_append.mp apart).2.2 other member entry List.mem_cons_self
    cases fuel with
    | zero => cases long
    | succ fuel =>
      cases others with
      | nil =>
        have within : part.toList.length ≤ fuel := Nat.le_of_lt_succ long
        exact readEntries_entry first within fresh (ends_cons (.inr (.inr rfl)) rest)
      | @cons next w parts entries second others =>
        rw [String.intercalate_cons_cons, String.toList_append, String.toList_append] at long ⊢
        simp only [List.length_append] at long
        have comma : 0 < ", ".toList.length := by decide
        have within : part.toList.length ≤ fuel := by omega
        have later : (String.intercalate ", " (next :: parts)).toList.length < fuel := by omega
        have split : Plain.Apart ((done ++ [entry]) ++ w :: entries) := by
          rw [List.append_assoc]
          exact apart
        have behind := ih (List.cons_ne_nil _ _) split later
        rw [List.append_assoc, List.append_assoc]
        change readEntries (fuel + 1) done (part.toList ++ ',' :: ' ' ::
          ((String.intercalate ", " (next :: parts)).toList ++ '\x7d' :: rest)) = _
        rw [readEntries_entry first within fresh (ends_cons (.inl rfl) _)]
        change readEntries fuel (done ++ [entry]) (' ' ::
          ((String.intercalate ", " (next :: parts)).toList ++ '\x7d' :: rest)) = _
        rw [readEntries_space, behind, List.append_assoc]
        rfl

theorem toList_intercalate (sep first : String) (rest : List String) :
    ∃ tail, (String.intercalate sep (first :: rest)).toList = first.toList ++ tail := by
  cases rest with
  | nil => exact ⟨[], (List.append_nil _).symm⟩
  | cons next others =>
    rw [String.intercalate_cons_cons, String.toList_append, String.toList_append,
      List.append_assoc]
    exact ⟨_, rfl⟩

/-- Between brackets the parts are all there is. -/
theorem toList_bracketed (opening closing : Char) (inside : String) :
    (String.singleton opening ++ inside ++ String.singleton closing).toList =
      opening :: (inside.toList ++ [closing]) := by
  simp

theorem readsAs_list {parts : List String} {items : List Plain}
    (each : List.Forall₂ (fun part v => ReadsAs part.toList v) parts items) :
    ReadsAs ("[" ++ String.intercalate ", " parts ++ "]").toList (.list items) := by
  have written := toList_bracketed '[' ']' (String.intercalate ", " parts)
  change ("[" ++ String.intercalate ", " parts ++ "]").toList = _ at written
  rw [written]
  refine ⟨⟨'[', _, rfl, rfl, by decide⟩, ?_⟩
  intro fuel rest long ends
  cases fuel with
  | zero => cases long
  | succ fuel =>
    rw [List.cons_append, List.append_assoc]
    cases each with
    | nil => rfl
    | @cons part v parts items first others =>
      have short : (String.intercalate ", " (part :: parts)).toList.length < fuel := by
        simp only [List.length_cons, List.length_append, List.length_nil] at long
        omega
      have inside := readItems_parts (.cons first others) (List.cons_ne_nil _ _) short rest
      have unclosed : after? ']' ((String.intercalate ", " (part :: parts)).toList ++
          ([']'] ++ rest)) = none := by
        rcases first.begins with ⟨c, cs, begins, visible, other⟩
        rcases toList_intercalate ", " part parts with ⟨tail, joined⟩
        rw [joined, begins]
        exact after?_of_ne visible other _
      change (match after? ']' ((String.intercalate ", " (part :: parts)).toList ++
          ([']'] ++ rest)) with
        | some rest => some (Plain.list [], rest)
        | none => (readItems fuel ((String.intercalate ", " (part :: parts)).toList ++
            ']' :: rest)).map fun (items, rest) => (.list items, rest)) = _
      rw [unclosed, inside]
      rfl

theorem readsAs_dict {parts : List String} {entries : List (Key × Plain)}
    (each : List.Forall₂ EntryReadsAs parts entries) (apart : Plain.Apart entries) :
    ReadsAs ("\x7b" ++ String.intercalate ", " parts ++ "\x7d").toList (.dict entries) := by
  have written := toList_bracketed '\x7b' '\x7d' (String.intercalate ", " parts)
  change ("\x7b" ++ String.intercalate ", " parts ++ "\x7d").toList = _ at written
  rw [written]
  refine ⟨⟨'\x7b', _, rfl, rfl, by decide⟩, ?_⟩
  intro fuel rest long ends
  cases fuel with
  | zero => cases long
  | succ fuel =>
    rw [List.cons_append, List.append_assoc]
    cases each with
    | nil => rfl
    | @cons part entry parts entries first others =>
      have short : (String.intercalate ", " (part :: parts)).toList.length < fuel := by
        simp only [List.length_cons, List.length_append, List.length_nil] at long
        omega
      have whole : Plain.Apart ([] ++ entry :: entries) := apart
      have inside := readEntries_parts (.cons first others) (List.cons_ne_nil _ _) whole short rest
      have unclosed : after? '\x7d' ((String.intercalate ", " (part :: parts)).toList ++
          (['\x7d'] ++ rest)) = none := by
        rcases first with ⟨key, text, -, rfl, -⟩
        rcases toList_intercalate ", " (stringText true key ++ ": " ++ text) parts
          with ⟨tail, joined⟩
        rw [joined, String.toList_append, String.toList_append, toList_stringText]
        exact after?_of_ne rfl (by decide) _
      change (match after? '\x7d' ((String.intercalate ", " (part :: parts)).toList ++
          (['\x7d'] ++ rest)) with
        | some rest => some (Plain.dict [], rest)
        | none => (readEntries fuel [] ((String.intercalate ", " (part :: parts)).toList ++
            '\x7d' :: rest)).map fun (entries, rest) => (.dict entries, rest)) = _
      rw [unclosed, inside]
      rfl

/-! ## What is written -/

/-- At every level the value has a text that reads as it. -/
def WritesBack (v : Plain) : Prop :=
  ∀ level, ∃ text, write .compact level v = .ok text ∧ ReadsAs text.toList v

/-- The name of a text is the text itself. -/
theorem EntryRelated.readsAs {part : String} {entry : Key × Plain}
    (written : EntryRelated (fun text v => ReadsAs text.toList v) part entry)
    (named : ∃ s, entry.1 = .text s) : EntryReadsAs part entry := by
  rcases named with ⟨key, same⟩
  rcases written with ⟨name, text, found, joined, reads⟩
  rw [same] at found
  cases found
  exact ⟨key, text, same, joined, reads⟩

/-- By induction on the value: its parts are written back, and so it is. -/
theorem writesBack_of_lossless {v : Plain} (lossless : v.Lossless) (distinct : v.Distinct)
    (short : v.Short) : WritesBack v := by
  induction lossless with
  | null => exact fun level => ⟨_, rfl, readsAs_null⟩
  | bool b => exact fun level => ⟨_, rfl, readsAs_bool b⟩
  | int n =>
    have short := Plain.short_int.mp short
    exact fun level => ⟨_, integerText_of_short short, readsAs_int short⟩
  | text s => exact fun level => ⟨_, rfl, readsAs_text s⟩
  | list each ih =>
    intro level
    cases distinct with
    | list apart =>
      have shorts := Plain.short_list.mp short
      rcases write_list (fun text v => ReadsAs text.toList v) level
        fun v member => ih v member (apart v member) (shorts v member) (level + 1)
        with ⟨parts, written, all⟩
      exact ⟨_, written, readsAs_list all⟩
  | dict named each ih =>
    intro level
    cases distinct with
    | dict apart inside =>
      have shorts := Plain.short_dict.mp short
      rcases write_dict (fun text v => ReadsAs text.toList v) level
        (fun entry member => (shorts entry member).1)
        fun entry member => ih entry member (inside entry member) (shorts entry member).2 (level + 1)
        with ⟨parts, written, all⟩
      have both := ((List.forall₂_and_left _ _).mpr ⟨named, all.flip⟩).flip
      have entry := both.imp fun _ _ entry => EntryRelated.readsAs entry.2 entry.1
      exact ⟨_, written, readsAs_dict entry apart⟩

theorem read_of_readsAs {text : String} {v : Plain} (reads : ReadsAs text.toList v) :
    read text = some v := by
  have whole := reads.reads (Nat.le_succ _) ends_nil
  rw [List.append_nil] at whole
  rw [read, whole]
  rfl

end Json
end RowReader
