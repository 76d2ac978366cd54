import RowReader.Plain.Json
import RowReader.Proofs.Action.Collect
import RowReader.Proofs.Number.Numeral

/-!
# JSON on one line

In the layout for one line a plain value has a text unless there is an integer in it that is too long
to be written.  The text is made of printable ASCII alone, so that it has no line break in it, and
nothing that a terminal would act on.

A list or a dictionary is written if the values in it are, and whatever relates their texts to them is
carried along.  So what is to be shown of texts and values is shown by one induction on the value.
-/

namespace RowReader

/-- All characters are printable and in ASCII. -/
def PrintableAscii (cs : List Char) : Prop :=
  ∀ c ∈ cs, 0x20 ≤ c.toNat ∧ c.toNat < 0x7f

-- Named: an instance search can find one that runs through every character there is.
instance (cs : List Char) : Decidable (PrintableAscii cs) :=
  List.decidableBAll (fun c : Char => 0x20 ≤ c.toNat ∧ c.toNat < 0x7f) cs

namespace PrintableAscii

variable {cs ds : List Char}

theorem nil : PrintableAscii [] := fun _ member => absurd member List.not_mem_nil

theorem cons {c : Char} (first : 0x20 ≤ c.toNat ∧ c.toNat < 0x7f) (rest : PrintableAscii cs) :
    PrintableAscii (c :: cs) :=
  List.forall_mem_cons.mpr ⟨first, rest⟩

theorem append (first : PrintableAscii cs) (second : PrintableAscii ds) :
    PrintableAscii (cs ++ ds) :=
  fun c member => (List.mem_append.mp member).elim (first c) (second c)

theorem of_subset (printable : PrintableAscii cs) (subset : ds ⊆ cs) : PrintableAscii ds :=
  fun c member => printable c (subset member)

theorem not_mem (printable : PrintableAscii cs) {c : Char} (control : c.toNat < 0x20) : c ∉ cs :=
  fun member => absurd (printable c member).1 (Nat.not_le.mpr control)

theorem of_isDigit (digits : ∀ c ∈ cs, c.isDigit = true) : PrintableAscii cs := by
  intro c member
  have digit := digits c member
  simp only [Char.isDigit, Bool.and_eq_true, decide_eq_true_eq] at digit
  have bounds : 48 ≤ c.toNat ∧ c.toNat ≤ 57 := digit
  omega

theorem toDigits (n : Nat) : PrintableAscii (Nat.toDigits 10 n) :=
  of_isDigit fun _ member => Nat.isDigit_of_mem_toDigits (by decide) (by decide) member

theorem replicate_zero (count : Nat) : PrintableAscii (List.replicate count '0') := by
  intro c member
  rw [List.eq_of_mem_replicate member]
  decide

theorem ofNat (n : Nat) : PrintableAscii (toString n).toList := by
  rw [Nat.toString_eq_ofList_toDigits, String.toList_ofList]
  exact toDigits n

theorem ofInt (n : Int) : PrintableAscii (toString n).toList := by
  cases n with
  | ofNat n => exact ofNat n
  | negSucc n =>
    change PrintableAscii ("-" ++ toString (n + 1)).toList
    rw [String.toList_append]
    exact append (by decide) (ofNat (n + 1))

theorem intercalate {sep : String} (between : PrintableAscii sep.toList) {parts : List String}
    (each : ∀ part ∈ parts, PrintableAscii part.toList) :
    PrintableAscii (String.intercalate sep parts).toList := by
  induction parts with
  | nil => exact nil
  | cons first rest ih =>
    rcases List.forall_mem_cons.mp each with ⟨here, there⟩
    cases rest with
    | nil => exact here
    | cons next others =>
      rw [String.intercalate_cons_cons, String.toList_append, String.toList_append]
      exact append (append here between) (ih there)

end PrintableAscii

/-! ## Values in values -/

/-- What every list and every dictionary takes over from the values in it, every value has. -/
theorem Plain.of_values {motive : Plain → Prop} (null : motive .null)
    (bool : ∀ b, motive (.bool b)) (int : ∀ n, motive (.int n)) (float : ∀ x, motive (.float x))
    (text : ∀ s, motive (.text s))
    (list : ∀ items, (∀ v ∈ items, motive v) → motive (.list items))
    (dict : ∀ entries, (∀ entry ∈ entries, motive entry.2) → motive (.dict entries)) :
    (v : Plain) → motive v
  | .null => null
  | .bool b => bool b
  | .int n => int n
  | .float x => float x
  | .text s => text s
  | .list items => list items fun v member =>
    have : sizeOf v < sizeOf items := List.sizeOf_lt_of_mem member
    of_values null bool int float text list dict v
  | .dict entries => dict entries fun (key, v) member =>
    have : sizeOf v < sizeOf entries := by
      have inside := List.sizeOf_lt_of_mem member
      rw [Prod.mk.sizeOf_spec] at inside
      omega
    of_values null bool int float text list dict v

/-! ## Short integers -/

/-- The key is no integer that is too long to be written. -/
def Key.Short : Key → Prop
  | .int n => Number.Short n
  | _ => True

namespace Plain

/-- All integers in the value are short enough to be written, at any depth and among the keys. -/
inductive Short : Plain → Prop
  | null : Short .null
  | bool (b : Bool) : Short (.bool b)
  | int {n : Int} (short : Number.Short n) : Short (.int n)
  | float (x : Number.Binary64) : Short (.float x)
  | text (s : String) : Short (.text s)
  | list {items : List Plain} (each : ∀ v ∈ items, Short v) : Short (.list items)
  | dict {entries : List (Key × Plain)} (keys : ∀ entry ∈ entries, entry.1.Short)
      (each : ∀ entry ∈ entries, Short entry.2) : Short (.dict entries)

theorem short_int {n : Int} : (int n).Short ↔ Number.Short n := by
  constructor
  · rintro ⟨⟩
    assumption
  · exact .int

theorem short_list {items : List Plain} : (list items).Short ↔ ∀ v ∈ items, v.Short := by
  constructor
  · rintro ⟨⟩
    assumption
  · exact .list

theorem short_dict {entries : List (Key × Plain)} :
    (dict entries).Short ↔ ∀ entry ∈ entries, entry.1.Short ∧ entry.2.Short := by
  constructor
  · rintro ⟨⟩ entry member
    next keys each => exact ⟨keys entry member, each entry member⟩
  · exact fun both => .dict (fun entry member => (both entry member).1)
      fun entry member => (both entry member).2

end Plain

/-! ## Doubles -/

namespace Number

theorem printable_exponentText (exponent : Int) : PrintableAscii (exponentText exponent) := by
  refine .cons ?_ (.append (.replicate_zero _) (.toDigits _))
  split <;> decide

theorem printable_layoutDigits {digits : List Char} (printable : PrintableAscii digits)
    (leading : Int) : PrintableAscii (layoutDigits digits leading) := by
  have point {cs : List Char} (rest : PrintableAscii cs) : PrintableAscii ('.' :: cs) :=
    .cons (by decide) rest
  unfold layoutDigits
  split
  · split
    · exact .cons (by decide) (point (.append (.replicate_zero _) printable))
    · next whole _ =>
      have padded := printable.append (.replicate_zero (whole + 1 - digits.length))
      refine .append (padded.of_subset (List.take_subset _ _)) (point ?_)
      split
      · decide
      · exact padded.of_subset (List.drop_subset _ _)
  · split
    · exact .nil
    · next first =>
      have exponent := printable_exponentText leading
      exact printable.append (.cons (by decide) exponent : PrintableAscii ('e' :: _))
    · next first rest =>
      rcases List.forall_mem_cons.mp printable with ⟨here, there⟩
      refine .cons here (point (.append there (.cons (by decide) (printable_exponentText leading))))

theorem printable_textWith (x : Binary64) :
    PrintableAscii (x.textWith Json.specialNames).toList := by
  have signed {magnitude : String} (negative : Bool) (printable : PrintableAscii magnitude.toList) :
      PrintableAscii (if negative then "-" ++ magnitude else magnitude).toList := by
    cases negative with
    | false => exact printable
    | true =>
      rw [if_pos rfl, String.toList_append]
      exact .append (by decide) printable
  unfold Binary64.textWith
  dsimp only
  split
  · decide
  · exact signed _ (by decide)
  · exact signed _ (by decide)
  · apply signed
    rw [String.toList_ofList]
    exact printable_layoutDigits (.toDigits _) _

end Number

namespace Json

/-! ## Strings -/

/-- The characters with an escape of two characters, and the letter in it. -/
def namedEscapes : List (Char × Char) :=
  [('"', '"'), ('\\', '\\'), ('\n', 'n'), ('\r', 'r'), ('\t', 't'), ('\x0c', 'f'), ('\x08', 'b')]

/-- The ways to write a character in a string on one line. -/
inductive Escaped (c : Char) : List Char → Prop
  | named {letter : Char} (listed : (c, letter) ∈ namedEscapes) : Escaped c ['\\', letter]
  | numbered : Escaped c (escapeUnits c.toNat)
  | itself (quote : c ≠ '"') (backslash : c ≠ '\\')
      (printable : 0x20 ≤ c.toNat ∧ c.toNat < 0x7f) : Escaped c [c]

theorem escaped_escapeChar (c : Char) : Escaped c (escapeChar true c) := by
  unfold escapeChar
  -- The named escapes come first, then the numbered ones, then the characters that stay.
  iterate 7
    split
    · next same =>
      cases eq_of_beq same
      exact .named (by decide)
  split
  · exact .numbered
  · next quote backslash _ _ _ _ _ ordinary =>
    simp only [Bool.true_and, Bool.or_eq_true, decide_eq_true_eq, not_or, Nat.not_lt,
      Nat.not_le] at ordinary
    simp only [beq_iff_eq] at quote backslash
    exact .itself quote backslash ordinary

theorem printable_hexDigits (width n : Nat) : PrintableAscii (Text.hexDigits width n) := by
  have digit : ∀ d < 16, 0x20 ≤ (Nat.digitChar d).toNat ∧ (Nat.digitChar d).toNat < 0x7f := by
    decide
  induction width generalizing n with
  | zero => exact .nil
  | succ width ih => exact (ih (n / 16)).append (.cons (digit _ (Nat.mod_lt n (by decide))) .nil)

theorem printable_escapeUnits (code : Nat) : PrintableAscii (escapeUnits code) := by
  have unit (n : Nat) : PrintableAscii ('\\' :: 'u' :: Text.hexDigits 4 n) :=
    .cons (by decide) (.cons (by decide) (printable_hexDigits 4 n))
  unfold escapeUnits
  dsimp only
  split
  · exact unit code
  · exact (unit _).append (unit _)

theorem Escaped.printable {c : Char} {cs : List Char} (escaped : Escaped c cs) :
    PrintableAscii cs := by
  cases escaped with
  | named listed =>
    have letters : ∀ escape ∈ namedEscapes, PrintableAscii ['\\', escape.2] := by decide
    exact letters _ listed
  | numbered => exact printable_escapeUnits c.toNat
  | itself _ _ printable => exact .cons printable .nil

theorem printable_stringText (s : String) : PrintableAscii (stringText true s).toList := by
  rw [stringText, String.toList_ofList, stringChars]
  refine .cons (by decide) (.append ?_ (by decide))
  intro c member
  rcases List.mem_flatMap.mp member with ⟨d, -, inside⟩
  exact (escaped_escapeChar d).printable c inside

/-! ## Values -/

theorem floatText_compact (x : Number.Binary64) :
    floatText .compact x = .ok (x.textWith specialNames) :=
  if_pos rfl

theorem integerText_of_short {n : Int} (short : Number.Short n) :
    integerText n = .ok (toString n) := by
  rw [integerText, Number.writeInteger_of_short short]
  rfl

theorem integerText_of_not {n : Int} (long : ¬ Number.Short n) :
    integerText n = .error (.overlong {}) := by
  rw [integerText, Number.writeInteger_of_not long]
  rfl

theorem keyName_compact {key : Key} (short : key.Short) : ∃ name, keyName .compact key = .ok name := by
  cases key with
  | int n => exact ⟨_, integerText_of_short short⟩
  | float x => exact ⟨_, floatText_compact x⟩
  | _ => exact ⟨_, rfl⟩

theorem keyName_overlong {key : Key} (long : ¬ key.Short) :
    keyName .compact key = .error (.overlong {}) := by
  cases key with
  | int n => exact integerText_of_not long
  | _ => exact absurd trivial long

/-- On one line the parts stand between the brackets with nothing else but commas. -/
theorem enclose_compact (level : Nat) (opening closing : String) (parts : List String) :
    enclose .compact level opening closing parts =
      opening ++ String.intercalate ", " parts ++ closing := by
  have straight (level : Nat) : lineBreak .compact level = "" := rfl
  cases parts with
  | nil =>
    change opening ++ closing = opening ++ "" ++ closing
    rw [String.append_empty]
  | cons first rest =>
    change opening ++ lineBreak .compact (level + 1)
      ++ String.intercalate (", " ++ lineBreak .compact (level + 1)) (first :: rest)
      ++ lineBreak .compact level ++ closing = _
    simp only [straight, String.append_empty]

section

variable (related : String → Plain → Prop)

/-- The part of an entry is its name as a string, a colon, and a text that is related to its value. -/
def EntryRelated (part : String) (entry : Key × Plain) : Prop :=
  ∃ name text, keyName .compact entry.1 = .ok name ∧
    part = stringText true name ++ ": " ++ text ∧ related text entry.2

theorem writeItems_related {items : List Plain} {level : Nat}
    (each : ∀ v ∈ items, ∃ text, write .compact level v = .ok text ∧ related text v) :
    ∃ parts, writeItems .compact level items = .ok parts ∧ List.Forall₂ related parts items := by
  induction items with
  | nil => exact ⟨[], rfl, .nil⟩
  | cons v rest ih =>
    rcases List.forall_mem_cons.mp each with ⟨⟨text, written, here⟩, there⟩
    rcases ih there with ⟨parts, others, all⟩
    refine ⟨text :: parts, ?_, .cons here all⟩
    rw [writeItems, written, others]
    rfl

theorem writeEntries_related {entries : List (Key × Plain)} {level : Nat}
    (keys : ∀ entry ∈ entries, entry.1.Short)
    (each : ∀ entry ∈ entries,
      ∃ text, write .compact level entry.2 = .ok text ∧ related text entry.2) :
    ∃ parts, (writeEntries .compact level entries).mapM Prod.snd = .ok parts ∧
      List.Forall₂ (EntryRelated related) parts entries := by
  induction entries with
  | nil => exact ⟨[], rfl, .nil⟩
  | cons entry rest ih =>
    rcases entry with ⟨key, v⟩
    rcases List.forall_mem_cons.mp keys with ⟨short, shorts⟩
    rcases List.forall_mem_cons.mp each with ⟨⟨text, written, here⟩, there⟩
    rcases ih shorts there with ⟨parts, others, all⟩
    rcases keyName_compact short with ⟨name, named⟩
    refine ⟨(stringText true name ++ ": " ++ text) :: parts, ?_,
      .cons ⟨name, text, named, rfl, here⟩ all⟩
    rw [writeEntries, named, written, List.mapM_cons, others]
    rfl

/-- If the values in a list are written with texts that are related to them, so is the list. -/
theorem write_list {items : List Plain} (level : Nat)
    (each : ∀ v ∈ items, ∃ text, write .compact (level + 1) v = .ok text ∧ related text v) :
    ∃ parts, write .compact level (.list items) =
      .ok ("[" ++ String.intercalate ", " parts ++ "]") ∧ List.Forall₂ related parts items := by
  rcases writeItems_related related each with ⟨parts, written, all⟩
  refine ⟨parts, ?_, all⟩
  rw [write, written, ← enclose_compact level]
  rfl

theorem write_dict {entries : List (Key × Plain)} (level : Nat)
    (keys : ∀ entry ∈ entries, entry.1.Short)
    (each : ∀ entry ∈ entries,
      ∃ text, write .compact (level + 1) entry.2 = .ok text ∧ related text entry.2) :
    ∃ parts, write .compact level (.dict entries) =
      .ok ("\x7b" ++ String.intercalate ", " parts ++ "\x7d") ∧
      List.Forall₂ (EntryRelated related) parts entries := by
  rcases writeEntries_related related keys each with ⟨parts, written, all⟩
  refine ⟨parts, ?_, all⟩
  rw [write, ← enclose_compact level]
  change (do
    let parts ← (writeEntries .compact (level + 1) entries).mapM Prod.snd
    return enclose .compact level "\x7b" "\x7d" parts) = _
  rw [written]
  rfl

end

theorem printable_enclosed {opening closing : String} {parts : List String}
    (opens : PrintableAscii opening.toList) (closes : PrintableAscii closing.toList)
    (each : ∀ part ∈ parts, PrintableAscii part.toList) :
    PrintableAscii (opening ++ String.intercalate ", " parts ++ closing).toList := by
  rw [String.toList_append, String.toList_append]
  exact (opens.append (.intercalate (by decide) each)).append closes

theorem printable_entry {part : String} {entry : Key × Plain}
    (written : EntryRelated (fun text _ => PrintableAscii text.toList) part entry) :
    PrintableAscii part.toList := by
  rcases written with ⟨name, text, -, rfl, printable⟩
  rw [String.toList_append, String.toList_append]
  exact ((printable_stringText name).append (by decide)).append printable

theorem write_compact {v : Plain} (short : v.Short) (level : Nat) :
    ∃ text, write .compact level v = .ok text ∧ PrintableAscii text.toList := by
  induction v using Plain.of_values generalizing level with
  | null => exact ⟨_, rfl, by decide⟩
  | bool b => cases b <;> exact ⟨_, rfl, by decide⟩
  | int n => exact ⟨_, integerText_of_short (Plain.short_int.mp short), .ofInt n⟩
  | float x => exact ⟨_, floatText_compact x, Number.printable_textWith x⟩
  | text s => exact ⟨_, rfl, printable_stringText s⟩
  | list items ih =>
    have each := Plain.short_list.mp short
    rcases write_list (fun text _ => PrintableAscii text.toList) level
      fun v member => ih v member (each v member) (level + 1) with ⟨parts, written, each⟩
    exact ⟨_, written, printable_enclosed (by decide) (by decide)
      (forall_mem_of_related each fun _ _ => id)⟩
  | dict entries ih =>
    have each := Plain.short_dict.mp short
    rcases write_dict (fun text _ => PrintableAscii text.toList) level
      (fun entry member => (each entry member).1)
      fun entry member => ih entry member (each entry member).2 (level + 1)
      with ⟨parts, written, each⟩
    exact ⟨_, written, printable_enclosed (by decide) (by decide)
      (forall_mem_of_related each fun _ _ => printable_entry)⟩

/-- A value whose integers are short can be written on one line. -/
theorem render_compact {v : Plain} (short : v.Short) :
    ∃ text, render .compact v = .ok text ∧ PrintableAscii text.toList :=
  write_compact short 0

/-! ## Values with a long integer -/

/-- The items before the first that is not written are written, and then the writing ends. -/
theorem writeItems_overlong {items : List Plain} {level : Nat}
    (each : ∀ v ∈ items, ¬ v.Short → write .compact level v = .error (.overlong {}))
    (long : ¬ ∀ v ∈ items, v.Short) :
    writeItems .compact level items = .error (.overlong {}) := by
  induction items with
  | nil => exact absurd (List.forall_mem_nil _) long
  | cons v rest ih =>
    rcases List.forall_mem_cons.mp each with ⟨here, there⟩
    rw [writeItems]
    by_cases short : v.Short
    · rcases write_compact short level with ⟨text, written, -⟩
      have others : ¬ ∀ w ∈ rest, w.Short :=
        fun shorts => long (List.forall_mem_cons.mpr ⟨short, shorts⟩)
      rw [written, ih there others]
      rfl
    · rw [here short]

theorem writeEntries_overlong {entries : List (Key × Plain)} {level : Nat}
    (each : ∀ entry ∈ entries, ¬ entry.2.Short →
      write .compact level entry.2 = .error (.overlong {}))
    (long : ¬ ∀ entry ∈ entries, entry.1.Short ∧ entry.2.Short) :
    (writeEntries .compact level entries).mapM Prod.snd = .error (.overlong {}) := by
  induction entries with
  | nil => exact absurd (List.forall_mem_nil _) long
  | cons entry rest ih =>
    rcases entry with ⟨key, v⟩
    rcases List.forall_mem_cons.mp each with ⟨here, there⟩
    rw [writeEntries, List.mapM_cons]
    by_cases keyed : key.Short
    · rcases keyName_compact keyed with ⟨name, named⟩
      by_cases short : v.Short
      · rcases write_compact short level with ⟨text, written, -⟩
        have others : ¬ ∀ entry ∈ rest, entry.1.Short ∧ entry.2.Short :=
          fun shorts => long (List.forall_mem_cons.mpr ⟨⟨keyed, short⟩, shorts⟩)
        rw [named, written, ih there others]
        rfl
      · rw [named, here short]
        rfl
    · rw [keyName_overlong keyed]
      rfl

theorem write_overlong {v : Plain} (long : ¬ v.Short) (level : Nat) :
    write .compact level v = .error (.overlong {}) := by
  induction v using Plain.of_values generalizing level with
  | null => exact absurd .null long
  | bool b => exact absurd (.bool b) long
  | int n => exact integerText_of_not (mt Plain.short_int.mpr long)
  | float x => exact absurd (.float x) long
  | text s => exact absurd (.text s) long
  | list items ih =>
    have stopped := writeItems_overlong (fun v member other => ih v member other (level + 1))
      (mt Plain.short_list.mpr long)
    rw [write, stopped]
    rfl
  | dict entries ih =>
    have stopped := writeEntries_overlong
      (fun entry member other => ih entry member other (level + 1)) (mt Plain.short_dict.mpr long)
    rw [write]
    change (do
      let parts ← (writeEntries .compact (level + 1) entries).mapM Prod.snd
      return enclose .compact level "\x7b" "\x7d" parts) = _
    rw [stopped]
    rfl

/-- A value with an integer that is too long cannot be written, wherever that stands. -/
theorem render_overlong {v : Plain} (long : ¬ v.Short) :
    render .compact v = .error (.overlong {}) :=
  write_overlong long 0

end Json
end RowReader
