import RowReader.Proofs.Action.Collect
import RowReader.Proofs.Number.Finite
import RowReader.Proofs.Plain.Grammar
import RowReader.Proofs.Plain.ReadBack

/-!
# JSON that is written

The text of a plain value is JSON exactly if all doubles that are values in it are finite.  Those that
are not are written as names that the grammar does not have.  Keys are written as strings, whatever
they are.
-/

namespace RowReader

/-- No double in the value is infinite or not a number; keys do not count. -/
inductive Plain.Finite : Plain → Prop
  | null : Finite .null
  | bool (b : Bool) : Finite (.bool b)
  | int (n : Int) : Finite (.int n)
  | float {x : Number.Binary64} (finite : Json.isFinite x = true) : Finite (.float x)
  | text (s : String) : Finite (.text s)
  | list {items : List Plain} (each : ∀ v ∈ items, Finite v) : Finite (.list items)
  | dict {entries : List (Key × Plain)} (each : ∀ entry ∈ entries, Finite entry.2) :
      Finite (.dict entries)

namespace Json

open Number

/-! ## Numbers -/

theorem isDigits_toDigits (n : Nat) : IsDigits (Nat.toDigits 10 n) :=
  ⟨Nat.toDigits_ne_nil, fun _ member => Nat.isDigit_of_mem_toDigits (by decide) (by decide) member⟩

theorem isWhole_toDigits (n : Nat) : IsWhole (Nat.toDigits 10 n) := by
  refine ⟨isDigits_toDigits n, fun zero => ?_⟩
  rcases Nat.eq_zero_or_pos n with rfl | positive
  · rfl
  · exact absurd zero (head?_toDigits positive)

theorem isWhole_digit {c : Char} (digit : c.isDigit = true) : IsWhole [c] :=
  ⟨⟨List.cons_ne_nil c [], List.forall_mem_singleton.mpr digit⟩, fun _ => rfl⟩

theorem IsDigits.append_zeros {ds : List Char} (digits : IsDigits ds) (count : Nat) :
    IsDigits (ds ++ List.replicate count '0') := by
  refine ⟨List.append_ne_nil_of_left_ne_nil digits.filled _,
    List.forall_mem_append.mpr ⟨digits.digit, ?_⟩⟩
  intro c member
  rw [List.eq_of_mem_replicate member]
  rfl

theorem IsDigits.zeros_append {ds : List Char} (digits : IsDigits ds) (count : Nat) :
    IsDigits (List.replicate count '0' ++ ds) := by
  refine ⟨List.append_ne_nil_of_right_ne_nil _ digits.filled,
    List.forall_mem_append.mpr ⟨?_, digits.digit⟩⟩
  intro c member
  rw [List.eq_of_mem_replicate member]
  rfl

theorem IsWhole.magnitude {ws : List Char} (whole : IsWhole ws) : IsMagnitude ws := by
  have magnitude := IsMagnitude.of whole .none .none
  rwa [List.append_nil, List.append_nil] at magnitude

theorem IsWhole.pointed {ws ds : List Char} (whole : IsWhole ws) (digits : IsDigits ds) :
    IsMagnitude (ws ++ '.' :: ds) := by
  have magnitude := IsMagnitude.of whole (.some digits) .none
  rwa [List.append_nil] at magnitude

theorem isNumber_signed {magnitude : String} (negative : Bool)
    (isMagnitude : IsMagnitude magnitude.toList) :
    IsNumber (if negative then "-" ++ magnitude else magnitude).toList := by
  cases negative with
  | false => exact .plain isMagnitude
  | true =>
    rw [if_pos rfl, String.toList_append]
    exact .minus isMagnitude

theorem isNumber_int (n : Int) : IsNumber (toString n).toList := by
  cases n with
  | ofNat n =>
    change IsNumber (toString n).toList
    rw [toList_toString]
    exact .plain (isWhole_toDigits n).magnitude
  | negSucc n =>
    change IsNumber ("-" ++ toString (n + 1)).toList
    rw [String.toList_append, toList_toString]
    exact .minus (isWhole_toDigits (n + 1)).magnitude

theorem isExponent_exponentText (exponent : Int) : IsExponent ('e' :: exponentText exponent) := by
  have digits := (isDigits_toDigits exponent.natAbs).zeros_append
    (2 - (Nat.toDigits 10 exponent.natAbs).length)
  unfold exponentText
  dsimp only
  split
  · exact .some (.inl rfl) (.inr (.inr rfl)) digits
  · exact .some (.inl rfl) (.inr (.inl rfl)) digits

/-- Digits that no zero leads have an integer part in front, -/
theorem IsDigits.whole_part {ds : List Char} (digits : IsDigits ds) (leads : ds.head? ≠ some '0')
    (places : Nat) : IsWhole (ds.take (places + 1)) := by
  refine ⟨⟨?_, fun c member => digits.digit c (List.mem_of_mem_take member)⟩, ?_⟩
  · rw [ne_eq, List.take_eq_nil_iff, not_or]
    exact ⟨Nat.succ_ne_zero places, digits.filled⟩
  · rw [List.head?_take, if_neg (Nat.succ_ne_zero places)]
    exact fun zero => absurd zero leads

/-- and behind it the decimals, which are never none. -/
theorem IsDigits.decimals {ds : List Char} (digits : IsDigits ds) (places : Nat) :
    IsDigits (if (ds.drop places).isEmpty then ['0'] else ds.drop places) := by
  split
  · exact (isWhole_digit rfl).toIsDigits
  · next filled =>
    exact ⟨mt List.isEmpty_iff.mpr filled,
      fun c member => digits.digit c (List.mem_of_mem_drop member)⟩

/-- However the digits are laid out, they are a number, if no zero leads them. -/
theorem isMagnitude_layoutDigits {digits : List Char} (isDigits : IsDigits digits)
    (leads : digits.head? ≠ some '0') (leading : Int) :
    IsMagnitude (layoutDigits digits leading) := by
  unfold layoutDigits
  split
  · split
    · next below _ =>
      exact (isWhole_digit rfl : IsWhole ['0']).pointed (isDigits.zeros_append below)
    · next whole _ =>
      have padded := isDigits.append_zeros (whole + 1 - digits.length)
      have head : (digits ++ List.replicate (whole + 1 - digits.length) '0').head? =
          digits.head? := List.head?_append_of_ne_nil _ isDigits.filled
      exact (padded.whole_part (head ▸ leads) whole).pointed (padded.decimals (whole + 1))
  · cases digits with
    | nil => exact absurd rfl isDigits.filled
    | cons first rest =>
      rcases List.forall_mem_cons.mp isDigits.digit with ⟨here, there⟩
      cases rest with
      | nil => exact .of (isWhole_digit here) .none (isExponent_exponentText leading)
      | cons second others =>
        exact .of (isWhole_digit here) (.some ⟨List.cons_ne_nil _ _, there⟩)
          (isExponent_exponentText leading)

/-- The text of a finite double is a number. -/
theorem isNumber_textWith {x : Binary64} (finite : isFinite x = true) :
    IsNumber (x.textWith specialNames).toList := by
  unfold isFinite at finite
  unfold Binary64.textWith
  dsimp only
  split
  · next nan => simp [nan] at finite
  · next infinite => simp [infinite] at finite
  · have zero : IsWhole ['0'] := isWhole_digit rfl
    exact isNumber_signed _ (zero.pointed zero.toIsDigits)
  · next negative significand power zero read =>
    have positive := shortestDecimal_pos (Nat.pos_of_ne_zero zero) power
    apply isNumber_signed
    rw [String.toList_ofList]
    exact isMagnitude_layoutDigits (isDigits_toDigits _) (head?_toDigits positive) _

/-- A double that is not finite has a name for a text, which the grammar does not know. -/
theorem balanced_not_calm_textWith {x : Binary64} (infinite : isFinite x = false) :
    Balanced (x.textWith specialNames).toList ∧ ¬ Calm (x.textWith specialNames).toList := by
  have name {text : List Char} (unquoted : '"' ∉ text) (loud : ¬ Quiet text) :
      Balanced text ∧ ¬ Calm text :=
    ⟨⟨text, leaves_unquoted unquoted⟩,
      fun calm => loud ((leaves_unquoted unquoted).eq ▸ calm.quiet)⟩
  unfold isFinite at infinite
  unfold Binary64.textWith
  dsimp only
  split
  · exact name (by decide) (by decide)
  · next negative read =>
    cases negative with
    | false => exact name (by decide) (by decide)
    | true => exact name (by decide) (by decide)
  · next read => simp [read] at infinite
  · next read => simp [read] at infinite

/-! ## Strings -/

theorem isChars_escapeUnits (code : Nat) {rest : List Char} (chars : IsChars rest) :
    IsChars (escapeUnits code ++ rest) := by
  have unit (n : Nat) {cs : List Char} (chars : IsChars cs) :
      IsChars ('\\' :: 'u' :: (Text.hexDigits 4 n ++ cs)) :=
    .unit (Text.hexDigits_length 4 n) (fun _ member => isHexDigit_of_mem member) chars
  unfold escapeUnits
  dsimp only
  split
  · exact unit code chars
  · rw [List.append_assoc]
    exact unit _ (unit _ chars)

theorem Escaped.isChars {c : Char} {cs : List Char} (escaped : Escaped c cs) {rest : List Char}
    (chars : IsChars rest) : IsChars (cs ++ rest) := by
  cases escaped with
  | named listed =>
    have known : ∀ escape ∈ namedEscapes, named? escape.2 = some escape.1 := by decide
    exact .named (known _ listed) chars
  | numbered => exact isChars_escapeUnits c.toNat chars
  | itself quote backslash printable => exact .plain quote backslash printable.1 chars

theorem isChars_escaped (cs : List Char) : IsChars (cs.flatMap (escapeChar true)) := by
  induction cs with
  | nil => exact .nil
  | cons c cs ih =>
    rw [List.flatMap_cons]
    exact (escaped_escapeChar c).isChars ih

/-! ## Lists and dictionaries -/

/-- The parts with a blank in front of each but the first. -/
def spaced : List (List Char) → List (List Char)
  | [] => []
  | first :: rest => first :: rest.map (' ' :: ·)

theorem spaced_ne_nil {parts : List (List Char)} (filled : parts ≠ []) : spaced parts ≠ [] := by
  cases parts with
  | nil => exact absurd rfl filled
  | cons first rest => exact List.cons_ne_nil _ _

theorem forall_spaced {P : List Char → Prop} {parts : List (List Char)}
    (each : ∀ part ∈ parts, P part) (blank : ∀ part, P part → P (' ' :: part)) :
    ∀ part ∈ spaced parts, P part := by
  cases parts with
  | nil => exact each
  | cons first rest =>
    rcases List.forall_mem_cons.mp each with ⟨here, there⟩
    exact List.forall_mem_cons.mpr
      ⟨here, List.forall_mem_map.mpr fun part member => blank part (there part member)⟩

theorem intercalate_cons (sep cs : List Char) (c : Char) (rest : List (List Char)) :
    List.intercalate sep ((c :: cs) :: rest) = c :: List.intercalate sep (cs :: rest) := by
  cases rest with
  | nil => rfl
  | cons next others => rw [List.intercalate_cons_cons, List.intercalate_cons_cons]; rfl

/-- The comma and the blank behind it are a comma and a blank in front of the next part. -/
theorem toList_commas (parts : List String) :
    (String.intercalate ", " parts).toList =
      List.intercalate [','] (spaced (parts.map String.toList)) := by
  induction parts with
  | nil => rfl
  | cons first rest ih =>
    cases rest with
    | nil => exact List.intercalate_singleton.symm
    | cons next others =>
      rw [String.intercalate_cons_cons, String.toList_append, String.toList_append, ih]
      simp only [List.map_cons, spaced]
      rw [List.intercalate_cons_cons, intercalate_cons, List.append_assoc, List.append_assoc]
      rfl

theorem isText_behind_blank {cs : List Char} (text : IsText cs) : IsText (' ' :: cs) := by
  have amid : IsText ([' '] ++ (cs ++ [])) := .amid (List.forall_mem_singleton.mpr rfl) text nofun
  rwa [List.append_nil] at amid

/-! ## What is written is JSON or tells why not -/

/-- The text is JSON if the value is finite.  It ends outside of its strings, and is calm only if the
value is finite. -/
structure Grammatical (text : String) (v : Plain) : Prop where
  valid : v.Finite → IsText text.toList
  balanced : Balanced text.toList
  telling : Calm text.toList → v.Finite

theorem Grammatical.isText_iff {text : String} {v : Plain} (written : Grammatical text v) :
    IsText text.toList ↔ v.Finite :=
  ⟨fun valid => written.telling valid.calm, written.valid⟩

theorem grammatical_of_isText {text : String} {v : Plain} (valid : IsText text.toList)
    (finite : v.Finite) : Grammatical text v :=
  ⟨fun _ => valid, valid.calm.balanced, fun _ => finite⟩

theorem grammatical_float (x : Binary64) : Grammatical (x.textWith specialNames) (.float x) := by
  cases finite : isFinite x with
  | true => exact grammatical_of_isText (.number (isNumber_textWith finite)) (.float finite)
  | false =>
    rcases balanced_not_calm_textWith finite with ⟨balanced, loud⟩
    refine ⟨?_, balanced, fun calm => absurd calm loud⟩
    rintro ⟨⟩
    next other => cases finite.symm.trans other

theorem isText_string (s : String) : IsText (stringText true s).toList := by
  rw [toList_stringText]
  exact .string (isChars_escaped s.toList)

theorem balanced_intercalate {parts : List String} (each : ∀ part ∈ parts, Balanced part.toList) :
    Balanced (String.intercalate ", " parts).toList := by
  induction parts with
  | nil => exact ⟨[], leaves_unquoted List.not_mem_nil⟩
  | cons first rest ih =>
    rcases List.forall_mem_cons.mp each with ⟨here, there⟩
    cases rest with
    | nil => exact here
    | cons next others =>
      rw [String.intercalate_cons_cons, String.toList_append, String.toList_append]
      exact (here.append (calm_of_quiet (by decide)).balanced).append (ih there)

/-- Parts with commas between them are calm only if each of them is. -/
theorem calm_of_intercalate {parts : List String} (each : ∀ part ∈ parts, Balanced part.toList)
    (calm : Calm (String.intercalate ", " parts).toList) : ∀ part ∈ parts, Calm part.toList := by
  induction parts with
  | nil => exact nofun
  | cons first rest ih =>
    rcases List.forall_mem_cons.mp each with ⟨here, there⟩
    cases rest with
    | nil => exact List.forall_mem_singleton.mpr calm
    | cons next others =>
      rw [String.intercalate_cons_cons, String.toList_append, String.toList_append] at calm
      have comma : Balanced ", ".toList := (calm_of_quiet (by decide)).balanced
      rcases calm.parts (here.append comma) (balanced_intercalate there) with ⟨front, behind⟩
      exact List.forall_mem_cons.mpr ⟨(front.parts here comma).1, ih there behind⟩

theorem calm_inside {opening closing : Char} {cs : List Char} (opens : Quiet [opening])
    (closes : Quiet [closing]) (balanced : Balanced cs) (calm : Calm (opening :: (cs ++ [closing]))) :
    Calm cs := by
  have front : Balanced [opening] := (calm_of_quiet opens).balanced
  have back : Balanced [closing] := (calm_of_quiet closes).balanced
  have whole : Calm ([opening] ++ (cs ++ [closing])) := calm
  exact ((whole.parts front (balanced.append back)).2.parts balanced back).1

theorem balanced_bracketed {opening closing : Char} {cs : List Char} (opens : Quiet [opening])
    (closes : Quiet [closing]) (balanced : Balanced cs) : Balanced (opening :: (cs ++ [closing])) :=
  (calm_of_quiet opens).balanced.append (balanced.append (calm_of_quiet closes).balanced)

theorem grammatical_list {parts : List String} {items : List Plain}
    (each : List.Forall₂ Grammatical parts items) :
    Grammatical ("[" ++ String.intercalate ", " parts ++ "]") (.list items) := by
  have written := toList_bracketed '[' ']' (String.intercalate ", " parts)
  change ("[" ++ String.intercalate ", " parts ++ "]").toList = _ at written
  have balanced : ∀ part ∈ parts, Balanced part.toList :=
    forall_mem_of_related each fun _ _ related => related.balanced
  have inside := balanced_intercalate balanced
  refine ⟨fun finite => ?_, ?_, fun calm => ?_⟩
  · cases finite with
    | list finite =>
      have texts : ∀ part ∈ parts.map String.toList, IsText part :=
        List.forall_mem_map.mpr (forall_mem_of_forall₂ each (fun _ _ related => related.valid) finite)
      rw [written]
      by_cases none : parts = []
      · rw [none]
        exact .emptyArray nofun
      · rw [toList_commas]
        exact .array (spaced_ne_nil (mt List.map_eq_nil_iff.mp none))
          (forall_spaced texts fun _ => isText_behind_blank)
  · rw [written]
    exact balanced_bracketed (by decide) (by decide) inside
  · rw [written] at calm
    have calmly := calm_of_intercalate balanced (calm_inside (by decide) (by decide) inside calm)
    exact .list (forall_mem_of_forall₂ each.flip (fun _ _ related => related.telling) calmly)

/-! ### Entries -/

/-- A name and a value with a colon between them. -/
def IsMember (cs : List Char) : Prop :=
  ∃ name value, IsName name ∧ IsText value ∧ cs = name ++ (':' :: value)

theorem isMember_behind_blank {cs : List Char} (member : IsMember cs) : IsMember (' ' :: cs) := by
  rcases member with ⟨name, value, isName, isText, rfl⟩
  refine ⟨' ' :: name, value, ?_, isText, rfl⟩
  cases isName with
  | of before chars behind =>
    exact .of (List.forall_mem_cons.mpr ⟨rfl, before⟩) chars behind

theorem isText_members {parts : List (List Char)} (filled : parts ≠ [])
    (each : ∀ part ∈ parts, IsMember part) :
    IsText ('\x7b' :: (List.intercalate [','] parts ++ ['\x7d'])) := by
  have split : ∃ members : List (List Char × List Char),
      (∀ member ∈ members, IsName member.1) ∧ (∀ member ∈ members, IsText member.2) ∧
      members.map (fun member => member.1 ++ (':' :: member.2)) = parts := by
    clear filled
    induction parts with
    | nil => exact ⟨[], nofun, nofun, rfl⟩
    | cons first rest ih =>
      rcases List.forall_mem_cons.mp each with ⟨⟨name, value, isName, isText, same⟩, there⟩
      rcases ih there with ⟨members, names, values, others⟩
      refine ⟨(name, value) :: members, List.forall_mem_cons.mpr ⟨isName, names⟩,
        List.forall_mem_cons.mpr ⟨isText, values⟩, ?_⟩
      rw [List.map_cons, others, same]
  rcases split with ⟨members, names, values, rfl⟩
  exact .object (mt List.map_eq_nil_iff.mpr filled) names values

/-- The name of an entry and the text of its value. -/
def EntryGrammatical (part : String) (entry : Key × Plain) : Prop :=
  ∃ name text, part = stringText true name ++ ": " ++ text ∧ Grammatical text entry.2

theorem toList_entry (name text : String) :
    (stringText true name ++ ": " ++ text).toList =
      (stringText true name).toList ++ (':' :: ' ' :: text.toList) := by
  rw [String.toList_append, String.toList_append, List.append_assoc]
  rfl

theorem EntryGrammatical.member {part : String} {entry : Key × Plain}
    (written : EntryGrammatical part entry) (finite : entry.2.Finite) : IsMember part.toList := by
  rcases written with ⟨name, text, rfl, value⟩
  have isName : IsName ([] ++ ('"' :: (name.toList.flatMap (escapeChar true) ++ ['"']))) :=
    .of nofun (isChars_escaped name.toList) nofun
  rw [List.nil_append, ← toList_stringText] at isName
  exact ⟨_, ' ' :: text.toList, isName, isText_behind_blank (value.valid finite),
    toList_entry name text⟩

theorem EntryGrammatical.balanced {part : String} {entry : Key × Plain}
    (written : EntryGrammatical part entry) : Balanced part.toList := by
  rcases written with ⟨name, text, rfl, value⟩
  rw [toList_entry]
  have colon : Balanced [':', ' '] := (calm_of_quiet (by decide)).balanced
  exact (isText_string name).calm.balanced.append (colon.append value.balanced)

theorem EntryGrammatical.telling {part : String} {entry : Key × Plain}
    (written : EntryGrammatical part entry) (calm : Calm part.toList) : entry.2.Finite := by
  rcases written with ⟨name, text, rfl, value⟩
  rw [toList_entry] at calm
  have colon : Balanced [':', ' '] := (calm_of_quiet (by decide)).balanced
  have behind : Calm ([':', ' '] ++ text.toList) :=
    (calm.parts (isText_string name).calm.balanced (colon.append value.balanced)).2
  exact value.telling (behind.parts colon value.balanced).2

theorem grammatical_dict {parts : List String} {entries : List (Key × Plain)}
    (each : List.Forall₂ EntryGrammatical parts entries) :
    Grammatical ("\x7b" ++ String.intercalate ", " parts ++ "\x7d") (.dict entries) := by
  have written := toList_bracketed '\x7b' '\x7d' (String.intercalate ", " parts)
  change ("\x7b" ++ String.intercalate ", " parts ++ "\x7d").toList = _ at written
  have balanced : ∀ part ∈ parts, Balanced part.toList :=
    forall_mem_of_related each fun _ _ related => related.balanced
  have inside := balanced_intercalate balanced
  refine ⟨fun finite => ?_, ?_, fun calm => ?_⟩
  · cases finite with
    | dict finite =>
      have members : ∀ part ∈ parts.map String.toList, IsMember part :=
        List.forall_mem_map.mpr (forall_mem_of_forall₂ each (fun _ _ related => related.member) finite)
      rw [written]
      by_cases none : parts = []
      · rw [none]
        exact .emptyObject nofun
      · rw [toList_commas]
        exact isText_members (spaced_ne_nil (mt List.map_eq_nil_iff.mp none))
          (forall_spaced members fun _ => isMember_behind_blank)
  · rw [written]
    exact balanced_bracketed (by decide) (by decide) inside
  · rw [written] at calm
    have calmly := calm_of_intercalate balanced (calm_inside (by decide) (by decide) inside calm)
    exact .dict (forall_mem_of_forall₂ each.flip
      (fun _ _ related => EntryGrammatical.telling related) calmly)

/-! ### Values -/

theorem write_grammatical {v : Plain} (short : v.Short) (level : Nat) :
    ∃ text, write .compact level v = .ok text ∧ Grammatical text v := by
  induction v using Plain.of_values generalizing level with
  | null => exact ⟨_, rfl, grammatical_of_isText .null .null⟩
  | bool b =>
    cases b with
    | true => exact ⟨_, rfl, grammatical_of_isText .true (.bool true)⟩
    | false => exact ⟨_, rfl, grammatical_of_isText .false (.bool false)⟩
  | int n =>
    exact ⟨_, integerText_of_short (Plain.short_int.mp short),
      grammatical_of_isText (.number (isNumber_int n)) (.int n)⟩
  | float x => exact ⟨_, floatText_compact x, grammatical_float x⟩
  | text s => exact ⟨_, rfl, grammatical_of_isText (isText_string s) (.text s)⟩
  | list items ih =>
    have shorts := Plain.short_list.mp short
    rcases write_list Grammatical level fun v member => ih v member (shorts v member) (level + 1)
      with ⟨parts, written, each⟩
    exact ⟨_, written, grammatical_list each⟩
  | dict entries ih =>
    have shorts := Plain.short_dict.mp short
    rcases write_dict Grammatical level (fun entry member => (shorts entry member).1)
      fun entry member => ih entry member (shorts entry member).2 (level + 1)
      with ⟨parts, written, each⟩
    refine ⟨_, written, grammatical_dict (each.imp ?_)⟩
    rintro _ _ ⟨name, text, -, joined, value⟩
    exact ⟨name, text, joined, value⟩

/-- A value whose integers are short is written on one line, and this is JSON exactly if the value is
finite. -/
theorem render_grammatical {v : Plain} (short : v.Short) :
    ∃ text, render .compact v = .ok text ∧ (IsText text.toList ↔ v.Finite) := by
  rcases write_grammatical short 0 with ⟨text, written, grammatical⟩
  exact ⟨text, written, grammatical.isText_iff⟩

end Json
end RowReader
