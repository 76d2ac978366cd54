import RowReader.Proofs.Plain.Reading

/-!
# The grammar of JSON

Which texts are JSON is said here by rules, one for each kind of value, and not by a reader.  White
space may stand around every value and every name.  A number has no zero in front of another digit of
its integer part, and nothing but digits, signs, a point and the mark of an exponent.

To find that a text is not JSON it is enough to look outside of its strings.  The only letters that a
JSON text has there are those of its three names and the mark of an exponent, so a capital N or I is not
among them.  Where the strings of a text begin and end is found by going through it from the front.
-/

namespace RowReader
namespace Json

/-! ## The rules -/

def IsBlank (cs : List Char) : Prop := ∀ c ∈ cs, isSpace c = true

/-- What may stand between the quotes of a string. -/
inductive IsChars : List Char → Prop
  | nil : IsChars []
  | plain {c : Char} {cs : List Char} (quote : c ≠ '"') (backslash : c ≠ '\\')
      (visible : 0x20 ≤ c.toNat) (rest : IsChars cs) : IsChars (c :: cs)
  | named {c d : Char} {cs : List Char} (known : named? c = some d) (rest : IsChars cs) :
      IsChars ('\\' :: c :: cs)
  | unit {digits cs : List Char} (width : digits.length = 4)
      (digit : ∀ c ∈ digits, isHexDigit c = true) (rest : IsChars cs) :
      IsChars ('\\' :: 'u' :: (digits ++ cs))

structure IsDigits (cs : List Char) : Prop where
  filled : cs ≠ []
  digit : ∀ c ∈ cs, c.isDigit = true

/-- Digits, and no zero in front of another one. -/
structure IsWhole (cs : List Char) : Prop extends IsDigits cs where
  leading : cs.head? = some '0' → cs.length = 1

inductive IsFraction : List Char → Prop
  | none : IsFraction []
  | some {ds : List Char} (digits : IsDigits ds) : IsFraction ('.' :: ds)

inductive IsExponent : List Char → Prop
  | none : IsExponent []
  | some {mark : Char} {sign ds : List Char} (marked : mark = 'e' ∨ mark = 'E')
      (signed : sign = [] ∨ sign = ['+'] ∨ sign = ['-']) (digits : IsDigits ds) :
      IsExponent (mark :: (sign ++ ds))

inductive IsMagnitude : List Char → Prop
  | of {ws fs es : List Char} (whole : IsWhole ws) (fraction : IsFraction fs)
      (exponent : IsExponent es) : IsMagnitude (ws ++ (fs ++ es))

inductive IsNumber : List Char → Prop
  | plain {cs : List Char} (magnitude : IsMagnitude cs) : IsNumber cs
  | minus {cs : List Char} (magnitude : IsMagnitude cs) : IsNumber ('-' :: cs)

/-- A string with white space around it. -/
inductive IsName : List Char → Prop
  | of {front cs back : List Char} (before : IsBlank front) (chars : IsChars cs)
      (behind : IsBlank back) : IsName (front ++ ('"' :: (cs ++ ('"' :: back))))

/-- A JSON text. -/
inductive IsText : List Char → Prop
  | null : IsText "null".toList
  | true : IsText "true".toList
  | false : IsText "false".toList
  | number {cs : List Char} (number : IsNumber cs) : IsText cs
  | string {cs : List Char} (chars : IsChars cs) : IsText ('"' :: (cs ++ ['"']))
  | emptyArray {cs : List Char} (blank : IsBlank cs) : IsText ('[' :: (cs ++ [']']))
  | array {items : List (List Char)} (filled : items ≠ []) (each : ∀ item ∈ items, IsText item) :
      IsText ('[' :: (List.intercalate [','] items ++ [']']))
  | emptyObject {cs : List Char} (blank : IsBlank cs) : IsText ('\x7b' :: (cs ++ ['\x7d']))
  | object {members : List (List Char × List Char)} (filled : members ≠ [])
      (names : ∀ member ∈ members, IsName member.1) (each : ∀ member ∈ members, IsText member.2) :
      IsText ('\x7b' ::
        (List.intercalate [','] (members.map fun member => member.1 ++ (':' :: member.2)) ++ ['\x7d']))
  | amid {front cs back : List Char} (before : IsBlank front) (text : IsText cs)
      (behind : IsBlank back) : IsText (front ++ (cs ++ back))

/-! ## Outside of the strings -/

/-- A place in a text: outside of its strings, in one of them, or behind a backslash in one. -/
inductive Place where
  | outside
  | within
  | escaped

/-- The characters of a text that stand outside of its strings. -/
def letters : Place → List Char → List Char
  | _, [] => []
  | .outside, c :: rest => if c = '"' then letters .within rest else c :: letters .outside rest
  | .within, c :: rest =>
    if c = '"' then letters .outside rest
    else if c = '\\' then letters .escaped rest
    else letters .within rest
  | .escaped, _ :: rest => letters .within rest

/-- The text ends outside of its strings, and has these characters there. -/
def Leaves (cs found : List Char) : Prop :=
  ∀ rest, letters .outside (cs ++ rest) = found ++ letters .outside rest

theorem Leaves.eq {cs found : List Char} (leaves : Leaves cs found) : letters .outside cs = found := by
  have whole := leaves []
  rwa [List.append_nil, letters, List.append_nil] at whole

theorem Leaves.append {cs ds found others : List Char} (first : Leaves cs found)
    (second : Leaves ds others) : Leaves (cs ++ ds) (found ++ others) := by
  intro rest
  rw [List.append_assoc, first, second, List.append_assoc]

theorem leaves_unquoted {cs : List Char} (unquoted : '"' ∉ cs) : Leaves cs cs := by
  intro rest
  induction cs with
  | nil => rfl
  | cons c cs ih =>
    rcases List.ne_and_not_mem_of_not_mem_cons unquoted with ⟨other, later⟩
    rw [List.cons_append, letters, if_neg (Ne.symm other), ih later, List.cons_append]

theorem letters_ordinary {cs : List Char} (ordinary : ∀ c ∈ cs, c ≠ '"' ∧ c ≠ '\\')
    (rest : List Char) : letters .within (cs ++ rest) = letters .within rest := by
  induction cs with
  | nil => rfl
  | cons c cs ih =>
    rcases List.forall_mem_cons.mp ordinary with ⟨⟨quote, backslash⟩, later⟩
    rw [List.cons_append, letters, if_neg quote, if_neg backslash, ih later]

theorem ordinary_of_isHexDigit {c : Char} (digit : isHexDigit c = true) : c ≠ '"' ∧ c ≠ '\\' := by
  constructor <;> (rintro rfl; exact absurd digit (by decide))

/-- A string goes on up to its own closing quote. -/
theorem letters_chars {cs : List Char} (chars : IsChars cs) (rest : List Char) :
    letters .within (cs ++ '"' :: rest) = letters .outside rest := by
  induction chars with
  | nil => rfl
  | plain quote backslash _ _ ih => rw [List.cons_append, letters, if_neg quote, if_neg backslash, ih]
  | named _ _ ih =>
    rw [List.cons_append, List.cons_append, letters, if_neg (by decide), if_pos rfl, letters, ih]
  | @unit digits cs _ digit _ ih =>
    have ordinary := letters_ordinary (fun c member => ordinary_of_isHexDigit (digit c member))
      (cs ++ '"' :: rest)
    rw [List.cons_append, List.cons_append, letters, if_neg (by decide), if_pos rfl, letters,
      List.append_assoc, ordinary, ih]

theorem leaves_string {cs : List Char} (chars : IsChars cs) : Leaves ('"' :: (cs ++ ['"'])) [] := by
  intro rest
  rw [List.cons_append, List.append_assoc, letters, if_pos rfl]
  exact letters_chars chars rest

/-! ## Calm texts -/

/-- No character is a quote or one of the capitals that no name and no number has. -/
def Quiet (cs : List Char) : Prop :=
  ∀ c ∈ cs, c ≠ '"' ∧ c ≠ 'N' ∧ c ≠ 'I'

-- Named: an instance search can find one that runs through every character there is.
instance (cs : List Char) : Decidable (Quiet cs) :=
  List.decidableBAll (fun c : Char => c ≠ '"' ∧ c ≠ 'N' ∧ c ≠ 'I') cs

theorem Quiet.append {cs ds : List Char} (first : Quiet cs) (second : Quiet ds) : Quiet (cs ++ ds) :=
  List.forall_mem_append.mpr ⟨first, second⟩

/-- The text ends outside of its strings. -/
def Balanced (cs : List Char) : Prop := ∃ found, Leaves cs found

/-- So it does, and what stands there is quiet. -/
def Calm (cs : List Char) : Prop := ∃ found, Leaves cs found ∧ Quiet found

theorem Calm.balanced {cs : List Char} (calm : Calm cs) : Balanced cs := by
  rcases calm with ⟨found, leaves, -⟩
  exact ⟨found, leaves⟩

theorem Balanced.append {cs ds : List Char} (first : Balanced cs) (second : Balanced ds) :
    Balanced (cs ++ ds) := by
  rcases first with ⟨found, here⟩
  rcases second with ⟨others, there⟩
  exact ⟨_, here.append there⟩

theorem Calm.append {cs ds : List Char} (first : Calm cs) (second : Calm ds) : Calm (cs ++ ds) := by
  rcases first with ⟨found, here, quiet⟩
  rcases second with ⟨others, there, still⟩
  exact ⟨_, here.append there, quiet.append still⟩

/-- A text whose parts are balanced is calm only if each of them is. -/
theorem Calm.parts {cs ds : List Char} (calm : Calm (cs ++ ds)) (first : Balanced cs)
    (second : Balanced ds) : Calm cs ∧ Calm ds := by
  rcases calm with ⟨all, leaves, quiet⟩
  rcases first with ⟨found, here⟩
  rcases second with ⟨others, there⟩
  have same : all = found ++ others := leaves.eq.symm.trans (here.append there).eq
  rcases List.forall_mem_append.mp (same ▸ quiet) with ⟨before, behind⟩
  exact ⟨⟨found, here, before⟩, others, there, behind⟩

theorem calm_of_quiet {cs : List Char} (quiet : Quiet cs) : Calm cs :=
  ⟨cs, leaves_unquoted fun member => (quiet _ member).1 rfl, quiet⟩

theorem calm_string {cs : List Char} (chars : IsChars cs) : Calm ('"' :: (cs ++ ['"'])) :=
  ⟨[], leaves_string chars, nofun⟩

theorem Calm.quiet {cs : List Char} (calm : Calm cs) : Quiet (letters .outside cs) := by
  rcases calm with ⟨found, leaves, quiet⟩
  rw [leaves.eq]
  exact quiet

/-! ## What the rules allow -/

theorem quiet_blank {cs : List Char} (blank : IsBlank cs) : Quiet cs := by
  intro c member
  have space := blank c member
  refine ⟨?_, ?_, ?_⟩ <;> (rintro rfl; exact absurd space (by decide))

theorem IsDigits.quiet {cs : List Char} (digits : IsDigits cs) : Quiet cs := by
  intro c member
  have digit := digits.digit c member
  refine ⟨?_, ?_, ?_⟩ <;> (rintro rfl; exact absurd digit (by decide))

theorem IsFraction.quiet {cs : List Char} (fraction : IsFraction cs) : Quiet cs := by
  cases fraction with
  | none => exact nofun
  | some digits => exact List.forall_mem_cons.mpr ⟨by decide, digits.quiet⟩

theorem IsExponent.quiet {cs : List Char} (exponent : IsExponent cs) : Quiet cs := by
  cases exponent with
  | none => exact nofun
  | some marked signed digits =>
    refine List.forall_mem_cons.mpr ⟨?_, Quiet.append ?_ digits.quiet⟩
    · rcases marked with rfl | rfl <;> decide
    · rcases signed with rfl | rfl | rfl <;> decide

theorem IsMagnitude.quiet {cs : List Char} (magnitude : IsMagnitude cs) : Quiet cs := by
  cases magnitude with
  | of whole fraction exponent => exact whole.quiet.append (fraction.quiet.append exponent.quiet)

theorem IsNumber.quiet {cs : List Char} (number : IsNumber cs) : Quiet cs := by
  cases number with
  | plain magnitude => exact magnitude.quiet
  | minus magnitude => exact List.forall_mem_cons.mpr ⟨by decide, magnitude.quiet⟩

theorem calm_bracketed {opening closing : Char} {cs : List Char} (opens : Quiet [opening])
    (closes : Quiet [closing]) (calm : Calm cs) : Calm (opening :: (cs ++ [closing])) :=
  (calm_of_quiet opens).append (calm.append (calm_of_quiet closes))

theorem calm_intercalate {parts : List (List Char)} (each : ∀ part ∈ parts, Calm part) :
    Calm (List.intercalate [','] parts) := by
  induction parts with
  | nil => exact calm_of_quiet nofun
  | cons first rest ih =>
    rcases List.forall_mem_cons.mp each with ⟨here, there⟩
    cases rest with
    | nil =>
      rw [List.intercalate_singleton]
      exact here
    | cons next others =>
      rw [List.intercalate_cons_cons]
      exact (here.append (calm_of_quiet (by decide))).append (ih there)

theorem IsName.calm {cs : List Char} (name : IsName cs) : Calm cs := by
  cases name with
  | of before chars behind =>
    have string := (calm_string chars).append (calm_of_quiet (quiet_blank behind))
    rw [List.cons_append, List.append_assoc] at string
    exact (calm_of_quiet (quiet_blank before)).append string

/-- A JSON text has no such capital outside of its strings. -/
theorem IsText.calm {cs : List Char} (text : IsText cs) : Calm cs := by
  induction text with
  | null => exact calm_of_quiet (by decide)
  | true => exact calm_of_quiet (by decide)
  | false => exact calm_of_quiet (by decide)
  | number number => exact calm_of_quiet number.quiet
  | string chars => exact calm_string chars
  | emptyArray blank =>
    exact calm_bracketed (by decide) (by decide) (calm_of_quiet (quiet_blank blank))
  | array _ _ ih => exact calm_bracketed (by decide) (by decide) (calm_intercalate ih)
  | emptyObject blank =>
    exact calm_bracketed (by decide) (by decide) (calm_of_quiet (quiet_blank blank))
  | object _ names _ ih =>
    refine calm_bracketed (by decide) (by decide) (calm_intercalate ?_)
    refine List.forall_mem_map.mpr fun member listed => ?_
    have value : Calm (':' :: member.2) :=
      (calm_of_quiet (by decide : Quiet [':'])).append (ih member listed)
    exact (names member listed).calm.append value
  | amid before _ behind ih =>
    exact (calm_of_quiet (quiet_blank before)).append (ih.append (calm_of_quiet (quiet_blank behind)))

end Json
end RowReader
