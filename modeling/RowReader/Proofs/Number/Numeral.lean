import Mathlib.Algebra.Group.Nat.Defs
import Mathlib.Data.List.TakeWhile
import RowReader.Number.Numeral

/-!
# Numerals that were written

The decimal digits of a number are read as this number, unless there are more of them than may be
read.  The same limit decides which integers are written, so that whatever is written is read.
-/

namespace RowReader
namespace Number

open RowReader.Text

/-! ## Integers that are short enough -/

theorem short_iff {n : Int} : Short n ↔ n.natAbs < 10 ^ digitLimit :=
  Nat.length_toDigits_le_iff (by decide) (by decide)

/-- The least number that has too many digits. -/
theorem not_short_pow : ¬ Short (10 ^ digitLimit : Nat) := by
  rw [short_iff, Int.natAbs_natCast]
  exact Nat.lt_irrefl _

theorem writeInteger_of_short {n : Int} (short : Short n) : writeInteger n = .ok (toString n) :=
  if_pos short

theorem writeInteger_of_not {n : Int} (long : ¬ Short n) : writeInteger n = .error {} :=
  if_neg long

/-- There is only one way to be refused for an integer that is too long. -/
theorem overlong_of_not_ok {α : Type} {written : Except Overlong α}
    (refused : ¬ ∃ a, written = .ok a) : written = .error {} := by
  cases written with
  | error e => rfl
  | ok a => exact absurd ⟨a, rfl⟩ refused

/-! ## Reading what was written -/

section

variable {c : Char} (digit : c.isDigit = true)

include digit

theorem bounds_of_isDigit : 48 ≤ c.toNat ∧ c.toNat ≤ 57 := by
  simp only [Char.isDigit, Bool.and_eq_true, decide_eq_true_eq] at digit
  exact digit

theorem digitValue?_of_isDigit : digitValue? c = some (c.toNat - 48) := by
  rcases bounds_of_isDigit digit with ⟨low, high⟩
  let within := fun (first : Nat) => decide (first ≤ c.toNat) && decide (c.toNat < first + 10)
  have inside : within 0x30 = true := by
    simp only [within, Bool.and_eq_true, decide_eq_true_eq]
    omega
  have found : digitZeros.find? within = some 0x30 := List.find?_cons_of_pos inside
  rw [digitValue?, found]
  rfl

theorem isWhiteSpace_of_isDigit : isWhiteSpace c = false := by
  rcases bounds_of_isDigit digit with ⟨low, high⟩
  simp only [isWhiteSpace, Bool.or_eq_false_iff, Bool.and_eq_false_iff, decide_eq_false_iff_not,
    beq_eq_false_iff_ne]
  omega

end

/-- Digits without underscores have one value each. -/
theorem digitRun_of_isDigit {c : Char} {rest : List Char}
    (digits : ∀ d ∈ c :: rest, d.isDigit = true) :
    digitRun digitValue? (c :: rest) = some ((c :: rest).map fun d => d.toNat - 48) := by
  induction rest generalizing c with
  | nil => simp [digitRun, digitValue?_of_isDigit (digits c (by simp))]
  | cons next rest ih =>
    rcases List.forall_mem_cons.mp digits with ⟨here, there⟩
    have plain : next ≠ '_' := by
      rintro rfl
      exact absurd (there '_' (by simp)) (by decide)
    rw [digitRun, digitValue?_of_isDigit here, ih there]
    · rfl
    · rintro ⟨⟩
    · intro rest' same
      cases same
      exact plain rfl

theorem splitSign_of_isDigit {cs : List Char} (digits : ∀ d ∈ cs, d.isDigit = true) :
    splitSign cs = (false, cs) := by
  unfold splitSign
  split
  · exact absurd (digits '-' (by simp)) (by decide)
  · exact absurd (digits '+' (by simp)) (by decide)
  · rfl

theorem ofDigits_toDigits (n : Nat) :
    ofDigits ((Nat.toDigits 10 n).map fun d => d.toNat - 48) = n := by
  rw [ofDigits, List.foldl_map]
  exact Nat.ofDigitChars_eq_foldl.symm.trans Nat.ofDigitChars_ten_toDigits

/-- A number that is not too long is read back. -/
theorem readInteger_toString {n : Nat} (short : n < 10 ^ digitLimit) :
    readInteger (toString n) = .ok (Int.ofNat n) := by
  have digits : ∀ d ∈ Nat.toDigits 10 n, d.isDigit = true :=
    fun d member => Nat.isDigit_of_mem_toDigits (by decide) (by decide) member
  have length : (Nat.toDigits 10 n).length ≤ digitLimit :=
    (Nat.length_toDigits_le_iff (by decide) (by decide)).mpr short
  have written : (toString n).toList = Nat.toDigits 10 n := by
    rw [Nat.toString_eq_ofList_toDigits, String.toList_ofList]
  unfold readInteger
  rw [written]
  cases listed : Nat.toDigits 10 n with
  | nil => exact absurd listed Nat.toDigits_ne_nil
  | cons c rest =>
    have value := ofDigits_toDigits n
    rw [listed] at digits length value
    have stays : (c :: rest).dropWhile isWhiteSpace = c :: rest := by
      rw [List.dropWhile_cons_of_neg]
      simp [isWhiteSpace_of_isDigit (digits c (by simp))]
    have inside : ∀ d ∈ c :: rest, (d == '_' || (digitValue? d).isSome) = true := by
      intro d member
      simp [digitValue?_of_isDigit (digits d member)]
    simp only [stays, splitSign_of_isDigit digits, List.takeWhile_eq_self_iff.mpr inside,
      List.dropWhile_eq_nil_iff.mpr inside, digitRun_of_isDigit digits, List.length_map,
      if_neg (Nat.not_lt.mpr length), List.all_nil, if_true, value]
    rfl

end Number
end RowReader
