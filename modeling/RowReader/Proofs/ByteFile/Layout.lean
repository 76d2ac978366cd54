import RowReader.Proofs.ByteFile.Framing

/-!
# The layout of a file

What bytes can pass the framing checks, and in what way they can.  The check of the ends passes the
bytes that are long enough and have the magic at both ends, and otherwise reports the first of its
three conditions that fails.  The check of the footer passes the bytes that can be cut into magic,
body, footer, length of the footer and magic; there is at most one way to cut them.
-/

namespace RowReader

/-! ## Numbers in bytes -/

theorem littleEndian_cons (b : UInt8) (rest : List UInt8) :
    littleEndian (b :: rest) = b.toNat + 256 * littleEndian rest :=
  rfl

theorem littleEndian_lt (bytes : List UInt8) : littleEndian bytes < 256 ^ bytes.length := by
  induction bytes with
  | nil => exact Nat.one_pos
  | cons b rest ih =>
    have byte := b.toNat_lt
    rw [littleEndian_cons, List.length_cons, Nat.pow_succ]
    omega

/-- Bytes are the number that they write, in as many bytes. -/
theorem littleEndianBytes_littleEndian (bytes : List UInt8) :
    littleEndianBytes bytes.length (littleEndian bytes) = bytes := by
  induction bytes with
  | nil => rfl
  | cons b rest ih =>
    have byte := b.toNat_lt
    have low : UInt8.ofNat (b.toNat + 256 * littleEndian rest) = b := by
      apply UInt8.toNat_inj.mp
      rw [UInt8.toNat_ofNat']
      omega
    have high : (b.toNat + 256 * littleEndian rest) / 256 = littleEndian rest := by omega
    rw [littleEndian_cons, List.length_cons, littleEndianBytes, low, high, ih]

/-! ## The ends of a file -/

/-- The bytes are long enough and have the magic at both ends. -/
structure Ends (bytes : List UInt8) : Prop where
  large : minFileSize ≤ bytes.length
  front : magic <+: bytes
  back : magic <:+ bytes

/-- The first condition on the ends of a file that its bytes do not meet. -/
inductive EndsFail (bytes : List UInt8) : Error → Prop where
  | size (small : bytes.length < minFileSize) : EndsFail bytes (.tooSmall bytes.length)
  | header (large : minFileSize ≤ bytes.length) (other : ¬ magic <+: bytes) :
      EndsFail bytes (.wrongMagic .header (bytes.take magic.length))
  | trailer (large : minFileSize ≤ bytes.length) (front : magic <+: bytes)
      (other : ¬ magic <:+ bytes) :
      EndsFail bytes (.wrongMagic .footer (bytes.drop (bytes.length - magic.length)))

theorem expectMagic_eq {found : List UInt8} (same : magic = found) (fileEnd : FileEnd) :
    ByteFile.expectMagic fileEnd found = .ok () :=
  if_pos same.symm

theorem expectMagic_ne {found : List UInt8} (other : ¬ magic = found) (fileEnd : FileEnd) :
    ByteFile.expectMagic fileEnd found = .error (.wrongMagic fileEnd found) :=
  if_neg fun same => other same.symm

theorem magicCheck_of_ends {bytes : List UInt8} (ends : Ends bytes) :
    magicCheck bytes = .ok bytes.length := by
  rw [magicCheck, if_neg (Nat.not_lt.mpr ends.large),
    expectMagic_eq (List.prefix_iff_eq_take.mp ends.front)]
  dsimp only
  rw [expectMagic_eq (List.suffix_iff_eq_drop.mp ends.back)]

theorem magicCheck_of_endsFail {bytes : List UInt8} {e : Error} (fails : EndsFail bytes e) :
    magicCheck bytes = .error e := by
  cases fails with
  | size small => exact if_pos small
  | header large other =>
    rw [List.prefix_iff_eq_take] at other
    rw [magicCheck, if_neg (Nat.not_lt.mpr large), expectMagic_ne other]
  | trailer large front other =>
    rw [List.suffix_iff_eq_drop] at other
    rw [magicCheck, if_neg (Nat.not_lt.mpr large),
      expectMagic_eq (List.prefix_iff_eq_take.mp front)]
    dsimp only
    rw [expectMagic_ne other]

/-- The ends are in order, or there is a first condition that they do not meet. -/
theorem ends_or_endsFail (bytes : List UInt8) : Ends bytes ∨ ∃ e, EndsFail bytes e := by
  by_cases small : bytes.length < minFileSize
  · exact Or.inr ⟨_, .size small⟩
  · have large := Nat.not_lt.mp small
    by_cases front : magic <+: bytes
    · by_cases back : magic <:+ bytes
      · exact Or.inl ⟨large, front, back⟩
      · exact Or.inr ⟨_, .trailer large front back⟩
    · exact Or.inr ⟨_, .header large front⟩

/-! ## The footer -/

namespace Framed

variable {bytes body footer body' footer' : List UInt8}

/-- The footer stands right before the trailer, and behind the magic at the front. -/
theorem region (framed : Framed bytes body footer) :
    magic.length ≤ bytes.length - trailerSize - footer.length ∧
      slice bytes (bytes.length - trailerSize - footer.length) (bytes.length - trailerSize) =
        footer := by
  have length := framed.length_eq
  have place : bytes.length - trailerSize - footer.length = (magic ++ body).length := by
    rw [List.length_append]
    omega
  have width : bytes.length - trailerSize - (magic ++ body).length = footer.length := by omega
  refine ⟨by rw [place, List.length_append]; omega, ?_⟩
  rw [place, slice, width, framed.layout]
  simp only [List.append_assoc]
  rw [← List.append_assoc magic body, List.drop_left, List.take_left]

/-- Bytes can be framed in one way only. -/
theorem unique (framed : Framed bytes body footer) (other : Framed bytes body' footer') :
    body' = body ∧ footer' = footer := by
  have same : footer'.length = footer.length :=
    Except.ok.inj (other.footerCheck_eq.symm.trans framed.footerCheck_eq)
  have footers : footer' = footer := by
    rw [← other.region.2, ← framed.region.2, same]
  have layouts := other.layout.symm.trans framed.layout
  rw [footers] at layouts
  simp only [List.append_cancel_right_eq, List.append_cancel_left_eq] at layouts
  exact ⟨layouts, footers⟩

end Framed

/-! ## What passes -/

theorem slice_append_slice (bytes : List UInt8) {i j k : Nat} (first : i ≤ j) (second : j ≤ k) :
    slice bytes i j ++ slice bytes j k = slice bytes i k := by
  have place : bytes.drop j = (bytes.drop i).drop (j - i) := by
    rw [List.drop_drop, Nat.add_sub_cancel' first]
  have width : k - i = (j - i) + (k - j) := by omega
  rw [slice, slice, slice, place, width, List.take_add]

/-- Bytes that are cut at four places are put together again. -/
theorem cut_at (bytes : List UInt8) {a b c d : Nat} (ab : a ≤ b) (bc : b ≤ c) (cd : c ≤ d) :
    bytes.take a ++ slice bytes a b ++ slice bytes b c ++ slice bytes c d ++ bytes.drop d =
      bytes := by
  have front (i : Nat) : bytes.take i = slice bytes 0 i := rfl
  rw [front, slice_append_slice bytes (Nat.zero_le a) ab,
    slice_append_slice bytes (Nat.zero_le b) bc, slice_append_slice bytes (Nat.zero_le c) cd, ← front,
    List.take_append_drop]

theorem length_slice {bytes : List UInt8} {i j : Nat} (inside : j ≤ bytes.length) :
    (slice bytes i j).length = j - i := by
  rw [slice, List.length_take, List.length_drop]
  omega

/-- What the check of the footer passes is stated in the trailer, and there is room for it. -/
theorem footerLengthIn_eq_ok {size length : Nat} {trailer : List UInt8}
    (passed : ByteFile.footerLengthIn size trailer = .ok length) :
    trailer.length = trailerSize ∧ littleEndian (trailer.take 4) = length ∧ 0 < length ∧
      length + trailerSize + magic.length ≤ size := by
  unfold ByteFile.footerLengthIn at passed
  split at passed
  · next whole =>
    dsimp only at passed
    split at passed
    · cases passed
    · next room =>
      rw [Except.ok.injEq] at passed
      rw [passed] at room
      exact ⟨whole, passed, by omega, by omega⟩
  · cases passed

/-- Bytes with the magic at both ends that pass the check of the footer are framed. -/
theorem framed_of_footerCheck {bytes : List UInt8} {length : Nat} (front : magic <+: bytes)
    (back : magic <:+ bytes) (passed : footerCheck bytes = .ok length) :
    ∃ body footer, Framed bytes body footer ∧ footer.length = length := by
  have magicLength : magic.length = 4 := rfl
  have trailerLength : trailerSize = 8 := rfl
  rcases footerLengthIn_eq_ok passed with ⟨-, stated, positive, room⟩
  let field := slice bytes (bytes.length - 8) (bytes.length - 4)
  let footer := slice bytes (bytes.length - 8 - length) (bytes.length - 8)
  have width : field.length = 4 := by
    rw [length_slice (Nat.sub_le _ _)]
    omega
  have count : footer.length = length := by
    rw [length_slice (Nat.sub_le _ _)]
    omega
  have there : field = (bytes.drop (bytes.length - trailerSize)).take 4 := by
    have four : bytes.length - 4 - (bytes.length - 8) = 4 := by omega
    simp only [field, slice, four, trailerLength]
  rw [← there] at stated
  have written : littleEndianBytes 4 length = field := by
    rw [← stated, ← width]
    exact littleEndianBytes_littleEndian field
  have fits : length < 2 ^ 32 := by
    have bound := littleEndian_lt field
    rw [width, stated] at bound
    exact bound
  refine ⟨slice bytes 4 (bytes.length - 8 - length), footer, ⟨?_, ?_, count ▸ fits⟩, count⟩
  · have pieces := cut_at bytes (a := 4) (b := bytes.length - 8 - length) (c := bytes.length - 8)
      (d := bytes.length - 4) (by omega) (by omega) (by omega)
    have first : bytes.take 4 = magic := (List.prefix_iff_eq_take.mp front).symm
    have last : bytes.drop (bytes.length - 4) = magic := (List.suffix_iff_eq_drop.mp back).symm
    rw [first, last] at pieces
    rw [count, written]
    exact pieces.symm
  · exact List.ne_nil_of_length_pos (count ▸ positive)

/-- The number that passes the check of the footer is the length of the footer in a layout of the
bytes. -/
theorem footerCheck_eq_ok_iff {bytes : List UInt8} (front : magic <+: bytes)
    (back : magic <:+ bytes) (length : Nat) :
    footerCheck bytes = .ok length ↔
      ∃ body footer, Framed bytes body footer ∧ footer.length = length := by
  constructor
  · exact framed_of_footerCheck front back
  · rintro ⟨body, footer, framed, rfl⟩
    exact framed.footerCheck_eq

/-- A footer of one byte and no body, under a length that may be another. -/
def leastStating (length : Nat) : List UInt8 :=
  magic ++ [7] ++ littleEndianBytes 4 length ++ magic

end RowReader
