import Mathlib.Algebra.Group.Nat.Defs
import RowReader.Framing

/-!
# Framed bytes

What the framing checks make of the bytes of a whole file.  A file whose footer stands between its
body and a trailer with the footer's length, and that has the magic at both ends, passes them.
-/

namespace RowReader

/-- A number in a fixed count of bytes, low byte first. -/
def littleEndianBytes : (width : Nat) → Nat → List UInt8
  | 0, _ => []
  | width + 1, n => UInt8.ofNat n :: littleEndianBytes width (n / 256)

@[simp] theorem length_littleEndianBytes (width n : Nat) :
    (littleEndianBytes width n).length = width := by
  induction width generalizing n with
  | zero => rfl
  | succ width ih => simp [littleEndianBytes, ih]

theorem littleEndian_littleEndianBytes {width n : Nat} (fits : n < 256 ^ width) :
    littleEndian (littleEndianBytes width n) = n := by
  induction width generalizing n with
  | zero =>
    have zero : n = 0 := by simpa using fits
    rw [zero]
    rfl
  | succ width ih =>
    have smaller : n / 256 < 256 ^ width := by
      apply Nat.div_lt_of_lt_mul
      rw [Nat.mul_comm, ← Nat.pow_succ]
      exact fits
    have low : (UInt8.ofNat n).toNat = n % 256 := by simp
    have high := ih smaller
    simp only [littleEndian] at high ⊢
    rw [littleEndianBytes, List.foldr_cons, high, low]
    exact Nat.mod_add_div n 256

/-- A body and a footer with the magic around them; the footer's length is stated behind it. -/
structure Framed (bytes body footer : List UInt8) : Prop where
  layout : bytes = magic ++ body ++ footer ++ littleEndianBytes 4 footer.length ++ magic
  nonempty : footer ≠ []
  fits : footer.length < 2 ^ 32

/-- The size of a file, if it is large enough and begins and ends with the magic. -/
def magicCheck (bytes : List UInt8) : Except Error Nat :=
  if bytes.length < minFileSize then .error (.tooSmall bytes.length)
  else
    match ByteFile.expectMagic .header (bytes.take magic.length) with
    | .error e => .error e
    | .ok _ =>
      match ByteFile.expectMagic .footer (bytes.drop (bytes.length - magic.length)) with
      | .error e => .error e
      | .ok _ => .ok bytes.length

/-- The length of the footer, read from the end of a file. -/
def footerCheck (bytes : List UInt8) : Except Error Nat :=
  ByteFile.footerLengthIn bytes.length (bytes.drop (bytes.length - trailerSize))

/-- The end of a file, counted from behind. -/
theorem drop_end {bytes front rest : List UInt8} (layout : bytes = front ++ rest) :
    bytes.drop (bytes.length - rest.length) = rest := by
  have place : bytes.length - rest.length = front.length := by
    rw [layout, List.length_append, Nat.add_sub_cancel]
  rw [place, layout]
  exact List.drop_left

namespace Framed

variable {bytes body footer : List UInt8}

theorem length_eq (framed : Framed bytes body footer) :
    bytes.length = magic.length + body.length + footer.length + trailerSize := by
  have layout := congrArg List.length framed.layout
  simp only [List.length_append, length_littleEndianBytes] at layout
  simp only [trailerSize]
  have magicLength : magic.length = 4 := rfl
  omega

theorem minFileSize_le (framed : Framed bytes body footer) : minFileSize < bytes.length := by
  have length := framed.length_eq
  have positive := List.length_pos_iff.mpr framed.nonempty
  have magicLength : magic.length = 4 := rfl
  simp only [minFileSize, trailerSize] at length ⊢
  omega

theorem magicCheck_eq (framed : Framed bytes body footer) : magicCheck bytes = .ok bytes.length := by
  have large := framed.minFileSize_le
  have header : bytes.take magic.length = magic := by
    rw [framed.layout]
    simp
  have trailer : bytes.drop (bytes.length - magic.length) = magic := drop_end framed.layout
  rw [magicCheck, if_neg (by omega), header, trailer]
  rfl

theorem footerCheck_eq (framed : Framed bytes body footer) :
    footerCheck bytes = .ok footer.length := by
  have length := framed.length_eq
  have positive := List.length_pos_iff.mpr framed.nonempty
  have trailer : bytes.drop (bytes.length - trailerSize) =
      littleEndianBytes 4 footer.length ++ magic := by
    have layout := framed.layout
    rw [List.append_assoc _ _ magic] at layout
    exact drop_end layout
  have stated : littleEndian ((bytes.drop (bytes.length - trailerSize)).take 4) = footer.length := by
    rw [trailer, List.take_append_of_le_length (by simp), List.take_of_length_le (by simp)]
    exact littleEndian_littleEndianBytes framed.fits
  have whole : (bytes.drop (bytes.length - trailerSize)).length = trailerSize := by
    rw [trailer]
    rfl
  have room : ¬ (footer.length = 0 ∨ bytes.length < footer.length + trailerSize + magic.length) := by
    omega
  simp only [footerCheck, ByteFile.footerLengthIn, if_pos whole, stated, if_neg room]

end Framed
end RowReader
