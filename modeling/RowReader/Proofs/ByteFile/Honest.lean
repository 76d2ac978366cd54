import RowReader.Proofs.Action.Yields
import RowReader.Proofs.ByteFile.Framing

/-!
# Honest files

An honest file stands at a position over its bytes: seeking inside them moves it there, a read
returns what follows the position, and closing succeeds.  On such a file the framing checks are
functions of the bytes alone.
-/

namespace RowReader

open RowReader.Action

namespace ByteFile

variable {φ α : Type}

/-- `stands p s` says that in the state `s` the file is open and stands at the position `p`. -/
structure Honest (file : ByteFile φ) (bytes : List UInt8) (stands : Nat → φ → Prop) : Prop where
  seekStart : ∀ {p : Nat} {s : φ} {offset : Int}, stands p s → 0 ≤ offset →
    offset ≤ bytes.length →
    ∃ t, Yields (file.seek offset .start) s (.ok offset.toNat) t ∧ stands offset.toNat t
  seekStop : ∀ {p : Nat} {s : φ}, stands p s →
    ∃ t, Yields (file.seek 0 .stop) s (.ok bytes.length) t ∧ stands bytes.length t
  read : ∀ {p : Nat} {s : φ} (count : Nat), stands p s →
    ∃ t, Yields (file.read count) s (.ok (slice bytes p (p + count))) t ∧
      stands (p + (slice bytes p (p + count)).length) t
  close : ∀ {p : Nat} {s : φ}, stands p s → (file.close s).result = .ok ()

namespace Honest

variable {file : ByteFile φ} {bytes : List UInt8} {stands : Nat → φ → Prop} {p : Nat} {s : φ}

theorem readAt (honest : file.Honest bytes stands) (here : stands p s) (offset : Int) (count : Nat)
    (positive : 0 ≤ offset) (inside : offset ≤ bytes.length) :
    ∃ q t, Yields (file.readAt offset count) s
      (.ok (slice bytes offset.toNat (offset.toNat + count))) t ∧ stands q t := by
  rcases honest.seekStart here positive inside with ⟨t, moved, there⟩
  rcases honest.read count there with ⟨u, found, after⟩
  exact ⟨_, u, moved.bind found, after⟩

theorem rewind (honest : file.Honest bytes stands) (here : stands p s) :
    ∃ t, Yields file.rewind s (.ok ()) t ∧ stands 0 t := by
  rcases honest.seekStart here (Int.le_refl 0) (Int.natCast_nonneg _) with ⟨t, moved, there⟩
  exact ⟨t, moved.bind (yields_pure () t), there⟩

theorem slice_front (bytes : List UInt8) (count : Nat) :
    slice bytes 0 (0 + count) = bytes.take count := by
  simp [slice]

theorem slice_end {bytes : List UInt8} {count : Nat} (room : count ≤ bytes.length) :
    slice bytes ((bytes.length : Int) - count).toNat (((bytes.length : Int) - count).toNat + count) =
      bytes.drop (bytes.length - count) := by
  have place : ((bytes.length : Int) - count).toNat = bytes.length - count := by omega
  rw [place, slice, Nat.add_sub_cancel_left]
  apply List.take_of_length_le
  rw [List.length_drop]
  omega

/-- The magic check of an honest file says what its bytes say. -/
theorem checkMagic (honest : file.Honest bytes stands) (here : stands p s) :
    ∃ q t, Yields file.checkMagic s (magicCheck bytes) t ∧ stands q t := by
  rcases honest.seekStop here with ⟨t, sized, atEnd⟩
  by_cases small : bytes.length < minFileSize
  · refine ⟨_, t, ?_, atEnd⟩
    rw [magicCheck, if_pos small]
    apply Yields.bind sized
    rw [if_pos small]
    exact yields_fail _ t
  · have magicLength : magic.length = 4 := rfl
    have leastSize : minFileSize = 12 := rfl
    rcases honest.readAt atEnd 0 magic.length (by omega) (by omega) with ⟨_, u, header, there⟩
    rcases honest.readAt there ((bytes.length : Int) - magic.length)
        magic.length (by omega) (by omega) with ⟨_, v, trailer, after⟩
    rcases honest.rewind after with ⟨x, rewound, front⟩
    rw [Int.toNat_zero, slice_front] at header
    rw [slice_end (by omega)] at trailer
    refine ⟨0, x, ?_, front⟩
    rw [magicCheck, if_neg small]
    apply Yields.bind sized
    rw [if_neg small]
    refine Yields.bind header (Yields.bind trailer (Yields.bind rewound ?_))
    cases expectMagic .header (bytes.take magic.length) with
    | error e => exact (yields_ofExcept (.error e) x).bind_error
    | ok _ =>
      apply (yields_ofExcept (.ok ()) x).bind
      cases expectMagic .footer (bytes.drop (bytes.length - magic.length)) with
      | error e => exact (yields_ofExcept (.error e) x).bind_error
      | ok _ => exact (yields_ofExcept (.ok ()) x).bind (yields_pure _ x)

/-- The footer check of an honest file says what its bytes say, and leaves it at its front. -/
theorem checkFooter (honest : file.Honest bytes stands) (here : stands p s)
    (room : trailerSize ≤ bytes.length) :
    ∃ t, Yields file.checkFooter s (footerCheck bytes) t ∧ stands 0 t := by
  rcases honest.seekStop here with ⟨t, sized, atEnd⟩
  rcases honest.readAt atEnd ((bytes.length : Int) - trailerSize)
      trailerSize (by omega) (by omega) with ⟨_, u, trailer, there⟩
  rcases honest.rewind there with ⟨v, rewound, front⟩
  rw [slice_end room] at trailer
  refine ⟨v, ?_, front⟩
  refine Yields.bind sized (Yields.bind trailer (Yields.bind rewound ?_))
  exact yields_ofExcept _ v

end Honest

/-- A file whose footer is found in order as often as it is checked, and which closes. -/
structure Intact (file : ByteFile φ) (stands : φ → Prop) : Prop where
  checkFooter : ∀ {s : φ}, stands s →
    ∃ length t, Yields file.checkFooter s (.ok length) t ∧ stands t
  close : ∀ {s : φ}, stands s → (file.close s).result = .ok ()

end ByteFile
end RowReader
