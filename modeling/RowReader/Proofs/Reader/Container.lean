import RowReader.Proofs.ByteFile.Layout
import RowReader.Proofs.Reader.Failures
import RowReader.Proofs.World.Stored

/-!
# The container that a reader accepts

A file that seeks and reads honestly is judged by its bytes.  Opening it is a matter of their ends,
and the check of the footer a matter of their layout, in whatever state the file then is.  Closing
it may go wrong in any way: this matters only where opening fails, since then the file is closed.
-/

namespace RowReader

open RowReader.Action

variable {φ : Type} {file : ByteFile φ} {bytes : List UInt8} {stands : Nat → φ → Prop} {p : Nat}
  {s : φ}

/-- The file is honest but for the closing, of which nothing is said. -/
def ByteFile.ReadsHonestly (file : ByteFile φ) (bytes : List UInt8) (stands : Nat → φ → Prop) :
    Prop :=
  { file with close := pure () : ByteFile φ }.Honest bytes stands

theorem ByteFile.Honest.readsHonestly (honest : file.Honest bytes stands) :
    file.ReadsHonestly bytes stands :=
  ⟨honest.seekStart, honest.seekStop, honest.read, fun _ => rfl⟩

namespace ByteFile.ReadsHonestly

theorem checkMagic (honest : file.ReadsHonestly bytes stands) (here : stands p s) :
    ∃ q t, Yields file.checkMagic s (magicCheck bytes) t ∧ stands q t := by
  have whole : Honest { file with close := pure () } bytes stands := honest
  exact whole.checkMagic here

theorem checkFooter (honest : file.ReadsHonestly bytes stands) (here : stands p s)
    (room : trailerSize ≤ bytes.length) :
    ∃ t, Yields file.checkFooter s (footerCheck bytes) t ∧ stands 0 t := by
  have whole : Honest { file with close := pure () } bytes stands := honest
  exact whole.checkFooter here room

end ByteFile.ReadsHonestly

theorem EndsFail.kind_eq {e : Error} (fails : EndsFail bytes e) : e.kind? = some .opening :=
  (magicCheck_error (magicCheck_of_endsFail fails)).1

namespace Reader

/-- A file with its ends in order opens. -/
theorem openFile_of_ends (honest : file.ReadsHonestly bytes stands) (here : stands p s)
    (ends : Ends bytes) (name : String) (options : Options) (decoding : Decoding) :
    ∃ q t, stands q t ∧
      Yields (openFile file name options decoding) s (.ok { name, options, decoding }) t := by
  rcases honest.checkMagic here with ⟨q, t, checked, there⟩
  rw [magicCheck_of_ends ends] at checked
  exact ⟨q, t, there, openFile_framed options decoding checked⟩

/-- Any other file does not open, for the first reason that there is.  An error of closing it counts
more if it is no fault of the system. -/
theorem openFile_of_endsFail (honest : file.ReadsHonestly bytes stands) (here : stands p s)
    {e : Error} (fails : EndsFail bytes e) (name : String) (options : Options)
    (decoding : Decoding) :
    ∃ q t, stands q t ∧
      Yields (openFile file name options decoding) s
        (lastly (.error e) (tolerated Fault.isSystem (file.close t).result))
        (file.close t).state := by
  have judged := magicCheck_of_endsFail fails
  rcases honest.checkMagic here with ⟨q, t, checked, there⟩
  rw [judged] at checked
  exact ⟨q, t, there, openFile_reported options decoding checked ((magicCheck_error judged).2 name)⟩

theorem openFile_isOk_iff (honest : file.ReadsHonestly bytes stands) (here : stands p s)
    (name : String) (options : Options) (decoding : Decoding) :
    (∃ r, (openFile file name options decoding s).result = .ok r) ↔ Ends bytes := by
  constructor
  · rintro ⟨r, opened⟩
    rcases ends_or_endsFail bytes with ends | ⟨e, fails⟩
    · exact ends
    · rcases openFile_of_endsFail honest here fails name options decoding with ⟨q, t, -, failed⟩
      rw [failed.result] at opened
      exact absurd opened (lastly_error_ne_ok e _ r)
  · intro ends
    rcases openFile_of_ends honest here ends name options decoding with ⟨q, t, -, opened⟩
    exact ⟨_, opened.result⟩

/-- The check of the footer of a file with its ends in order. -/
theorem checkFooter_of_ends (honest : file.ReadsHonestly bytes stands) (ends : Ends bytes)
    (here : stands p s) :
    (∀ length, (file.checkFooter s).result = .ok length ↔
      ∃ body footer, Framed bytes body footer ∧ footer.length = length) ∧
    ∀ e, (file.checkFooter s).result = .error e → e.kind? = some .schema := by
  have room := trailerSize_le_of_magicCheck (magicCheck_of_ends ends)
  rcases honest.checkFooter here room with ⟨t, checked, -⟩
  rw [checked.result]
  exact ⟨footerCheck_eq_ok_iff ends.front ends.back, fun e failed => (footerCheck_error failed).1⟩

/-- What a reader accepts of a file that seeks and reads honestly.

It opens exactly if its bytes are at least twelve and begin and end with the magic.  Otherwise the
first of these conditions that is not met is reported as a trouble with opening, once the file has
been closed; only an error of this closing that is no fault of the system comes before it.

If it opens, the check of its footer gives a length exactly if the bytes are the magic, a body, a
footer of this length that is not empty, the length in four bytes and the magic again, and any other
outcome is an error of the schema.  There is one way at most to see the bytes like this, and the
footer in it lies behind the magic at the front and right before the trailer. -/
theorem accepts_framed (honest : file.ReadsHonestly bytes stands) (here : stands p s)
    (name : String) (options : Options) (decoding : Decoding) :
    ((∃ r, (openFile file name options decoding s).result = .ok r) ↔ Ends bytes) ∧
    (¬ Ends bytes → ∃ e, EndsFail bytes e ∧ e.kind? = some .opening ∧
      ∃ q t, stands q t ∧ Yields (openFile file name options decoding) s
        (lastly (.error e) (tolerated Fault.isSystem (file.close t).result)) (file.close t).state) ∧
    (Ends bytes →
      (∃ q t, stands q t ∧
        Yields (openFile file name options decoding) s (.ok { name, options, decoding }) t) ∧
      ∀ q t, stands q t →
        (∀ length, (file.checkFooter t).result = .ok length ↔
          ∃ body footer, Framed bytes body footer ∧ footer.length = length) ∧
        ∀ e, (file.checkFooter t).result = .error e → e.kind? = some .schema) ∧
    ∀ body footer, Framed bytes body footer →
      (∀ body' footer', Framed bytes body' footer' → body' = body ∧ footer' = footer) ∧
      magic.length ≤ bytes.length - trailerSize - footer.length ∧
      slice bytes (bytes.length - trailerSize - footer.length) (bytes.length - trailerSize) =
        footer := by
  refine ⟨openFile_isOk_iff honest here name options decoding, ?_, ?_, ?_⟩
  · intro other
    rcases (ends_or_endsFail bytes).resolve_left other with ⟨e, fails⟩
    exact ⟨e, fails, fails.kind_eq, openFile_of_endsFail honest here fails name options decoding⟩
  · intro ends
    exact ⟨openFile_of_ends honest here ends name options decoding,
      fun q t there => checkFooter_of_ends honest ends there⟩
  · intro body footer framed
    exact ⟨fun _ _ other => framed.unique other, framed.region⟩

def zeros : List UInt8 := List.replicate 12 0

/-- The least file opens, and its footer is accepted.  With a length for which there is no room it
opens as well, but then its footer is refused.  Of twelve zeros it is the front that is reported. -/
theorem accepts_framed_of_least :
    let opening := fun bytes : List UInt8 =>
      openFile MemoryFile.file "f" Options.standard (.error .notAUrl) { bytes }
    let footer := fun bytes : List UInt8 => MemoryFile.file.checkFooter { bytes }
    (∃ r, (opening (leastStating 1)).result = .ok r) ∧
    (footer (leastStating 1)).result = .ok 1 ∧
    (∃ r, (opening (leastStating 2)).result = .ok r) ∧
    (∃ e, (footer (leastStating 2)).result = .error e ∧ e.kind? = some .schema) ∧
    (opening zeros).result = .error (.wrongMagic .header [0, 0, 0, 0]) := by
  intro opening footer
  have here (bytes : List UInt8) : MemoryFile.At bytes 0 { bytes } := rfl
  have accepts (bytes : List UInt8) := accepts_framed (MemoryFile.honest bytes).readsHonestly
    (here bytes) "f" Options.standard (.error .notAUrl)
  have one : Ends (leastStating 1) := ⟨by decide, by decide, by decide⟩
  have two : Ends (leastStating 2) := ⟨by decide, by decide, by decide⟩
  have framed : Framed (leastStating 1) [] [7] := ⟨rfl, by decide, by decide⟩
  have refused : (footer (leastStating 2)).result = .error (.footerLength 2 13) := by rfl
  refine ⟨(accepts _).1.mpr one, ?_, (accepts _).1.mpr two, ?_, ?_⟩
  · have checks := ((accepts _).2.2.1 one).2 0 _ (here _)
    exact (checks.1 1).mpr ⟨[], [7], framed, rfl⟩
  · have checks := ((accepts _).2.2.1 two).2 0 _ (here _)
    exact ⟨_, refused, checks.2 _ refused⟩
  · have other : ¬ Ends zeros := fun ends => absurd ends.front (by decide)
    rcases (accepts zeros).2.1 other with ⟨e, fails, -, q, t, there, failed⟩
    have closes : (MemoryFile.file.close t).result = .ok () := (MemoryFile.honest zeros).close there
    rw [closes] at failed
    cases fails with
    | size small => exact absurd small (by decide)
    | header large front => exact failed.result
    | trailer large front back => exact absurd front (by decide)

end Reader
end RowReader
