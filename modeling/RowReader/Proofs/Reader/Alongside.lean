import RowReader.Proofs.Action.InStep
import RowReader.Proofs.Faults
import RowReader.Proofs.Pass.Matching
import RowReader.Proofs.Reader.Ready

/-!
# Readers alongside each other

Two files that answer alike, call by call, may be states of very different systems: a file in memory
and a file in a world with other open files, for instance.  The same reader over either of them does
the same.  This takes no more than that the reader is the same code on both sides, so nothing is
asked of the bytes or of what the decoder makes of them, but for how it can be closed.
-/

namespace RowReader

open RowReader.Action

variable {φ ψ α : Type}

/-- The file answers as the other one does, as long as both stand like this. -/
structure ByteFile.Alongside (file : ByteFile φ) (file' : ByteFile ψ) (stands : φ → ψ → Prop) :
    Prop where
  seek : ∀ offset whence, InStep stands (file.seek offset whence) (file'.seek offset whence)
  read : ∀ count, InStep stands (file.read count) (file'.read count)
  close : ∀ s t, stands s t → (file.close s).result = .ok () ∧ (file'.close t).result = .ok ()

namespace ByteFile.Alongside

variable {file : ByteFile φ} {file' : ByteFile ψ} {stands : φ → ψ → Prop}
  (files : file.Alongside file' stands)

include files

theorem readAt (offset : Int) (count : Nat) :
    InStep stands (file.readAt offset count) (file'.readAt offset count) :=
  (files.seek offset .start).bind fun _ => files.read count

theorem rewind : InStep stands file.rewind file'.rewind :=
  (files.seek 0 .start).bind fun _ => inStep_pure ()

theorem checkMagic : InStep stands file.checkMagic file'.checkMagic := by
  refine (files.seek 0 .stop).bind fun size => ?_
  split
  · exact inStep_fail _
  · refine (files.readAt _ _).bind fun header => (files.readAt _ _).bind fun footer => ?_
    refine files.rewind.bind fun _ => (inStep_ofExcept _).bind fun _ => ?_
    exact (inStep_ofExcept _).bind fun _ => inStep_pure size

theorem checkFooter : InStep stands file.checkFooter file'.checkFooter := by
  refine (files.seek 0 .stop).bind fun size => (files.readAt _ _).bind fun trailer => ?_
  exact files.rewind.bind fun _ => inStep_ofExcept _

end ByteFile.Alongside

namespace Reader

/-- Closing what the decoder made of a file meets no more than a harmless fault. -/
def Closable (decoding : Decoding) : Prop :=
  ∀ d, decoding = .ok d → ∀ e, d.closeError = some e → e.FaultOf harmlessInDecoder

theorem closeAnswer_of_closable {r : Reader} (closable : Closable r.decoding) :
    r.closeAnswer = .ok () := by
  cases decoded : r.decoding with
  | ok d => exact closeAnswer_of_harmless decoded (closable d decoded)
  | error e =>
    rw [closeAnswer, decoderClosing, decoded]
    cases r.footerRead <;> rfl

/-- The same reader, which is open and can be closed, over either file. -/
structure Alongside (stands : φ → ψ → Prop) (both : Reader × φ) (both' : Reader × ψ) : Prop where
  same : both'.1 = both.1
  isOpen : both.1.closed = false
  closable : Closable both.1.decoding
  files : stands both.2 both'.2

section

variable {stands : φ → ψ → Prop}

theorem inStep_current :
    InStep (Alongside stands) (current : Action (Reader × φ) Reader) current := by
  intro both both' here
  exact ⟨congrArg Except.ok here.same.symm, here⟩

/-- Nothing is changed that opening or closing depends on. -/
theorem inStep_update {f : Reader → Reader}
    (kept : ∀ r, (f r).closed = r.closed ∧ (f r).decoding = r.decoding) :
    InStep (Alongside stands) (update f : Action (Reader × φ) Unit) (update f) := by
  rintro ⟨r, s⟩ ⟨_, t⟩ ⟨rfl, isOpen, closable, here⟩
  refine ⟨rfl, rfl, (kept _).1.trans isOpen, ?_, here⟩
  change Closable (f _).decoding
  rw [(kept _).2]
  exact closable

theorem inStep_onFile {act : Action φ α} {act' : Action ψ α} (both : InStep stands act act') :
    InStep (Alongside stands) (onFile act) (onFile act') := by
  rintro ⟨r, s⟩ ⟨_, t⟩ ⟨rfl, isOpen, closable, here⟩
  rcases both s t here with ⟨same, there⟩
  exact ⟨same, rfl, isOpen, closable, there⟩

theorem inStep_requireOpen :
    InStep (Alongside stands) (requireOpen : Action (Reader × φ) Reader) requireOpen := by
  refine inStep_current.bind fun r => ?_
  split
  · exact inStep_fail _
  · exact inStep_pure r

theorem inStep_takeGroup (index : Nat) (stored : StoredGroup) :
    InStep (Alongside stands) (takeGroup index stored : Action (Reader × φ) RowGroup)
      (takeGroup index stored) := by
  refine inStep_current.bind fun r => ?_
  split
  · exact inStep_fail _
  · refine InStep.bind (inStep_update ?_) fun _ => (inStep_ofExcept _).bind fun g => ?_
    · exact fun _ => ⟨rfl, rfl⟩
    · exact (inStep_note _ _ _).bind fun _ => inStep_pure g

theorem inStep_assembleRow (g : RowGroup) (schema : Schema) (i : Int) :
    InStep (Alongside stands) (assembleRow g schema i : Action (Reader × φ) (Row × RowGroup))
      (assembleRow g schema i) :=
  inStep_requireOpen.bind fun _ => (inStep_ofExcept _).bind fun _ => inStep_pure _

variable {file : ByteFile φ} {file' : ByteFile ψ} (files : file.Alongside file' stands)

include files

theorem inStep_footer : InStep (Alongside stands) (footer file) (footer file') := by
  refine inStep_requireOpen.bind fun r => ?_
  split
  · exact inStep_ofExcept _
  · refine ((inStep_onFile files.checkFooter).mapError _).bind fun _ => ?_
    refine ((inStep_ofExcept _).mapError _).bind fun d => ?_
    refine InStep.bind (inStep_update ?_) fun _ => ?_
    · exact fun _ => ⟨rfl, rfl⟩
    · exact (inStep_note _ _ _).bind fun _ => inStep_pure d

theorem inStep_readSchema : InStep (Alongside stands) (readSchema file) (readSchema file') := by
  refine inStep_requireOpen.bind fun r => ?_
  split
  · exact inStep_pure _
  · refine (inStep_footer files).bind fun d => (inStep_ofExcept _).bind fun schema => ?_
    refine InStep.bind (inStep_update ?_) fun _ => ?_
    · exact fun _ => ⟨rfl, rfl⟩
    · exact (inStep_note _ _ _).bind fun _ => inStep_pure schema

theorem inStep_nextRowGroup :
    InStep (Alongside stands) (nextRowGroup file) (nextRowGroup file') := by
  refine (inStep_footer files).bind fun d => inStep_current.bind fun r => ?_
  split
  · exact (inStep_note _ _ _).bind fun _ => inStep_pure none
  · refine InStep.bind (inStep_update ?_) fun _ => ?_
    · exact fun _ => ⟨rfl, rfl⟩
    · exact (inStep_takeGroup _ _).bind fun g => inStep_pure (some g)

theorem inStep_numRows : InStep (Alongside stands) (numRows file) (numRows file') :=
  (inStep_footer files).bind fun d => inStep_pure d.rows

theorem inStep_numRowGroups : InStep (Alongside stands) (numRowGroups file) (numRowGroups file') :=
  (inStep_footer files).bind fun d => inStep_pure d.groups.length

/-- An open reader closes quietly and closes its file. -/
theorem Alongside.close_yields {both : Reader × φ} {both' : Reader × ψ}
    (here : Alongside stands both both') :
    Yields (close file) both (.ok ()) (close file both).state ∧
      ∃ r, Yields (close file') both' (.ok ()) (r, (file'.close both'.2).state) := by
  rcases files.close _ _ here.files with ⟨closes, closes'⟩
  have answer := closeAnswer_of_closable here.closable
  rcases close_open here.isOpen closes with ⟨used, closed⟩
  rw [answer] at closed
  refine ⟨⟨closed.result, rfl⟩, ?_⟩
  rcases close_open (here.same ▸ here.isOpen) closes' with ⟨used', closed'⟩
  have answer' : both'.1.closeAnswer = .ok () := by rw [here.same, answer]
  simp only [fileAfterClose, answer'] at closed'
  exact ⟨_, closed'⟩

/-- As sources the readers match, and their errors are the same errors. -/
theorem source_alongside :
    (source file).Matches (source file') (Alongside stands) (fun _ => True) Eq where
  index := rfl
  numRows := rfl
  readSchema := by
    intro both both' here
    rcases inStep_readSchema files both both' here with ⟨same, there⟩
    exact ⟨same ▸ .refl _ fun _ _ => rfl, there⟩
  nextRowGroup := by
    intro both both' here
    rcases inStep_nextRowGroup files both both' here with ⟨same, there⟩
    refine ⟨same ▸ ?_, there⟩
    exact (Corresponds.refl _ fun _ _ => rfl).mono (fun _ _ => id) fun _ _ same =>
      ⟨same, fun _ _ => trivial⟩
  assembleRow := by
    intro both both' g i left schema here _
    rcases inStep_assembleRow g schema (Int.ofNat i) both both' here with ⟨same, there⟩
    refine ⟨same ▸ ?_, there⟩
    exact (Corresponds.refl _ fun _ _ => rfl).mono (fun _ _ => id) fun _ _ same =>
      ⟨same, trivial⟩
  rowWidth := fun _ _ _ _ => rfl
  outOfIteration := fun _ _ => congrArg Error.outOfIteration
  close := by
    intro both both' here
    rcases here.close_yields files with ⟨closed, r, closed'⟩
    change Corresponds Eq Eq (Reader.close file both).result (Reader.close file' both').result
    rw [closed.result, closed'.result]
    exact .ok rfl

end

end Reader
end RowReader
