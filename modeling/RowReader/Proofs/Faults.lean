import RowReader.FileSystem
import RowReader.Proofs.Action.Collect
import RowReader.Proofs.Decoded.Groups
import RowReader.Reader

/-!
# Faults of collaborators

A local file is read with the help of an operating system and a decoder.  Whatever is wrong with a
path, the system says so, unless the path cannot be handed to it at all because it contains a null
character.  A decoder is tame if it fails with faults of its own and, in some places, of the system
or of a bad value; nothing is asked of the physical types that it names.
-/

namespace RowReader

/-- The error is a fault of this sort. -/
def Error.FaultOf (sort : Fault → Bool) (e : Error) : Prop :=
  ∃ f, e = .fault f ∧ sort f = true

/-! ## The operating system -/

namespace FileSystem

variable {fs : FileSystem}

theorem faultOf_systemError (kind : SystemFault) (code : Nat) (reason name : String) :
    (systemError kind code reason name).FaultOf Fault.isSystem :=
  ⟨_, rfl, rfl⟩

theorem follow_error {whole part : String} {spot : Spot} {e : Error}
    (failed : fs.follow whole spot part = .error e) : e.FaultOf Fault.isSystem := by
  cases spot with
  | file content =>
    cases failed
    exact faultOf_systemError _ _ _ _
  | directory path =>
    unfold follow at failed
    dsimp only at failed
    split at failed
    · cases failed
    · split at failed
      · cases failed
      · split at failed
        · cases failed
          exact faultOf_systemError _ _ _ _
        · split at failed
          · cases failed
          · cases failed
          · split at failed
            · cases failed
            · cases failed
              exact faultOf_systemError _ _ _ _

theorem foldlM_follow_error {whole : String} {parts : List String} {spot : Spot} {e : Error}
    (failed : parts.foldlM (fs.follow whole) spot = .error e) : e.FaultOf Fault.isSystem := by
  induction parts generalizing spot with
  | nil => cases failed
  | cons part rest ih =>
    rw [List.foldlM_cons] at failed
    cases step : fs.follow whole spot part with
    | error other =>
      rw [step] at failed
      cases failed
      exact follow_error step
    | ok further =>
      rw [step] at failed
      exact ih failed

theorem look_error {path : String} {e : Error} (readable : '\x00' ∉ path.toList)
    (failed : fs.look path = .error e) : e.FaultOf Fault.isSystem := by
  have known : path.toList.contains '\x00' = false := by simpa using readable
  unfold look at failed
  simp only [known] at failed
  split at failed
  · next impossible => cases impossible
  · split at failed
    · cases failed
      exact faultOf_systemError _ _ _ _
    · split at failed
      · cases failed
        exact faultOf_systemError _ _ _ _
      · generalize followed : List.foldlM (fs.follow path) _ _ = place at failed
        cases place with
        | error other =>
          cases failed
          exact foldlM_follow_error followed
        | ok spot => cases spot <;> cases failed

/-- A file that cannot be read is one the operating system has something to say about. -/
theorem read_error {path : String} {e : Error} (readable : '\x00' ∉ path.toList)
    (failed : fs.read path = .error e) : e.FaultOf Fault.isSystem := by
  unfold read at failed
  cases looked : fs.look path with
  | error other =>
    rw [looked] at failed
    cases failed
    exact look_error readable looked
  | ok entry =>
    rw [looked] at failed
    cases entry with
    | file content => cases failed
    | directory =>
      cases failed
      exact faultOf_systemError _ _ _ _

end FileSystem

/-! ## The decoder -/

/-- A fault that constructing a decoder or reading pages may meet. -/
def Fault.ofParsing (f : Fault) : Bool :=
  f.isDecoder || f.isSystem || f.isValue

/-- A fault that describing the fields may meet; a physical type that is not known is a missing
key. -/
def Fault.ofDescribing (f : Fault) : Bool :=
  f.isDecoder || f.isKey || f.isValue

/-- Converting a column fails with no fault but the decoder's own. -/
def Table.Tame (t : Table) : Prop :=
  ∀ column ∈ t.columns, ∀ e, column.values = .error e → e.FaultOf Fault.isDecoder

/-- The decoder of a file fails only with such faults as it may meet in each place, and each of its
columns has as many values as its table has rows. -/
structure DecodedFile.Tame (d : DecodedFile) : Prop where
  leaves : ∀ e, d.leaves = .error e → e.FaultOf Fault.isDecoder
  tables : ∀ g ∈ d.groups, ∀ e, g.table = .error e → e.FaultOf Fault.ofParsing
  columns : ∀ g ∈ d.groups, ∀ t, g.table = .ok t → t.Tame
  sized : ∀ g ∈ d.groups, g.Sized
  closes : ∀ e, d.closeError = some e → e.FaultOf Reader.harmlessInDecoder

/-- What the decoder makes of a content is tame, whatever the bytes are. -/
structure Content.Tame (content : Content) : Prop where
  parsing : ∀ e, content.decoding = .error e → e.FaultOf Fault.ofParsing
  decoded : ∀ d, content.decoding = .ok d → d.Tame

theorem Table.Tame.project {t : Table} (tame : t.Tame) (selection : Selection)
    (columns : Option (List String)) : (selection.project columns t).Tame := by
  intro part chosen e fails
  rcases selection.fails_project chosen fails with ⟨column, member, same⟩
  exact tame column member e same

/-- The fields of a tame file cannot be described only because its columns cannot be read, or for
want of a physical type. -/
theorem DecodedFile.Tame.allFields_error {d : DecodedFile} (tame : d.Tame) {e : Error}
    (failed : d.allFields = .error e) : e.FaultOf Fault.ofDescribing := by
  unfold allFields at failed
  cases read : d.leaves with
  | error other =>
    rw [read] at failed
    cases failed
    rcases tame.leaves e read with ⟨f, rfl, own⟩
    exact ⟨f, rfl, by simp [Fault.ofDescribing, own]⟩
  | ok leaves =>
    rw [read] at failed
    rcases exists_error_of_mapM failed with ⟨field, -, undescribed⟩
    unfold fieldFrom columnField at undescribed
    split at undescribed
    · cases undescribed
    · split at undescribed
      · cases undescribed
        exact ⟨_, rfl, rfl⟩
      · cases undescribed

end RowReader
