import RowReader.Proofs.Remote.RangeFile
import RowReader.Proofs.World.Stored

/-!
# Ranged files in the world

A file that is read by ranges from a faithful server is honest: it stands at a position over the
bytes that the server holds, and no request for them fails.  Whatever the cache holds, what is read
is the same.
-/

namespace RowReader

open RowReader.Action

variable {ω α : Type}

namespace Handle

/-- An open ranged file over these bytes at this position, with its server in order. -/
def RangedAt (url : String) (bytes : List UInt8) (good : ω → Prop) (p : Nat)
    (both : Handle × World ω) : Prop :=
  ∃ f w, both = (.ranged f, w) ∧ RangeFile.Sound .faithful url bytes f ∧ f.position = p ∧
    good w.server

/-- Acting on a ranged file reaches the server of the world. -/
theorem act_ranged {ranged : Action (RangeFile × ω) α} {f g : RangeFile} {w : World ω} {server : ω}
    {r : Except Error α} (stored : Action MemoryFile α)
    (ends : Yields ranged (f, w.server) r (g, server)) :
    Yields (act stored ranged) (.ranged f, w) r (.ranged g, { w with server }) := by
  constructor
  · exact ends.result
  · simp only [act, Outcome.mapState_state, ends.state]

theorem ranged_honest {srv : Server ω} {url : String} {bytes : List UInt8} {good : ω → Prop}
    (holds : srv.Holds url bytes .faithful good) :
    (file srv).Honest bytes (RangedAt url bytes good) where
  seekStart := by
    rintro p s offset ⟨f, w, rfl, sound, -, here⟩ positive inside
    have sought := act_ranged (MemoryFile.seek offset .start)
      (RangeFile.seek_yields f w.server offset .start)
    have place : f.clamp (f.target offset .start) = offset.toNat := by
      rw [sound.clamp_eq, RangeFile.target, Cursor.inside]
      omega
    rw [place] at sought
    have within : offset.toNat ≤ bytes.length := by omega
    exact ⟨_, sought, _, _, rfl, sound.at_position within, rfl, here⟩
  seekStop := by
    rintro p s ⟨f, w, rfl, sound, -, here⟩
    have sought := act_ranged (MemoryFile.seek 0 .stop)
      (RangeFile.seek_yields f w.server 0 .stop)
    have place : f.clamp (f.target 0 .stop) = bytes.length := by
      rw [sound.clamp_eq, RangeFile.target, Cursor.inside, sound.size_eq]
      omega
    rw [place] at sought
    exact ⟨_, sought, _, _, rfl, sound.at_position (Nat.le_refl _), rfl, here⟩
  read := by
    rintro p s count ⟨f, w, rfl, sound, rfl, here⟩
    have window : Cursor.window bytes f.position (some count) =
        slice bytes f.position (f.position + count) := by
      rw [Cursor.window, if_neg (by omega), slice, Nat.add_sub_cancel_left, Int.toNat_natCast]
    rcases RangeFile.read_yields holds sound here (some count)
      with ⟨server, there, ⟨data, g, whole, sound', further, reads⟩ | ⟨_, _, _, impossible, _⟩⟩
    · have all : data = slice bytes f.position (f.position + count) := whole.trans window
      subst all
      exact ⟨_, act_ranged (MemoryFile.read count) reads, _, _, rfl, sound', further, there⟩
    · exact impossible.elim
  close := by
    rintro p s ⟨f, w, rfl, -, -, -⟩
    rfl

end Handle

namespace World

variable {srv : Server ω} {url : String} {w : World ω} {server : ω}

/-- Asking the server for the file of a URL. -/
def connecting (srv : Server ω) (url : String) : Action ω RangeFile :=
  RangeFile.connect srv url RangeFile.standardCapacity

theorem acquire_connected (named : Remote.isUrl url = true) {f : RangeFile}
    (connected : Yields (connecting srv url) w.server (.ok f) server) :
    Yields (acquire srv (.text url)) w (.ok (.ranged f, w.remote)) { w with server } := by
  have isUrl : (Location.text url).url? = some url := if_pos named
  have reached : Yields (onServer (connecting srv url)) w (.ok f) { w with server } :=
    connected.onPart
  unfold acquire
  simp only [isUrl]
  exact reached.bind ((yields_getState _).bind (yields_pure _ _))

theorem acquire_unconnected (named : Remote.isUrl url = true) {e : Error}
    (failed : Yields (connecting srv url) w.server (.error e) server) :
    Yields (acquire srv (.text url)) w (.error e) { w with server } := by
  have isUrl : (Location.text url).url? = some url := if_pos named
  have reached : Yields (onServer (connecting srv url)) w (.error e) { w with server } :=
    failed.onPart
  unfold acquire
  simp only [isUrl]
  exact reached.bind_error

/-- Opening a URL connects to the server, which a faithful one allows. -/
theorem acquire_ranged {bytes : List UInt8} {good : ω → Prop}
    (holds : srv.Holds url bytes .faithful good) (named : Remote.isUrl url = true)
    (here : good w.server) :
    ∃ handle w', Yields (acquire srv (.text url)) w (.ok (handle, w.remote)) w' ∧
      Handle.RangedAt url bytes good 0 (handle, w') := by
  have room : 0 ≤ RangeFile.standardCapacity := by decide
  rcases RangeFile.connect_yields holds named here with ⟨server, there, connects | ⟨_, fault, _⟩⟩
  · exact ⟨_, { w with server }, acquire_connected named connects, _, _, rfl,
      RangeFile.sound_of_fresh _ named room, rfl, there⟩
  · exact fault.elim

end World
end RowReader
