import RowReader.ByteFile.Memory
import RowReader.FileSystem
import RowReader.Reader
import RowReader.Remote.RangeFile

/-!
# Files at locations

A location is opened in a world of local files and one server.  An open local file keeps the content
it had when it was opened, whatever happens to the file system since; the world counts such files.
An open remote file asks the server again and again.
-/

namespace RowReader

structure World (ω : Type) where
  files : FileSystem
  server : ω
  /-- What the decoder makes of the file behind the server. -/
  remote : Decoding
  /-- How many local files are open. -/
  openFiles : Nat := 0

/-- An open file. -/
inductive Handle where
  | stored (file : MemoryFile)
  | ranged (file : RangeFile)

namespace Handle

variable {ω α : Type}

/-- Acts on an open file, in one of two ways. -/
def act (stored : Action MemoryFile α) (ranged : Action (RangeFile × ω) α) :
    Action (Handle × World ω) α := fun (h, w) =>
  match h with
  | .stored f => (stored f).mapState fun f => (.stored f, w)
  | .ranged f =>
    (ranged (f, w.server)).mapState fun both => (.ranged both.1, { w with server := both.2 })

/-- Closes a file; a local one that was open is open no more. -/
def close : Action (Handle × World ω) Unit := fun (h, w) =>
  let wasOpen := match h with
    | .stored f => !f.closed
    | .ranged _ => false
  let w := if wasOpen then { w with openFiles := w.openFiles - 1 } else w
  act MemoryFile.close RangeFile.close (h, w)

def file (srv : Server ω) : ByteFile (Handle × World ω) where
  seek := fun offset whence => act (MemoryFile.seek offset whence) (RangeFile.seek offset whence)
  read := fun count =>
    act (MemoryFile.read count) (RangeFile.read srv (some (Int.ofNat count)))
  close := close

end Handle

namespace World

variable {ω : Type}

def onServer {α : Type} (act : Action ω α) : Action (World ω) α :=
  Action.onPart World.server (fun server w => { w with server }) act

/-- How an error of opening a local file is reported. -/
def openingError (name : String) : Error → Error
  | .fault f => if f.isSystem then .cannotOpen name f else .fault f
  | e => e

/-- Opens the file itself, and says what the decoder makes of it. -/
def acquire (srv : Server ω) (location : Location) : Action (World ω) (Handle × Decoding) := do
  match location.url? with
  | some url =>
    let file ← onServer (RangeFile.connect srv url RangeFile.standardCapacity)
    return (.ranged file, (← Action.getState).remote)
  | none =>
    let found := (← Action.getState).files.read location.name
    let content ← Action.ofExcept (found.mapError (openingError location.name))
    Action.modifyState fun w => { w with openFiles := w.openFiles + 1 }
    return (.stored { bytes := content.bytes }, content.decoding)

/-- Opens a location for one pass. -/
def openReader (srv : Server ω) (location : Location) (options : Options) :
    Action (World ω) (Reader × Handle) := do
  let (handle, decoding) ← acquire srv location
  Action.holding handle (Reader.openFile (Handle.file srv) location.name options decoding)

end World
end RowReader
