import RowReader.RowFile.Stream

/-!
# Sessions with a row file

A row file in its world, with any number of named streams over it.  A name that is used again stands
for the new stream, and the old one is released.
-/

namespace RowReader

structure FileSession (ω : Type) where
  file : RowFile
  world : World ω
  streams : List (String × RowStream) := []

namespace FileSession

variable {ω α : Type}

/-- Acts on the row file and its world. -/
def onFile (act : Action (RowFile × World ω) α) : Action (FileSession ω) α :=
  Action.onPart (fun s => (s.file, s.world))
    (fun both s => { s with file := both.1, world := both.2 }) act

def onWorld (act : Action (World ω) α) : Action (FileSession ω) α :=
  Action.onPart FileSession.world (fun world s => { s with world }) act

def stream? (s : FileSession ω) (name : String) : Option RowStream :=
  (s.streams.find? fun entry => entry.1 == name).map Prod.snd

def put (s : FileSession ω) (name : String) (stream : RowStream) : FileSession ω :=
  { s with streams := s.streams.filter (fun entry => entry.1 != name) ++ [(name, stream)] }

/-- Acts on the stream of a name; without one nothing happens. -/
def onStream (name : String) (default : α) (act : Action (RowStream × World ω) α) :
    Action (FileSession ω) α := fun s =>
  match s.stream? name with
  | none => { result := .ok default, state := s }
  | some stream =>
    (act (stream, s.world)).mapState fun both => { s.put name both.1 with world := both.2 }

/-- The next row of a stream. -/
def next (srv : Server ω) (name : String) : Action (FileSession ω) (Option Row) := fun s =>
  onStream name none (RowStream.next srv s.file) s

def close (srv : Server ω) (name : String) : Action (FileSession ω) Unit :=
  onStream name () (RowStream.close srv)

def release (srv : Server ω) (name : String) : Action (FileSession ω) Unit :=
  onStream name () (RowStream.release srv)

/-- Begins a stream under a name. -/
def beginStream (srv : Server ω) (name : String) : Action (FileSession ω) Unit := do
  release srv name
  Action.modifyState fun s => s.put name .unopened

/-- Lets go of every stream. -/
def releaseAll (srv : Server ω) : Action (FileSession ω) Unit := do
  let s ← Action.getState
  s.streams.forM fun entry => release srv entry.1

/-- How many streams have begun to read and have not ended. -/
def runningStreams (s : FileSession ω) : Nat :=
  s.streams.countP fun entry =>
    match entry.2 with
    | .running _ => true
    | _ => false

end FileSession
end RowReader
