import RowReader.ByteFile.Memory

/-!
# Scripted files

A file in memory that follows a script of faults and records the calls it receives.  The calls of
each method are counted from one.  A call that fails is recorded too; closing a file that has been
closed is not.
-/

namespace RowReader

inductive FileCall where
  | seek (offset : Int) (whence : Whence)
  | read (count : Nat)
  | close
  deriving DecidableEq, Repr

namespace FileCall

/-- The call as a line of a record; an offset from the start stands alone. -/
def text : FileCall → String
  | seek offset .start => s!"seek({offset})"
  | seek offset .current => s!"seek({offset},1)"
  | seek offset .stop => s!"seek({offset},2)"
  | read count => s!"read({count})"
  | close => "close()"

end FileCall

inductive FileMethod where
  | seek
  | read
  | close
  deriving DecidableEq, Repr

def FileCall.method : FileCall → FileMethod
  | seek _ _ => .seek
  | read _ => .read
  | close => .close

inductive FileMishap where
  | raise (e : Error)
  | short (count : Nat)

/-- What goes wrong at the `nth` call of a method. -/
structure FileFault where
  method : FileMethod
  nth : Nat
  mishap : FileMishap

structure ScriptedFile where
  memory : MemoryFile
  faults : List FileFault := []
  /-- The calls so far, the last one first. -/
  called : List FileCall := []

namespace ScriptedFile

def ofBytes (bytes : List UInt8) (faults : List FileFault) : ScriptedFile :=
  { memory := { bytes }, faults }

/-- The calls so far, in order. -/
def calls (f : ScriptedFile) : List FileCall := f.called.reverse

def countOf (f : ScriptedFile) (method : FileMethod) : Nat :=
  f.called.countP fun call => call.method == method

def onMemory {α : Type} (act : Action MemoryFile α) : Action ScriptedFile α :=
  Action.onPart ScriptedFile.memory (fun memory f => { f with memory }) act

/-- Records a call and answers with what the script has for it. -/
def enter (call : FileCall) : Action ScriptedFile (List FileMishap) := do
  Action.modifyState fun f => { f with called := call :: f.called }
  let f ← Action.getState
  return (f.faults.filter fun fault =>
    fault.method == call.method && fault.nth == f.countOf call.method).map FileFault.mishap

/-- Fails if one of the mishaps is an error. -/
def raiseFirst : List FileMishap → Action ScriptedFile Unit
  | [] => return ()
  | .raise e :: _ => Action.fail e
  | .short _ :: rest => raiseFirst rest

/-- The count a read is cut to. -/
def cutBy (mishaps : List FileMishap) (count : Nat) : Nat :=
  mishaps.foldl (fun count mishap => match mishap with
    | .short most => min count most
    | .raise _ => count) count

def seek (offset : Int) (whence : Whence) : Action ScriptedFile Nat := do
  raiseFirst (← enter (.seek offset whence))
  onMemory (MemoryFile.seek offset whence)

def read (count : Nat) : Action ScriptedFile (List UInt8) := do
  let mishaps ← enter (.read count)
  raiseFirst mishaps
  onMemory (MemoryFile.read (cutBy mishaps count))

def close : Action ScriptedFile Unit := do
  if (← Action.getState).memory.closed then return ()
  else
    raiseFirst (← enter .close)
    onMemory MemoryFile.close

def file : ByteFile ScriptedFile where
  seek := seek
  read := read
  close := close

end ScriptedFile
end RowReader
