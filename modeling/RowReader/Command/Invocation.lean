import RowReader.Command.Switch
import RowReader.FileSystem
import RowReader.RowFile
import RowReader.Text.Alphanumeric

/-!
# Invocations

What a command line asks for.  A group is understood before the command named in it: its options,
then that the command exists, then what the options mean together.  An option that asks for the
version or for a page ends the matter there.

A command name that begins like an option is read once more as an argument of the group, before it
is refused.
-/

namespace RowReader
namespace Command

inductive RowFormat where
  | table
  | json
  deriving DecidableEq, Repr

inductive ReadTask where
  | summary
  | schema
  | rows (limit : Option Nat) (format : RowFormat)

inductive Task where
  | version
  | read (file : RowFile) (task : ReadTask)

structure Invocation where
  /-- How often a more detailed log was asked for. -/
  verbosity : Nat
  task : Task

/-- Why a command line leads to no task. -/
inductive Stop where
  | refused (topic : Topic) (r : Refusal)
  /-- A group without any argument shows its page as a refusal. -/
  | bareGroup (topic : Topic)
  | pageAsked (topic : Topic)
  | versionAsked
  | failed (e : Error)

abbrev Understood := Except Stop

/-- The values of an option, in order. -/
def Line.values (l : Line) (s : Switch) : List String :=
  (l.given.filter fun g => g.switch == s).map Given.value

/-- The last value of an option counts. -/
def Line.value? (l : Line) (s : Switch) : Option String :=
  (l.values s).getLast?

/-- Whether columns are decoded in parallel; of the two options the last one counts. -/
def Line.useThreads (l : Line) : Bool :=
  l.given.foldl (fun use g =>
    match g.switch with
    | .threads => true
    | .noThreads => false
    | _ => use) true

/-- Ends at the first option that asks for the version or for a page. -/
def checkAsked (topic : Topic) (l : Line) : Understood Unit :=
  match l.given.find? fun g => g.switch == .version || g.switch == .help with
  | none => .ok ()
  | some g => if g.switch = .version then .error .versionAsked else .error (.pageAsked topic)

/-- Where to read from; one place must be given, and not two. -/
def sourceGiven (l : Line) : Except Refusal (Option String × Option String) :=
  match l.value? .file, l.value? .url with
  | none, none => .error .missingSource
  | some _, some _ => .error .conflictingSources
  | file?, url? => .ok (file?, url?)

/-- The location of a file that must be there. -/
def existingFile (fs : FileSystem) (name : String) : Understood Location :=
  match fs.look name with
  | .ok (.file _) => .ok (.ofPath name)
  | .ok .directory => .error (.refused .read (.fileIsDirectory name))
  | .error (.fault f) =>
    if f.isSystem then .error (.refused .read (.fileMissing name)) else .error (.failed (.fault f))
  | .error e => .error (.failed e)

/-- The location that the options of reading name. -/
def locationGiven (fs : FileSystem) (l : Line) : Understood Location := do
  checkAsked .read l
  let (file?, url?) ← (sourceGiven l).mapError (Stop.refused .read)
  match file? with
  | some name => existingFile fs name
  | none => return .text (url?.getD "")

def limitGiven (l : Line) : Except Refusal (Option Nat) :=
  match l.value? .limit with
  | none => .ok none
  | some text =>
    match Number.readInteger text with
    | .error _ => .error (.limitUnreadable text)
    | .ok n => if n < 0 then .error (.limitNegative n) else .ok (some n.toNat)

def formatGiven (l : Line) : Except Refusal RowFormat :=
  match l.value? .format with
  | none => .ok .table
  | some name =>
    if name = "table" then .ok .table
    else if name = "json" then .ok .json
    else .error (.formatUnknown name)

/-- Limit and format, whichever was given first being checked first. -/
def rowsTask (l : Line) : Except Refusal ReadTask := do
  let formatFirst : Bool := match l.given with
    | g :: _ => g.switch == .format
    | [] => false
  if formatFirst then
    let format ← formatGiven l
    return .rows (← limitGiven l) format
  else
    let limit ← limitGiven l
    return .rows limit (← formatGiven l)

/-- Reads the arguments of a command that takes no operands. -/
def leafLine (topic : Topic) (args : List String) : Understood Line := do
  let l ← (readLine topic args).mapError (Stop.refused topic)
  checkAsked topic l
  return l

def noOperands (topic : Topic) (l : Line) : Understood Unit :=
  if l.operands = [] then .ok () else .error (.refused topic (.extraArguments l.operands))

/-- What a command inside the reading group asks for. -/
def readTask (topic : Topic) (args : List String) : Understood ReadTask := do
  let l ← leafLine topic args
  let task ← match topic with
    | .rows => (rowsTask l).mapError (Stop.refused topic)
    | .schema => pure ReadTask.schema
    | _ => pure ReadTask.summary
  noOperands topic l
  return task

/-- Whether a command's name begins like an option. -/
def beginsLikeOption (letters : List Char) : Bool :=
  match letters with
  | [] => false
  | c :: _ => !Text.isAlphanumeric c

/-- The command that a group's operands name, with its arguments.  `again` reads the operands as
arguments of the group. -/
def commandNamed (topic : Topic) (operands : List String) (again : List String → Understood Unit) :
    Understood (Topic × List String) :=
  match operands with
  | [] => .error (.refused topic .missingCommand)
  | name :: args =>
    match topic.commands.lookup name with
    | some command => .ok (command, args)
    | none => do
      if beginsLikeOption name.toList then again operands
      let similar := Text.closeWords name (topic.commands.map Prod.fst)
      throw (.refused topic (.noSuchCommand name similar))

/-- The options of reading that the command line gives. -/
def optionsGiven (l : Line) : Understood Options :=
  let columns := l.values .column
  let columns? := if columns = [] then none else some columns
  (Options.join columns? l.useThreads none).mapError fun e =>
    .refused .read (.columnsRefused columns l.useThreads e.problem)

def readGroup (fs : FileSystem) (args : List String) : Understood (Line × Location) := do
  let l ← (readLine .read args).mapError (Stop.refused .read)
  return (l, ← locationGiven fs l)

/-- What the arguments of the reading group ask for. -/
def understandRead (fs : FileSystem) (args : List String) : Understood Task := do
  if args = [] then throw (.bareGroup .read)
  let (l, location) ← readGroup fs args
  let again := fun operands => (readGroup fs operands).map fun _ => ()
  let (topic, rest) ← commandNamed .read l.operands again
  let options ← optionsGiven l
  let task ← readTask topic rest
  return .read { location, options } task

def rootLine (args : List String) : Understood Line := do
  let l ← (readLine .root args).mapError (Stop.refused .root)
  checkAsked .root l
  return l

/-- What a command line asks for. -/
def understand (fs : FileSystem) (args : List String) : Understood Invocation := do
  if args = [] then throw (.bareGroup .root)
  let l ← rootLine args
  let again := fun operands => (rootLine operands).map fun _ => ()
  let (topic, rest) ← commandNamed .root l.operands again
  let verbosity := (l.values .verbose).length
  match topic with
  | .read => return { verbosity, task := ← understandRead fs rest }
  | _ =>
    noOperands .version (← leafLine .version rest)
    return { verbosity, task := .version }

end Command
end RowReader
