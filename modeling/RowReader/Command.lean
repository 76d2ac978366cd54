import RowReader.Command.Invocation
import RowReader.Command.Log
import RowReader.Report
import RowReader.RowFile.Gather
import RowReader.Text.ControlSequence
import RowReader.Version

/-!
# The command line program

Runs a command line in a world.  The answer has what was printed, what was reported, and an exit
code: zero for success, two for a command line that is refused, one for anything that goes wrong
later.  An error of the reader's own kinds is reported in one line; any other one is a crash, which
is left to the caller.

Rows in JSON are printed one by one, so those before an error are there.  A table is printed whole
or not at all.  What is printed, and the lines that report an error, are freed of control sequences
for a terminal; the log is written as it is.
-/

namespace RowReader
namespace Command

/-- An error that is none of the reader's own. -/
inductive Crash where
  | error (e : Error)
  | unwritable (e : DatasetError)
  | untabled (e : Report.TableError)
  | limitTooLarge

def Crash.message : Crash → String
  | error e => e.message
  | unwritable e => e.message
  | untabled e => e.message
  | limitTooLarge => "Stop argument for islice() must be None or an integer: 0 <= x <= sys.maxsize."

structure Answer where
  exitCode : Nat
  printed : String := ""
  reported : String := ""
  crash : Option Crash := none

/-- What a task printed, and how it ended. -/
structure Product (σ : Type) where
  printed : String
  ending : Except Crash Unit
  state : σ
  log : List LogLine

variable {ω : Type}

/-- A task that prints one text if it succeeds. -/
def Product.ofOutcome {σ : Type} (o : Outcome σ String) : Product σ :=
  match o with
  | { result := .ok text, state, log } => { printed := text ++ "\n", ending := .ok (), state, log }
  | { result := .error e, state, log } => { printed := "", ending := .error (.error e), state, log }

/-- The summary of a file, whose numbers and schema are each read for themselves. -/
def summarize (srv : Server ω) (pf : RowFile) : Action (World ω) String := do
  let rows ← pf.numRows srv
  let groups ← pf.numRowGroups srv
  let (schema, _) ← Action.holding pf (RowFile.readSchema srv)
  Action.ofExcept
    ((Report.summary pf.location.name rows (Int.ofNat groups) schema).mapError fun e =>
      .fault (.overlong e))

def describe (srv : Server ω) (pf : RowFile) : Action (World ω) String := do
  let (schema, _) ← Action.holding pf (RowFile.readSchema srv)
  return Report.schemaText schema

/-- The largest limit there can be. -/
def limitBound : Nat := Nat.pow 2 63 - 1

/-- How gathering ended, as far as the task is concerned. -/
def outcomeOf {ε : Type} (crash : ε → Crash) : GatherEnd ε → Except Crash Unit
  | .enough => .ok ()
  | .exhausted => .ok ()
  | .failed e => .error (.error e)
  | .refused e => .error (crash e)

/-- Closes the stream, whose own error comes before that of the task. -/
def closeAfter (srv : Server ω) (p : Product (RowStream × World ω)) : Product (World ω) :=
  match RowStream.close srv p.state with
  | { result := .ok (), state, log } => { p with state := state.2, log := p.log ++ log }
  | { result := .error e, state, log } =>
    { p with ending := .error (.error e), state := state.2, log := p.log ++ log }

def printJson (srv : Server ω) (pf : RowFile) (limit : Option Nat) (w : World ω) :
    Product (RowStream × World ω) :=
  let g := RowStream.gather srv pf Report.jsonLine limit (.unopened, w)
  { printed := String.join (g.items.map fun line => line ++ "\n")
    ending := outcomeOf .unwritable g.ending, state := g.state, log := g.log }

/-- The cells of a row are made before the next row is pulled. -/
def printTable (srv : Server ω) (pf : RowFile) (schema : Schema) (limit : Option Nat)
    (w : World ω) : Product (RowStream × World ω) :=
  let g := RowStream.gather srv pf Report.cells limit (.unopened, w)
  match outcomeOf (fun e => .untabled (.overlong e)) g.ending, Report.tableOf? schema g.items with
  | .ok (), some text =>
    { printed := text ++ "\n", ending := .ok (), state := g.state, log := g.log }
  | .ok (), none =>
    { printed := "", ending := .error (.untabled .rowTooWide), state := g.state, log := g.log }
  | .error e, _ => { printed := "", ending := .error e, state := g.state, log := g.log }

def printAs (srv : Server ω) (pf : RowFile) (schema : Schema) (limit : Option Nat) :
    RowFormat → World ω → Product (RowStream × World ω)
  | .json => printJson srv pf limit
  | .table => printTable srv pf schema limit

/-- Prints rows under the schema, which is read first. -/
def printRows (srv : Server ω) (pf : RowFile) (limit : Option Nat) (format : RowFormat)
    (w : World ω) : Product (World ω) :=
  match RowFile.readSchema srv (pf, w) with
  | { result := .error e, state, log } =>
    { printed := "", ending := .error (.error e), state := state.2, log }
  | { result := .ok schema, state, log } =>
    if limitBound < limit.getD 0 then
      { printed := "", ending := .error .limitTooLarge, state := state.2, log }
    else
      let closed := closeAfter srv (printAs srv pf schema limit format state.2)
      { closed with log := log ++ closed.log }

def perform (srv : Server ω) (task : Task) (w : World ω) : Product (World ω) :=
  match task with
  | .version => { printed := version ++ "\n", ending := .ok (), state := w, log := [] }
  | .read pf .summary => .ofOutcome (summarize srv pf w)
  | .read pf .schema => .ofOutcome (describe srv pf w)
  | .read pf (.rows limit format) => printRows srv pf limit format w

/-- The answer to a command line that leads to no task. -/
def stopAnswer : Stop → Answer
  | .refused topic r => { exitCode := 2, reported := Text.withoutSequences (r.text topic) }
  | .bareGroup topic => { exitCode := 2, reported := topic.page ++ "\n" }
  | .pageAsked topic => { exitCode := 0, printed := topic.page ++ "\n" }
  | .versionAsked => { exitCode := 0, printed := "cli, version " ++ version ++ "\n" }
  | .failed e => { exitCode := 1, crash := some (.error e) }

/-- How an error that ended a task is passed on. -/
def endingAnswer (printed shown : String) : Except Crash Unit → Answer
  | .ok () => { exitCode := 0, printed, reported := shown }
  | .error (.error e) =>
    if e.kind?.isSome then
      let line := Text.withoutSequences ("Error: " ++ e.message ++ "\n")
      { exitCode := 1, printed, reported := shown ++ line }
    else { exitCode := 1, printed, reported := shown, crash := some (.error e) }
  | .error crash => { exitCode := 1, printed, reported := shown, crash := some crash }

/-- Runs a command line. -/
def run (srv : Server ω) (args : List String) (w : World ω) : Answer × World ω :=
  match understand w.files args with
  | .error stop => (stopAnswer stop, w)
  | .ok { verbosity, task } =>
    let product := perform srv task w
    let printed := Text.withoutSequences product.printed
    (endingAnswer printed (shownLog verbosity product.log) product.ending, product.state)

end Command
end RowReader
