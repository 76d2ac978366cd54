import RowReader.Error

/-!
# Actions on a state

Reading acts on things that change: a file's position, a server's count of requests, a source's
cursor.  An action takes the state and returns how it ended, the state it left, and the log lines
it wrote.  A failed action leaves the changes it made before it failed, and it cannot see the log.
-/

namespace RowReader

inductive Severity where
  | debug
  | info
  | warning
  deriving DecidableEq, Repr

/-- The part of the reader a log line comes from. -/
inductive Channel where
  | container
  | materializer
  | source
  | rowGroup
  | remoteFile
  deriving DecidableEq, Repr

structure LogLine where
  severity : Severity
  channel : Channel
  text : String
  deriving DecidableEq, Repr

structure Outcome (σ α : Type) where
  result : Except Error α
  state : σ
  log : List LogLine := []

def Action (σ α : Type) : Type := σ → Outcome σ α

namespace Outcome

variable {σ τ α β : Type}

/-- Puts log lines in front of those of an outcome. -/
def after (log : List LogLine) (o : Outcome σ α) : Outcome σ α :=
  { o with log := log ++ o.log }

/-- The same outcome seen in a larger or smaller state. -/
def mapState (f : σ → τ) (o : Outcome σ α) : Outcome τ α :=
  { result := o.result, state := f o.state, log := o.log }

/-- The same outcome with another value in case of success. -/
def mapResult (f : α → β) (o : Outcome σ α) : Outcome σ β :=
  { result := o.result.map f, state := o.state, log := o.log }

end Outcome

namespace Action

variable {σ τ α β : Type}

def run (act : Action σ α) (s : σ) : Outcome σ α := act s

instance : Monad (Action σ) where
  pure a := fun s => { result := .ok a, state := s }
  bind act next := fun s =>
    match act s with
    | { result := .ok a, state, log } => (next a state).after log
    | { result := .error e, state, log } => { result := .error e, state, log }

/-- Ends with an error. -/
def fail (e : Error) : Action σ α := fun s => { result := .error e, state := s }

def ofExcept (r : Except Error α) : Action σ α := fun s => { result := r, state := s }

def getState : Action σ σ := fun s => { result := .ok s, state := s }

def modifyState (f : σ → σ) : Action σ Unit := fun s => { result := .ok (), state := f s }

/-- Writes a log line. -/
def note (severity : Severity) (channel : Channel) (text : String) : Action σ Unit :=
  fun s => { result := .ok (), state := s, log := [⟨severity, channel, text⟩] }

def debug (channel : Channel) (text : String) : Action σ Unit := note .debug channel text

/-- Handles an error; the state is as the failed action left it. -/
def rescue (act : Action σ α) (handler : Error → Action σ α) : Action σ α := fun s =>
  match act s with
  | { result := .ok a, state, log } => { result := .ok a, state, log }
  | { result := .error e, state, log } => (handler e state).after log

/-- Rewords an error. -/
def mapError (f : Error → Error) (act : Action σ α) : Action σ α :=
  act.rescue fun e => fail (f e)

/-- Runs `last` however `act` ends.  An error of `last` replaces the outcome of `act`. -/
def andFinally (act : Action σ α) (last : Action σ Unit) : Action σ α := fun s =>
  let first := act s
  match last first.state with
  | { result := .ok (), state, log } => { result := first.result, state, log := first.log ++ log }
  | { result := .error e, state, log } => { result := .error e, state, log := first.log ++ log }

/-- Runs an action on a part of the state. -/
def onPart (get : σ → τ) (set : τ → σ → σ) (act : Action τ α) : Action σ α := fun s =>
  (act (get s)).mapState fun t => set t s

/-- Runs an action that needs a further piece of state, which is handed back with the value.  It is
lost if the action fails. -/
def holding {η : Type} (h : η) (act : Action (η × σ) α) : Action σ (α × η) := fun s =>
  let out := act (h, s)
  { result := out.result.map fun a => (a, out.state.1), state := out.state.2, log := out.log }

end Action
end RowReader
