import RowReader.Command.Refusal
import RowReader.Text.Similar

/-!
# Options on the command line

An option is written with one dash and a letter or with two dashes and a word.  Letters may share
one dash; a value follows in the same argument or in the next.  What is no option is an operand.  A
group ends at its first operand, and the rest belongs to the command named there; a command takes
options and operands in any order.  Two dashes alone end the options.
-/

namespace RowReader
namespace Command

inductive Switch where
  | version
  | verbose
  | help
  | file
  | url
  | column
  | threads
  | noThreads
  | limit
  | format
  deriving DecidableEq, Repr

namespace Switch

def takesValue : Switch → Bool
  | file => true
  | url => true
  | column => true
  | limit => true
  | format => true
  | _ => false

def word : Switch → String
  | version => "--version"
  | verbose => "--verbose"
  | help => "--help"
  | file => "--file"
  | url => "--url"
  | column => "--column"
  | threads => "--threads"
  | noThreads => "--no-threads"
  | limit => "--limit"
  | format => "--format"

def letter? : Switch → Option Char
  | verbose => some 'v'
  | file => some 'f'
  | url => some 'u'
  | column => some 'c'
  | limit => some 'n'
  | _ => none

/-- The options of a command. -/
def ofTopic : Topic → List Switch
  | .root => [version, verbose, help]
  | .read => [file, url, column, threads, noThreads, help]
  | .rows => [limit, format, help]
  | _ => [help]

end Switch

/-- An option as it was given, with its value if it takes one. -/
structure Given where
  switch : Switch
  value : String := ""

/-- What one argument gives: options, and the name of a last one whose value is the next
argument. -/
structure Reading where
  given : List Given := []
  waiting : Option (String × Switch) := none

/-- Splits a text at the first equals sign. -/
def splitEquals (text : List Char) : List Char × Option (List Char) :=
  match text.dropWhile fun c => c != '=' with
  | [] => (text, none)
  | _ :: value => (text.takeWhile fun c => c != '=', some value)

/-- Reads letters that share a dash. -/
def readLetters (switches : List Switch) : List Char → Except Refusal Reading
  | [] => .ok {}
  | c :: rest =>
    let name := String.ofList ['-', c]
    match switches.find? fun s => s.letter? == some c with
    | none => .error (.noSuchOption name [])
    | some s =>
      if s.takesValue then
        if rest = [] then .ok { waiting := some (name, s) }
        else .ok { given := [⟨s, String.ofList rest⟩] }
      else (readLetters switches rest).map fun more => { more with given := ⟨s, ""⟩ :: more.given }

/-- Reads an option that is written as a word; none if there is no such word. -/
def readWord? (switches : List Switch) (arg : List Char) : Option (Except Refusal Reading) :=
  let (name, value?) := splitEquals arg
  (switches.find? fun s => s.word == String.ofList name).map fun s =>
    match s.takesValue, value? with
    | true, some value => .ok { given := [⟨s, String.ofList value⟩] }
    | true, none => .ok { waiting := some (s.word, s) }
    | false, some _ => .error (.takesNoValue s.word)
    | false, none => .ok { given := [⟨s, ""⟩] }

/-- Reads an argument that begins with a dash. -/
def readOption (switches : List Switch) (arg : List Char) : Except Refusal Reading :=
  match readWord? switches arg with
  | some reading => reading
  | none =>
    if arg.take 2 = ['-', '-'] then
      let name := String.ofList (splitEquals arg).1
      .error (.noSuchOption name (Text.closeWords name (switches.map Switch.word)))
    else readLetters switches (arg.drop 1)

/-- The options and the operands of a command line, each in order. -/
structure Line where
  given : List Given := []
  operands : List String := []

def Line.behind (given : List Given) (l : Line) : Line :=
  { l with given := given ++ l.given }

/-- Reads the arguments of a command. -/
def readLine (topic : Topic) : List String → Except Refusal Line
  | [] => .ok {}
  | arg :: rest =>
    let cs := arg.toList
    if arg = "--" then .ok { operands := rest }
    else if cs.head? = some '-' ∧ 1 < cs.length then
      match readOption (Switch.ofTopic topic) cs with
      | .error e => .error e
      | .ok { given, waiting := none } => (readLine topic rest).map (Line.behind given)
      | .ok { given, waiting := some (name, s) } =>
        match rest with
        | [] => .error (.needsValue name)
        | value :: rest => (readLine topic rest).map (Line.behind (given ++ [⟨s, value⟩]))
    else if topic.isGroup then .ok { operands := arg :: rest }
    else (readLine topic rest).map fun l => { l with operands := arg :: l.operands }

end Command
end RowReader
