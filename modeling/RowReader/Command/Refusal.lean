import RowReader.Command.Page
import RowReader.Options
import RowReader.Text.Quoted

/-!
# Refusals

Why a command line is refused before anything is read.  A refusal names the command it belongs to,
except for an option whose own form is wrong.
-/

namespace RowReader
namespace Command

inductive Refusal where
  | needsValue (option : String)
  | takesNoValue (option : String)
  | noSuchOption (option : String) (similar : List String)
  | noSuchCommand (name : String) (similar : List String)
  | missingCommand
  | extraArguments (arguments : List String)
  | missingSource
  | conflictingSources
  | fileMissing (name : String)
  | fileIsDirectory (name : String)
  | limitUnreadable (text : String)
  | limitNegative (limit : Int)
  | formatUnknown (name : String)
  | columnsRefused (columns : List String) (useThreads : Bool) (problem : SettingProblem)
  deriving DecidableEq, Repr

namespace Refusal

/-- A text cut in the middle to what fifty bytes can show: the first twenty-five bytes and the last
twenty-four, of whole characters. -/
def shorten (text : String) : String :=
  if text.utf8ByteSize ≤ 50 then text
  else
    let cs := text.toList
    String.ofList (fit 25 cs ++ "...".toList ++ (fit 24 cs.reverse).reverse)
where
  /-- The longest beginning that fits into so many bytes. -/
  fit : Nat → List Char → List Char
    | _, [] => []
    | room, c :: rest => if c.utf8Size ≤ room then c :: fit (room - c.utf8Size) rest else []

/-- What is added for words that were perhaps meant. -/
def suggestion : List String → String
  | [] => ""
  | [word] => " Did you mean " ++ Text.quote word ++ "?"
  | words => " (Did you mean one of: " ++ String.intercalate ", " (words.map Text.quote) ++ "?)"

def sourceNames : String := "\n  '-f' / '--file'\n  '-u' / '--url'"

/-- A value that an option does not take. -/
def invalid (option reason : String) : String :=
  "Invalid value for " ++ option ++ ": " ++ reason

/-- The settings that a list of fields was refused with. -/
def columnsReport (columns : List String) (useThreads : Bool) (problem : SettingProblem) : String :=
  let shown := "\x7b'columns': " ++ Text.nameTuple columns ++ ", 'use_threads': "
    ++ (if useThreads then "True" else "False") ++ "\x7d"
  "1 validation error for ReaderConfig\n  " ++ problem.message ++ " [type=" ++ problem.kindName
    ++ ", input_value=" ++ shorten shown ++ ", input_type=dict]\n"
    ++ "    For further information visit https://errors.pydantic.dev/2.14/v/" ++ problem.kindName

def message : Refusal → String
  | needsValue option => "Option " ++ Text.quote option ++ " requires an argument."
  | takesNoValue option => "Option " ++ Text.quote option ++ " does not take a value."
  | noSuchOption option similar =>
    "No such option " ++ Text.quote option ++ "." ++ suggestion similar
  | noSuchCommand name similar =>
    "No such command " ++ Text.quote name ++ "." ++ suggestion similar
  | missingCommand => "Missing command."
  | extraArguments arguments =>
    "Got unexpected extra argument" ++ (if arguments.length = 1 then "" else "s") ++ " ("
      ++ String.intercalate " " arguments ++ ")"
  | missingSource =>
    "Missing one of the required mutually exclusive options from 'Parquet source file' "
      ++ "option group:" ++ sourceNames
  | conflictingSources =>
    "Mutually exclusive options from 'Parquet source file' option group cannot be used at the same "
      ++ "time:" ++ sourceNames
  | fileMissing name =>
    invalid "'-f' / '--file'" ("File " ++ Text.quote name ++ " does not exist.")
  | fileIsDirectory name =>
    invalid "'-f' / '--file'" ("File " ++ Text.quote name ++ " is a directory.")
  | limitUnreadable text =>
    invalid "'--limit' / '-n'" (Text.quote text ++ " is not a valid integer range.")
  | limitNegative limit =>
    invalid "'--limit' / '-n'" (s!"{limit} is not in the range x>=0.")
  | formatUnknown name =>
    invalid "'--format'" (Text.quote name ++ " is not one of 'table', 'json'.")
  | columnsRefused columns useThreads problem =>
    invalid "--column" (columnsReport columns useThreads problem)

/-- Whether a refusal is of the form of an option, and so names no command. -/
def ofForm : Refusal → Bool
  | needsValue _ => true
  | takesNoValue _ => true
  | _ => false

/-- The refusal as a whole, with a hint at the command's page. -/
def text (topic : Topic) (r : Refusal) : String :=
  let header :=
    if r.ofForm then ""
    else "Usage: " ++ topic.usage ++ "\nTry '" ++ topic.path ++ " --help' for help.\n\n"
  header ++ "Error: " ++ r.message ++ "\n"

end Refusal
end Command
end RowReader
