/-!
# Commands and their pages

The program has two groups of commands, one inside the other.  Every command has a page that says
how to use it.
-/

namespace RowReader
namespace Command

inductive Topic where
  | root
  | version
  | read
  | summary
  | schema
  | rows
  deriving DecidableEq, Repr

namespace Topic

/-- The words by which a command is called. -/
def path : Topic → String
  | root => "cli"
  | version => "cli version"
  | read => "cli read"
  | summary => "cli read summary"
  | schema => "cli read schema"
  | rows => "cli read rows"

/-- The commands of a group by their names, in order. -/
def commands : Topic → List (String × Topic)
  | root => [("read", read), ("version", version)]
  | read => [("rows", rows), ("schema", schema), ("summary", summary)]
  | _ => []

def isGroup (t : Topic) : Bool := !t.commands.isEmpty

/-- How the arguments of a command are put. -/
def usage (t : Topic) : String :=
  t.path ++ " [OPTIONS]" ++ if t.isGroup then " COMMAND [ARGS]..." else ""

def purpose : Topic → String
  | root => "parquet-rows - read Parquet files as rows"
  | version => "Show the installed version."
  | read => "Read rows and schema from a Parquet file."
  | summary => "Show row counts and the schema."
  | schema => "Show the top-level fields rows are assembled from."
  | rows => "Print rows in file order."

/-- The lines of a page that describe the options. -/
def optionLines : Topic → List String
  | root =>
    ["  --version      Show the version and exit.",
      "  -v, --verbose  Log progress to stderr (repeat for debug output)",
      "  --help         Show this message and exit."]
  | read =>
    ["  Parquet source file: [mutually_exclusive, required]",
      "                                  A parquet file local path or remote HTTP(S)",
      "                                  url",
      "    -f, --file FILE               Path to Parquet file",
      "    -u, --url TEXT                HTTP(S) URL to Parquet file",
      "  -c, --column TEXT               Field to read (repeatable, keeps the given",
      "                                  order)",
      "  --threads / --no-threads        Decode the columns of a row group in parallel",
      "  --help                          Show this message and exit."]
  | rows =>
    ["  -n, --limit INTEGER RANGE  Stop after this many rows  [x>=0]",
      "  --format [table|json]      table for people, json for one object per line",
      "                             [default: table]",
      "  --help                     Show this message and exit."]
  | _ => ["  --help  Show this message and exit."]

/-- The lines of a page that describe the commands, their purposes in one column. -/
def commandLines (t : Topic) : List String :=
  let width := (t.commands.map fun command => command.1.length).foldl max 0
  t.commands.map fun (name, command) =>
    "  " ++ name ++ String.ofList (List.replicate (width - name.length + 2) ' ') ++ command.purpose

/-- The page of a command. -/
def page (t : Topic) : String :=
  let commands := if t.isGroup then ["", "Commands:"] ++ t.commandLines else []
  String.intercalate "\n"
    (["Usage: " ++ t.usage, "", "  " ++ t.purpose, "", "Options:"] ++ t.optionLines ++ commands)

end Topic
end Command
end RowReader
