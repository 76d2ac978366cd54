import RowReader.Action

/-!
# Shown log lines

The log is shown only on demand.  Asked for once, it leaves out what only helps to find errors in
the program itself; asked for twice, it is shown whole.
-/

namespace RowReader

def Severity.name : Severity → String
  | debug => "DEBUG"
  | info => "INFO"
  | warning => "WARNING"

/-- The name that a log line carries for the part it comes from. -/
def Channel.name : Channel → String
  | container => "parquet_rows.parquet_file"
  | materializer => "parquet_rows.materializer"
  | source => "parquet_rows.readers.source"
  | rowGroup => "parquet_rows.readers.row_group"
  | remoteFile => "parquet_rows.util.http_file"

namespace LogLine

/-- Whether a line is shown to someone who asked so often for the log. -/
def shownAt (verbosity : Nat) (line : LogLine) : Bool :=
  match line.severity with
  | .debug => 2 ≤ verbosity
  | _ => 1 ≤ verbosity

def display (line : LogLine) : String :=
  line.severity.name ++ " " ++ line.channel.name ++ ": " ++ line.text ++ "\n"

end LogLine

/-- The lines of a log that are shown. -/
def shownLog (verbosity : Nat) (log : List LogLine) : String :=
  String.join ((log.filter (LogLine.shownAt verbosity)).map LogLine.display)

end RowReader
