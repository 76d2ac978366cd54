/-!
# Version

The version under which the program is installed.
-/

namespace RowReader

def version : String := "0.1.0"

/-- What is shown for a version: without an installation there is none to show. -/
def versionText (installed : Bool) : String :=
  if installed then version else "0.0.0+unknown"

end RowReader
