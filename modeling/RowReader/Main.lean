import RowReader.Command

/-!
# The program

Gathers the files that the command line names, runs it, and prints the answer.  There is no decoder
of footers and pages here and no network, so a well-framed file is reported as one whose footer
cannot be parsed.
-/

namespace RowReader
namespace Main

def noDecoder : Decoding := .error (.fault ⟨.decoder .unsupported, "no decoder"⟩)

/-- The paths that a command line names as files to read. -/
def namedPaths (args : List String) : List String :=
  match Command.readLine .root args with
  | .ok { operands := _ :: rest, .. } =>
    match Command.readLine .read rest with
    | .ok l => l.values .file ++ l.values .url
    | .error _ => []
  | _ => []

/-- A path and the directories on the way to it. -/
def waypoints (path : String) : List String :=
  let names := (splitSlashes path.toList).map String.ofList
  let ends := (List.range names.length).filter fun n => names[n]? != some ""
  ends.map fun n => String.intercalate "/" (names.take (n + 1))

/-- What is found under a name, if anything is. -/
def find (name : String) : IO (Option Entry) := do
  try
    let bytes ← IO.FS.readBinFile name
    return some (.file { bytes := bytes.toList, decoding := noDecoder })
  catch e =>
    match e with
    | .inappropriateType .. => return some .directory
    | _ => return none

def gather (args : List String) : IO FileSystem := do
  let here := ((← IO.currentDir).toString.splitOn "/").filter fun name => name != ""
  let mut fs : FileSystem := { workingDirectory := here }
  for path in namedPaths args do
    for name in waypoints path do
      if let some entry ← find name then
        fs := fs.write name entry
  return fs

end Main
end RowReader

def main (args : List String) : IO UInt32 := do
  let files ← RowReader.Main.gather args
  let world : RowReader.World Unit :=
    { files, server := (), remote := RowReader.Main.noDecoder }
  let (answer, _) := RowReader.Command.run .unreachable args world
  IO.print answer.printed
  IO.eprint answer.reported
  if let some crash := answer.crash then
    IO.eprintln crash.message
  return UInt32.ofNat answer.exitCode
