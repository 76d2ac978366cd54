import RowReader.Decoded
import RowReader.Location

/-!
# File systems

Files and directories, and the working directory where a path starts that does not start at the
root.  The directories that lead to an entry or to the working directory are there without being
listed.

A path is followed part by part.  What is wrong with it is what is wrong with the first part that
cannot be followed.
-/

namespace RowReader

inductive Entry where
  | directory
  | file (content : Content)

/-- Entries by their paths, each path a list of names from the root down. -/
structure FileSystem where
  entries : List (List String × Entry) := []
  workingDirectory : List String := []

/-- Where a path has led so far. -/
inductive Spot where
  | directory (path : List String)
  | file (content : Content)

namespace FileSystem

/-- The longest name and the longest path, in bytes. -/
def nameLimit : Nat := 255
def pathLimit : Nat := 4095

def systemError (kind : SystemFault) (code : Nat) (reason name : String) : Error :=
  .fault ⟨.system kind, s!"[Errno {code}] " ++ reason ++ ": " ++ Text.quote name⟩

def notFound (name : String) : Error :=
  systemError .notFound 2 "No such file or directory" name

def notDirectory (name : String) : Error :=
  systemError .notDirectory 20 "Not a directory" name

def isDirectory (name : String) : Error :=
  systemError .isDirectory 21 "Is a directory" name

def nameTooLong (name : String) : Error :=
  systemError .nameTooLong 36 "File name too long" name

def entry? (fs : FileSystem) (path : List String) : Option Entry :=
  (fs.entries.find? fun entry => entry.1 == path).map Prod.snd

/-- Whether a path leads to something below it, which makes it a directory. -/
def leadsOn (fs : FileSystem) (path : List String) : Bool :=
  path.isPrefixOf fs.workingDirectory || fs.entries.any fun entry => path.isPrefixOf entry.1

/-- Follows one part of a path that is called `whole` in messages. -/
def follow (fs : FileSystem) (whole : String) (spot : Spot) (part : String) : Except Error Spot :=
  match spot with
  | .file _ => .error (notDirectory whole)
  | .directory path =>
    if part = "" ∨ part = "." then .ok spot
    else if part = ".." then .ok (.directory path.dropLast)
    else if nameLimit < part.utf8ByteSize then .error (nameTooLong whole)
    else
      let deeper := path ++ [part]
      match fs.entry? deeper with
      | some (.file content) => .ok (.file content)
      | some .directory => .ok (.directory deeper)
      | none => if fs.leadsOn deeper then .ok (.directory deeper) else .error (notFound whole)

/-- Finds what a path names. -/
def look (fs : FileSystem) (path : String) : Except Error Entry := do
  let cs := path.toList
  if cs.contains '\x00' then throw (.fault ⟨.value, "embedded null byte"⟩)
  if cs = [] then throw (notFound path)
  if pathLimit < path.utf8ByteSize then throw (nameTooLong path)
  let start := Spot.directory (if cs.head? = some '/' then [] else fs.workingDirectory)
  match ← ((splitSlashes cs).map String.ofList).foldlM (fs.follow path) start with
  | .file content => return .file content
  | _ => return .directory

/-- The content of a file. -/
def read (fs : FileSystem) (path : String) : Except Error Content := do
  match ← fs.look path with
  | .file content => return content
  | .directory => throw (isDirectory path)

/-- The path of an entry that is named from the working directory or from the root.  A step up takes
the last name back, whatever is there. -/
def entryPath (fs : FileSystem) (name : String) : List String :=
  let start := if name.toList.head? = some '/' then [] else fs.workingDirectory
  ((splitSlashes name.toList).map String.ofList).foldl (fun path part =>
    if part = "" ∨ part = "." then path
    else if part = ".." then path.dropLast
    else path ++ [part]) start

def remove (fs : FileSystem) (name : String) : FileSystem :=
  { fs with entries := fs.entries.filter fun entry => entry.1 != fs.entryPath name }

def write (fs : FileSystem) (name : String) (entry : Entry) : FileSystem :=
  { fs with entries := (fs.remove name).entries ++ [(fs.entryPath name, entry)] }

end FileSystem
end RowReader
