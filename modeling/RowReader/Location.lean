import RowReader.Remote

/-!
# Locations

Where a file is: a text, which is a URL if it begins like one, or a path, which never is.  A path is
written without doubled or trailing slashes and without components that stay where they are.
-/

namespace RowReader

/-- The parts of a text between slashes. -/
def splitSlashes (text : List Char) : List (List Char) :=
  text.foldr (fun c parts =>
    if c = '/' then [] :: parts
    else
      match parts with
      | part :: rest => (c :: part) :: rest
      | [] => [[c]]) [[]]

inductive Location where
  | text (given : String)
  | path (written : String)
  deriving DecidableEq, Repr

namespace Location

/-- How many slashes a path begins with once it is written: exactly two are kept as two, and more
are one. -/
def leadingSlashes (path : List Char) : Nat :=
  match (path.takeWhile fun c => c = '/').length with
  | 0 => 0
  | 2 => 2
  | _ => 1

/-- A path as it is written. -/
def writtenPath (path : String) : String :=
  let parts := (splitSlashes path.toList).filter fun part => part ≠ [] ∧ part ≠ ['.']
  let body := List.intercalate ['/'] parts
  let whole := List.replicate (leadingSlashes path.toList) '/' ++ body
  if whole.isEmpty then "." else String.ofList whole

def ofPath (path : String) : Location := .path (writtenPath path)

def name : Location → String
  | text given => given
  | path written => written

/-- The URL that a location is, if it is one. -/
def url? : Location → Option String
  | text given => if Remote.isUrl given then some given else none
  | path _ => none

end Location
end RowReader
