import RowReader.MergeSort
import RowReader.Plain

/-!
# JSON text

Writes a plain value as JSON.  A `Layout` chooses the separators, the line breaks, the order of
keys and the characters that are escaped; `Layout.compact` is the one line form used for rows.

Three values have no JSON: an integer with too many digits, a double without a finite value, when the
layout insists on the grammar, and a dictionary whose keys cannot be ordered, when the layout orders
keys.
-/

namespace RowReader
namespace Json

open Number

structure Layout where
  /-- The text repeated once for each level of nesting; without one everything is on one line. -/
  indent : Option String
  itemSeparator : String
  keySeparator : String
  /-- Escape everything outside printable ASCII. -/
  asciiOnly : Bool
  sortKeys : Bool
  allowNonFinite : Bool

def Layout.compact : Layout where
  indent := none
  itemSeparator := ", "
  keySeparator := ": "
  asciiOnly := true
  sortKeys := false
  allowNonFinite := true

inductive WriteError where
  | overlong (e : Overlong)
  /-- A layout over several lines also shows the double. -/
  | nonFinite (shown : Option String)
  | keys (e : ComparisonError)
  deriving DecidableEq, Repr

def WriteError.message : WriteError → String
  | .overlong e => e.message
  | .nonFinite none => "Out of range float values are not JSON compliant"
  | .nonFinite (some shown) => "Out of range float values are not JSON compliant: " ++ shown
  | .keys e => e.message

/-! ## Strings -/

/-- An escape by UTF-16 code units: one unit for the basic plane, a surrogate pair outside. -/
def escapeUnits (code : Nat) : List Char :=
  let unit := fun (n : Nat) => '\\' :: 'u' :: Text.hexDigits 4 n
  if code < 0x10000 then unit code
  else
    let offset := code - 0x10000
    unit (0xd800 + offset / 0x400) ++ unit (0xdc00 + offset % 0x400)

def escapeChar (asciiOnly : Bool) (c : Char) : List Char :=
  if c == '"' then ['\\', '"']
  else if c == '\\' then ['\\', '\\']
  else if c == '\n' then ['\\', 'n']
  else if c == '\r' then ['\\', 'r']
  else if c == '\t' then ['\\', 't']
  else if c == '\x0c' then ['\\', 'f']
  else if c == '\x08' then ['\\', 'b']
  else if c.toNat < 0x20 || (asciiOnly && 0x7f ≤ c.toNat) then escapeUnits c.toNat
  else [c]

def stringChars (asciiOnly : Bool) (s : String) : List Char :=
  '"' :: s.toList.flatMap (escapeChar asciiOnly) ++ ['"']

def stringText (asciiOnly : Bool) (s : String) : String :=
  String.ofList (stringChars asciiOnly s)

/-! ## Numbers -/

def integerText (n : Int) : Except WriteError String :=
  (writeInteger n).mapError .overlong

def specialNames : SpecialNames := ⟨"NaN", "Infinity"⟩

def isFinite (x : Binary64) : Bool :=
  match x.read with
  | .finite _ _ _ => true
  | _ => false

def floatText (layout : Layout) (x : Binary64) : Except WriteError String :=
  if layout.allowNonFinite || isFinite x then .ok (x.textWith specialNames)
  else .error (.nonFinite (layout.indent.map fun _ => x.text))

/-! ## Keys -/

/-- The text of a key before it is quoted; every key is written as a string. -/
def keyName (layout : Layout) : Key → Except WriteError String
  | .null => .ok "null"
  | .bool b => .ok (if b then "true" else "false")
  | .int n => integerText n
  | .float x => floatText layout x
  | .text s => .ok s

def keyBelow (a b : Key) : Except WriteError Bool :=
  (a.toValue.precedes b.toValue).mapError .keys

/-- Entries in increasing order of their keys. -/
def sortEntries {α : Type} (entries : List (Key × α)) : Except WriteError (List (Key × α)) :=
  MergeSort.sort (fun a b => keyBelow a.1 b.1) entries

/-! ## Nesting -/

/-- A line break and the indentation of a level, or nothing on one line. -/
def lineBreak (layout : Layout) (level : Nat) : String :=
  match layout.indent with
  | none => ""
  | some unit => "\n" ++ String.join (List.replicate level unit)

/-- Parts of a list or a dictionary between its brackets. -/
def enclose (layout : Layout) (level : Nat) (opening closing : String) (parts : List String) :
    String :=
  if parts.isEmpty then opening ++ closing
  else
    opening ++ lineBreak layout (level + 1)
      ++ String.intercalate (layout.itemSeparator ++ lineBreak layout (level + 1)) parts
      ++ lineBreak layout level ++ closing

mutual

/-- Keys that cannot be ordered are reported first, and otherwise the first error in the order of
the text. -/
def write (layout : Layout) (level : Nat) : Plain → Except WriteError String
  | .null => .ok "null"
  | .bool b => .ok (if b then "true" else "false")
  | .int n => integerText n
  | .float x => floatText layout x
  | .text s => .ok (stringText layout.asciiOnly s)
  | .list items => (writeItems layout (level + 1) items).map (enclose layout level "[" "]")
  | .dict entries => do
    let written := writeEntries layout (level + 1) entries
    let ordered ← if layout.sortKeys then sortEntries written else .ok written
    let parts ← ordered.mapM Prod.snd
    return enclose layout level "\x7b" "\x7d" parts

def writeItems (layout : Layout) (level : Nat) : List Plain → Except WriteError (List String)
  | [] => .ok []
  | v :: rest =>
    match write layout level v with
    | .error e => .error e
    | .ok part => (writeItems layout level rest).map (part :: ·)

/-- Each key with the text of its entry. -/
def writeEntries (layout : Layout) (level : Nat) :
    List (Key × Plain) → List (Key × Except WriteError String)
  | [] => []
  | (key, v) :: rest =>
    let text : Except WriteError String :=
      match keyName layout key with
      | .error e => .error e
      | .ok name =>
        (write layout level v).map fun part =>
          stringText layout.asciiOnly name ++ layout.keySeparator ++ part
    (key, text) :: writeEntries layout level rest

end

/-- The JSON text of a plain value. -/
def render (layout : Layout) (v : Plain) : Except WriteError String :=
  write layout 0 v

end Json
end RowReader
