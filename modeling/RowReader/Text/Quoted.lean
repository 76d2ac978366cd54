import RowReader.Text.Hexadecimal
import RowReader.Text.Printable

/-!
# Quoted text and bytes

The literal form of a text or of a byte string, as the program shows it in messages and in
nested cells.  Single quotes delimit the literal unless it contains a single quote and no double
quote.  What cannot be shown is escaped by its code point, with two, four or eight hexadecimal
digits.
-/

namespace RowReader
namespace Text

/-- The double quote delimits exactly when it saves escaping. -/
def delimiter (hasSingle hasDouble : Bool) : Char :=
  if hasSingle && !hasDouble then '"' else '\''

/-- The escape of a code point by its number. -/
def escapeCode (code : Nat) : List Char :=
  if code < 0x100 then '\\' :: 'x' :: hexDigits 2 code
  else if code < 0x10000 then '\\' :: 'u' :: hexDigits 4 code
  else '\\' :: 'U' :: hexDigits 8 code

/-- One code point inside a literal that `quote` delimits; `shown` says whether it may stand
unescaped. -/
def escapeChar (quote : Char) (shown : Bool) (c : Char) : List Char :=
  if c == quote || c == '\\' then ['\\', c]
  else if c == '\t' then ['\\', 't']
  else if c == '\n' then ['\\', 'n']
  else if c == '\r' then ['\\', 'r']
  else if shown then [c]
  else escapeCode c.toNat

def quoteChars (cs : List Char) : List Char :=
  let quote := delimiter (cs.contains '\'') (cs.contains '"')
  quote :: cs.flatMap (fun c => escapeChar quote (isPrintable c) c) ++ [quote]

/-- The literal of a text. -/
def quote (text : String) : String :=
  String.ofList (quoteChars text.toList)

/-- The literal of a byte string; only the printable ASCII characters stand for themselves. -/
def quoteBytes (bytes : List UInt8) : String :=
  let cs := bytes.map fun b => Char.ofNat b.toNat
  let quote := delimiter (cs.contains '\'') (cs.contains '"')
  let shown := fun (c : Char) => 0x20 ≤ c.toNat && c.toNat < 0x7f
  String.ofList ('b' :: quote :: cs.flatMap (fun c => escapeChar quote (shown c) c) ++ [quote])

/-- Items between brackets, separated by a comma and a space. -/
def bracketed (items : List String) : String :=
  "[" ++ String.intercalate ", " items ++ "]"

/-- Items between parentheses; a single item keeps a comma, which tells it from a grouping. -/
def parenthesized : List String → String
  | [item] => "(" ++ item ++ ",)"
  | items => "(" ++ String.intercalate ", " items ++ ")"

/-- A list of names, each as a literal. -/
def nameList (names : List String) : String :=
  bracketed (names.map quote)

/-- A tuple of names, each as a literal. -/
def nameTuple (names : List String) : String :=
  parenthesized (names.map quote)

end Text
end RowReader
