import RowReader.Number.Numeral
import RowReader.Value

/-!
# The text of a value

`literal` is the form that shows the kind of a value, used for everything inside a nested value
and in messages.  `shown` is the form a cell has on its own: texts, calendar values and decimals
stand without quotes or type names.  A value has neither if an integer in it is too long to be
written.
-/

namespace RowReader
namespace Value

def truthText (b : Bool) : String :=
  if b then "True" else "False"

mutual

def literal : Value → Except Number.Overlong String
  | null => .ok "None"
  | bool b => .ok (truthText b)
  | int n => Number.writeInteger n
  | float x => .ok x.text
  | text s => .ok (Text.quote s)
  | bytes data => .ok (Text.quoteBytes data)
  | date d => .ok d.literal
  | time t => .ok t.literal
  | moment m => .ok m.literal
  | duration d => .ok d.literal
  | decimal d => .ok ("Decimal('" ++ d.text ++ "')")
  | list items => (literals items).map Text.bracketed
  | tuple items => (literals items).map Text.parenthesized
  | dict entries =>
    (entryLiterals entries).map fun parts => "\x7b" ++ String.intercalate ", " parts ++ "\x7d"
  | record cells =>
    (cellLiterals cells).map fun parts => "Row(" ++ String.intercalate ", " parts ++ ")"

def literals : List Value → Except Number.Overlong (List String)
  | [] => .ok []
  | v :: rest => do
    let text ← literal v
    return text :: (← literals rest)

def entryLiterals : List (Value × Value) → Except Number.Overlong (List String)
  | [] => .ok []
  | (key, v) :: rest => do
    let name ← literal key
    let text ← literal v
    return (name ++ ": " ++ text) :: (← entryLiterals rest)

/-- Field names stand bare before an equals sign. -/
def cellLiterals : List (String × Value) → Except Number.Overlong (List String)
  | [] => .ok []
  | (name, v) :: rest => do
    let text ← literal v
    return (name ++ "=" ++ text) :: (← cellLiterals rest)

end

def shown : Value → Except Number.Overlong String
  | text s => .ok s
  | date d => .ok d.text
  | time t => .ok t.text
  | moment m => .ok (m.textWith " ")
  | duration d => .ok d.text
  | decimal d => .ok d.text
  | v => literal v

end Value
end RowReader
