import RowReader.Number.Numeral
import RowReader.Text.Quoted

/-!
# Errors

Two sorts of error end a call.  A *fault* comes from a collaborator: the decoder of pages and
footers, the operating system, the network, or a conversion.  Every other error is the reader's
own and records its cause; many of them wrap the fault that led to them.

`Error.kind?` sorts the reader's errors into a small tree, and `Error.message` words them.  The sizes,
counts and positions of what is stored are short enough to be written in a message; an integer that a
caller gives need not be, and is checked where the error is raised.
-/

namespace RowReader

/-- The kinds of error the reader itself raises. -/
inductive ErrorKind where
  | reading
  | opening
  | location
  | network
  | schema
  | decoding
  | rowGroupTooLarge
  | closed
  deriving DecidableEq, Repr

namespace ErrorKind

def all : List ErrorKind :=
  [reading, opening, location, network, schema, decoding, rowGroupTooLarge, closed]

/-- The name that users know a kind by. -/
def name : ErrorKind → String
  | reading => "ParquetRowsError"
  | opening => "ParquetOpenError"
  | location => "ParquetUrlError"
  | network => "ParquetNetworkError"
  | schema => "ParquetSchemaError"
  | decoding => "ParquetDecodeError"
  | rowGroupTooLarge => "ParquetRowGroupTooLargeError"
  | closed => "ParquetClosedError"

def ofName? (name : String) : Option ErrorKind :=
  all.find? fun kind => kind.name == name

/-- A kind with the more general kinds above it, the most general last. -/
def lineage : ErrorKind → List ErrorKind
  | reading => [reading]
  | opening => [opening, reading]
  | location => [location, opening, reading]
  | network => [network, opening, reading]
  | schema => [schema, reading]
  | decoding => [decoding, reading]
  | rowGroupTooLarge => [rowGroupTooLarge, decoding, reading]
  | closed => [closed, reading]

end ErrorKind

inductive DecoderFault where
  | general
  | invalid
  | unsupported
  | type
  | key
  | index
  | capacity
  deriving DecidableEq, Repr

inductive SystemFault where
  | general
  | notFound
  | isDirectory
  | notDirectory
  | nameTooLong
  | permission
  | timeout
  | connectionReset
  | url
  | http (code : Int)
  deriving DecidableEq, Repr

inductive FaultKind where
  | decoder (kind : DecoderFault)
  | system (kind : SystemFault)
  | value
  | key
  | index
  | overflow
  | type
  | runtime
  | endOfInput
  /-- The fault by which an iterator tells that nothing is left. -/
  | endOfIteration
  deriving DecidableEq, Repr

/-- An error of a collaborator. -/
structure Fault where
  kind : FaultKind
  message : String
  deriving DecidableEq, Repr

namespace Fault

/-- What a fault says when it is quoted in a message. -/
def text (f : Fault) : String :=
  match f.kind with
  | .key => Text.quote f.message
  | .system .url => "<urlopen error " ++ f.message ++ ">"
  | .system (.http code) => "HTTP Error " ++ toString code ++ ": " ++ f.message
  | _ => f.message

def isDecoder (f : Fault) : Bool :=
  match f.kind with
  | .decoder _ => true
  | _ => false

def isSystem (f : Fault) : Bool :=
  match f.kind with
  | .system _ => true
  | _ => false

def isValue (f : Fault) : Bool :=
  f.kind == .value || f.kind == .decoder .invalid

def isKey (f : Fault) : Bool :=
  f.kind == .key || f.kind == .decoder .key

/-- A text that should have been an integer. -/
def notANumeral (text : String) (e : Number.NumeralError) : Fault :=
  ⟨.value, e.message text⟩

/-- An integer that should have been written. -/
def overlong (e : Number.Overlong) : Fault :=
  ⟨.value, e.message⟩

end Fault

/-- Which end of a file a check looks at. -/
inductive FileEnd where
  | header
  | footer
  deriving DecidableEq, Repr

def FileEnd.name : FileEnd → String
  | header => "header"
  | footer => "footer"

/-- The four bytes at both ends of a file. -/
def magic : List UInt8 := [0x50, 0x41, 0x52, 0x31]

inductive Error where
  | fault (f : Fault)
  /-- An error of the reader's kinds raised by a collaborator. -/
  | reported (kind : ErrorKind) (message : String)
  | notAUrl
  | emptyRange (start stop : Int)
  | unknownSize (url : String) (cause : Fault)
  | rangesUnsupported (url : String)
  | fetchFailed (url : String) (start stop : Int) (cause : Fault)
  | cannotOpen (location : String) (cause : Fault)
  | cannotRead (name : String) (cause : Fault)
  | tooSmall (size : Nat)
  | wrongMagic (fileEnd : FileEnd) (found : List UInt8)
  | footerCut
  | footerLength (length size : Nat)
  | footerUnparsed (name : String) (cause : Fault)
  | schemaUnreadable (name : String) (cause : Fault)
  | columnsNotFound (missing available : List String)
  | rowGroupTooLarge (index : Nat) (name : String) (size limit : Int)
  | undecodable (index : Nat) (name : String) (cause : Fault)
  | rowCountMismatch (index declared decoded : Int)
  | rowOutOfRange (row index rows : Int)
  | fieldsNotDecoded (index : Int) (missing available : List String)
  | unconvertible (index : Int) (cause : Fault)
  | rowWidth (row : Nat) (index : Int) (found expected : Nat)
  | passConsumed
  | sourceClosed (name : String)
  | remoteClosed (url : String)
  deriving DecidableEq, Repr

namespace Error

/-- The kind of one of the reader's own errors; a fault that came through has none. -/
def kind? : Error → Option ErrorKind
  | fault _ => none
  | reported kind _ => some kind
  | notAUrl => some .location
  | emptyRange _ _ => some .location
  | unknownSize _ _ => some .network
  | rangesUnsupported _ => some .network
  | fetchFailed _ _ _ _ => some .network
  | cannotOpen _ _ => some .opening
  | cannotRead _ _ => some .opening
  | tooSmall _ => some .opening
  | wrongMagic _ _ => some .opening
  | footerCut => some .schema
  | footerLength _ _ => some .schema
  | footerUnparsed _ _ => some .schema
  | schemaUnreadable _ _ => some .schema
  | columnsNotFound _ _ => some .schema
  | rowGroupTooLarge _ _ _ _ => some .rowGroupTooLarge
  | undecodable _ _ _ => some .decoding
  | rowCountMismatch _ _ _ => some .decoding
  | rowOutOfRange _ _ _ => some .decoding
  | fieldsNotDecoded _ _ _ => some .decoding
  | unconvertible _ _ => some .decoding
  | rowWidth _ _ _ _ => some .decoding
  | passConsumed => some .closed
  | sourceClosed _ => some .closed
  | remoteClosed _ => some .closed

def message : Error → String
  | fault f => f.text
  | reported _ message => message
  | notAUrl => "URL must start with 'http:' or 'https:'"
  | emptyRange start stop =>
    s!"Starting byte must be less than ending byte: {start} >= {stop}"
  | unknownSize url cause => "Cannot determine file size for " ++ url ++ ": " ++ cause.text
  | rangesUnsupported url => "Server does not support range requests for " ++ url
  | fetchFailed url start stop cause =>
    s!"Failed to fetch bytes {start}-{stop} from " ++ url ++ ": " ++ cause.text
  | cannotOpen location cause => "Cannot open " ++ location ++ ": " ++ cause.text
  | cannotRead name cause => "Cannot read " ++ name ++ ": " ++ cause.text
  | tooSmall size => s!"File too small to be a valid Parquet file: {size} bytes"
  | wrongMagic fileEnd found =>
    "Invalid Parquet magic bytes in " ++ fileEnd.name ++ ": expected " ++ Text.quoteBytes magic
      ++ ", got " ++ Text.quoteBytes found
  | footerCut => "Could not read complete footer"
  | footerLength length size => s!"Invalid footer length {length} for a {size} byte file"
  | footerUnparsed name cause => "Cannot parse footer metadata of " ++ name ++ ": " ++ cause.text
  | schemaUnreadable name cause => "Cannot interpret schema of " ++ name ++ ": " ++ cause.text
  | columnsNotFound missing available =>
    "Columns " ++ Text.nameList missing ++ " not found. Available columns: "
      ++ Text.nameList available
  | rowGroupTooLarge index name size limit =>
    s!"Row group {index} of " ++ name ++ s!" is too big: {size} bytes (limit {limit})"
  | undecodable index name cause =>
    s!"Cannot decode row group {index} of " ++ name ++ ": " ++ cause.text
  | rowCountMismatch index declared decoded =>
    s!"Row group {index} declares {declared} rows but its pages decoded to {decoded}"
  | rowOutOfRange row index rows =>
    s!"Row {row} out of range for row group {index} with {rows} rows"
  | fieldsNotDecoded index missing available =>
    s!"Row group {index} has no data for fields " ++ Text.nameList missing
      ++ ". Decoded columns: " ++ Text.nameList available
  | unconvertible index cause =>
    s!"Cannot convert row group {index} to Python values: " ++ cause.text
  | rowWidth row index found expected =>
    s!"Row {row} of row group {index} has {found} values for {expected} schema fields"
  | passConsumed => "Materializer has already consumed its source"
  | sourceClosed name => "Source " ++ name ++ " is closed"
  | remoteClosed url => "I/O operation on closed file " ++ url

/-- An error whose message quotes integers that a caller gave.  It cannot be worded if one of them is
too long to be written, and the fault of writing that one is raised in its place. -/
def quoting (given : List Int) (e : Error) : Error :=
  if ∀ n ∈ given, Number.Short n then e else .fault (.overlong {})

theorem quoting_of_short {given : List Int} (short : ∀ n ∈ given, Number.Short n) (e : Error) :
    quoting given e = e :=
  if_pos short

theorem quoting_overlong {given : List Int} (long : ¬ ∀ n ∈ given, Number.Short n) (e : Error) :
    quoting given e = .fault (.overlong {}) :=
  if_neg long

/-- An error as it leaves the iteration that it was raised in.  The fault that ends an iteration would
be taken for the end of this one, so that it is replaced. -/
def outOfIteration : Error → Error
  | fault ⟨.endOfIteration, _⟩ => fault ⟨.runtime, "generator raised StopIteration"⟩
  | e => e

@[simp]
theorem kind?_outOfIteration (e : Error) : e.outOfIteration.kind? = e.kind? := by
  unfold outOfIteration
  split <;> rfl

/-- One iteration inside of another one changes nothing. -/
@[simp]
theorem outOfIteration_outOfIteration (e : Error) :
    e.outOfIteration.outOfIteration = e.outOfIteration := by
  cases e with
  | fault f =>
    rcases f with ⟨kind, message⟩
    cases kind <;> rfl
  | _ => rfl

/-- The reader's own errors leave an iteration as they are. -/
theorem outOfIteration_of_kind? {e : Error} (own : e.kind?.isSome) : e.outOfIteration = e := by
  unfold outOfIteration
  split
  · cases own
  · rfl

end Error
end RowReader
