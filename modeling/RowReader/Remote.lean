import RowReader.Action
import RowReader.ByteFile
import RowReader.Text.Blank

/-!
# Remote files

A remote file is reached by requests for ranges of its bytes.  `Server ω` answers such requests and
keeps whatever it likes in its state `ω`; it may answer with too few bytes, or not at all.

A range request gives both ends of the range, the last byte included.  The file's size is not asked
for as such: it stands behind the last slash of the content range that answers a request for one
byte.
-/

namespace RowReader

structure Response where
  contentRange : Option String
  /-- The bytes of the answer, which are fetched only when they are read. -/
  body : Except Error (List UInt8)

structure Server (ω : Type) where
  /-- Asks a URL for the bytes from one position to another, both included. -/
  request : String → Int → Int → Action ω Response

/-- No server at all. -/
def Server.unreachable : Server Unit where
  request := fun _ _ _ => Action.fail (.fault ⟨.system .url, "no server"⟩)

namespace Remote

variable {ω : Type}

def isUrl (location : String) : Bool :=
  "http:".toList.isPrefixOf location.toList || "https:".toList.isPrefixOf location.toList

def checkUrl (url : String) : Except Error Unit :=
  if isUrl url then .ok () else .error .notAUrl

/-- Rewords an error of the network; any other error is no matter of the network. -/
def networkError (reword : Fault → Error) : Error → Error
  | .fault f => if f.isSystem then reword f else .fault f
  | e => e

/-- The text behind the last slash. -/
def behindLastSlash (text : String) : String :=
  String.ofList (text.toList.reverse.takeWhile fun c => c != '/').reverse

/-- The total size that a content range states. -/
def totalSize (contentRange : String) : Except Error Int :=
  let total := behindLastSlash contentRange
  (Number.readInteger total).mapError fun e => .fault (.notANumeral total e)

/-- The size of a remote file. -/
def length (srv : Server ω) (url : String) : Action ω Int := do
  Action.ofExcept (checkUrl url)
  let response ← (srv.request url 0 0).mapError (networkError (.unknownSize url))
  match response.contentRange with
  | none => Action.fail (.rangesUnsupported url)
  | some contentRange => Action.ofExcept (totalSize contentRange)

/-- The bytes from `start` up to `stop`. -/
def fetch (srv : Server ω) (url : String) (start stop : Int) : Action ω (List UInt8) := do
  Action.ofExcept (checkUrl url)
  if stop ≤ start then Action.fail (.emptyRange start stop)
  else
    let reply : Action ω (List UInt8) := do
      let response ← srv.request url start (stop - 1)
      Action.ofExcept response.body
    reply.mapError (networkError (.fetchFailed url start stop))

end Remote
end RowReader
