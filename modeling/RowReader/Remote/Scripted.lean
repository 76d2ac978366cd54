import RowReader.Remote

/-!
# Scripted servers

A server that holds the bytes of one file, answers for every URL, and follows a script of faults.
Requests are counted from one and recorded, those included that fail.  Without a file there is no
server to record anything.
-/

namespace RowReader

/-- The content range that answers state. -/
inductive StatedRange where
  | actual
  | absent
  | fixed (text : String)

inductive ServerMishap where
  | raise (e : Error)
  | raiseOnRead (e : Error)
  | short (count : Nat)

/-- What goes wrong with the `nth` request. -/
structure ServerFault where
  nth : Nat
  mishap : ServerMishap

structure ScriptedServer where
  data : Option (List UInt8)
  statedRange : StatedRange := .actual
  faults : List ServerFault := []
  /-- The requests so far, the last one first. -/
  requested : List String := []

namespace ScriptedServer

def unreachable : ScriptedServer := { data := none }

/-- The requests so far, in order. -/
def requests (srv : ScriptedServer) : List String := srv.requested.reverse

/-- The URL that a request names: without blanks at its end, and without the mark of an empty
fragment. -/
def namedUrl (url : String) : String :=
  let cs := Text.dropEndWhile Text.isBlank url.toList
  String.ofList (if cs.getLast? = some '#' then cs.dropLast else cs)

def contentRange (srv : ScriptedServer) (data : List UInt8) (first last : Int) : Option String :=
  match srv.statedRange with
  | .actual => some s!"bytes {first}-{last}/{data.length}"
  | .absent => none
  | .fixed text => some text

/-- The bytes of an answer under the mishaps of its request. -/
def bodyUnder (mishaps : List ServerMishap) (bytes : List UInt8) : Except Error (List UInt8) :=
  match mishaps with
  | [] => .ok bytes
  | .raiseOnRead e :: _ => .error e
  | .short count :: rest => bodyUnder rest (bytes.take count)
  | .raise _ :: rest => bodyUnder rest bytes

def raised? : List ServerMishap → Option Error
  | [] => none
  | .raise e :: _ => some e
  | _ :: rest => raised? rest

/-- Answers a request.  A range that begins before the first byte is not understood. -/
def answer (srv : ScriptedServer) (data : List UInt8) (first last : Int) : Except Error Response :=
  let mishaps := (srv.faults.filter fun f => f.nth == srv.requested.length).map ServerFault.mishap
  match raised? mishaps with
  | some e => .error e
  | none =>
    if first < 0 then .error (.fault (.notANumeral "" .malformed))
    else
      .ok
        { contentRange := srv.contentRange data first last
          body := bodyUnder mishaps (slice data first.toNat (last + 1).toNat) }

def request (url : String) (first last : Int) : Action ScriptedServer Response := do
  match (← Action.getState).data with
  | none => Action.fail (.fault ⟨.system .url, "no server"⟩)
  | some data =>
    let line := namedUrl url ++ s!" bytes={first}-{last}"
    Action.modifyState fun srv => { srv with requested := line :: srv.requested }
    Action.ofExcept ((← Action.getState).answer data first last)

def server : Server ScriptedServer where
  request := request

end ScriptedServer
end RowReader
