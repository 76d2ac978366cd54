import RowReader.Remote.Scripted
import RowReader.Proofs.Remote.Holding

/-!
# Scripted servers hold their bytes

A scripted server serves its bytes in any manner that allows each mishap of its script.  Without
mishaps it is faithful.
-/

namespace RowReader

open RowReader.Action

/-- The mishaps that a manner of serving has room for. -/
inductive Manner.Allows (manner : Manner) : ServerMishap → Prop where
  | raise {f : Fault} (fault : manner.faults f) : Allows manner (.raise (.fault f))
  | raiseOnRead {f : Fault} (fault : manner.faults f) : Allows manner (.raiseOnRead (.fault f))
  | short {count : Nat}
      (cut : ∀ data wanted, manner.delivers data wanted → manner.delivers (data.take count) wanted) :
      Allows manner (.short count)

theorem Manner.lossy_allows_short (count : Nat) : Manner.lossy.Allows (.short count) :=
  .short fun data _ front => (List.take_prefix count data).trans front

namespace ScriptedServer

/-- The server has these bytes, states their number and follows a script that the manner allows. -/
structure Keeps (bytes : List UInt8) (manner : Manner) (srv : ScriptedServer) : Prop where
  data : srv.data = some bytes
  statedRange : srv.statedRange = .actual
  faults : ∀ fault ∈ srv.faults, manner.Allows fault.mishap

variable {manner : Manner} {bytes : List UInt8} {srv : ScriptedServer}

/-- The bytes of an answer are those wanted, or what the mishaps leave of them. -/
theorem answers_bodyUnder {mishaps : List ServerMishap} {data wanted : List UInt8}
    {contentRange : Option String} (allowed : ∀ mishap ∈ mishaps, manner.Allows mishap)
    (part : manner.delivers data wanted) :
    manner.Answers wanted (.ok { contentRange, body := bodyUnder mishaps data }) := by
  induction mishaps generalizing data with
  | nil => exact .delivered part
  | cons mishap rest ih =>
    rcases List.forall_mem_cons.mp allowed with ⟨first, others⟩
    cases first with
    | raise fault => exact ih others part
    | raiseOnRead fault => exact .broken fault
    | short cut => exact ih others (cut data wanted part)

theorem raised?_allowed {mishaps : List ServerMishap} {e : Error}
    (allowed : ∀ mishap ∈ mishaps, manner.Allows mishap) (raised : raised? mishaps = some e) :
    ∃ f, e = .fault f ∧ manner.faults f := by
  induction mishaps with
  | nil => cases raised
  | cons mishap rest ih =>
    rcases List.forall_mem_cons.mp allowed with ⟨first, others⟩
    cases first with
    | raise fault =>
      cases raised
      exact ⟨_, rfl, fault⟩
    | raiseOnRead fault => exact ih others raised
    | short cut => exact ih others raised

/-- The server with one more request on record. -/
def recorded (srv : ScriptedServer) (url : String) (first last : Int) : ScriptedServer :=
  { srv with requested := (namedUrl url ++ s!" bytes={first}-{last}") :: srv.requested }

theorem Keeps.recorded (keeps : Keeps bytes manner srv) (url : String) (first last : Int) :
    Keeps bytes manner (srv.recorded url first last) :=
  ⟨keeps.data, keeps.statedRange, keeps.faults⟩

/-- A request is recorded, and is then answered from the bytes. -/
theorem request_yields (held : srv.data = some bytes) (url : String) (first last : Int) :
    Yields (request url first last) srv ((srv.recorded url first last).answer bytes first last)
      (srv.recorded url first last) := by
  apply (yields_getState srv).bind
  simp only [held]
  apply (yields_modifyState _ srv).bind
  exact (yields_getState (srv.recorded url first last)).bind (yields_ofExcept _ _)

/-- The mishaps of the request on record last. -/
def mishaps (srv : ScriptedServer) : List ServerMishap :=
  (srv.faults.filter fun f => f.nth == srv.requested.length).map ServerFault.mishap

theorem mishaps_allowed (allowed : ∀ fault ∈ srv.faults, manner.Allows fault.mishap) :
    ∀ mishap ∈ srv.mishaps, manner.Allows mishap := by
  intro mishap member
  rcases List.mem_map.mp member with ⟨fault, planned, rfl⟩
  exact allowed fault (List.mem_filter.mp planned).1

theorem answer_of_raised {e : Error} (raised : raised? srv.mishaps = some e) (data : List UInt8)
    (first last : Int) : srv.answer data first last = .error e := by
  unfold answer
  unfold mishaps at raised
  simp only [raised]

theorem answer_of_not_raised (passed : raised? srv.mishaps = none) (data : List UInt8)
    {first : Int} (last : Int) (front : 0 ≤ first) :
    srv.answer data first last = .ok
      { contentRange := srv.contentRange data first last
        body := bodyUnder srv.mishaps (slice data first.toNat (last + 1).toNat) } := by
  unfold answer
  unfold mishaps at passed ⊢
  simp only [passed, if_neg (Int.not_lt.mpr front)]

/-- Whatever is stated of them, bytes are answered as the script lets them. -/
theorem answer_allowed (allowed : ∀ fault ∈ srv.faults, manner.Allows fault.mishap)
    (bytes : List UInt8) {first : Int} (last : Int) (front : 0 ≤ first) :
    manner.Answers (slice bytes first.toNat (last + 1).toNat) (srv.answer bytes first last) := by
  cases raised : raised? srv.mishaps with
  | some e =>
    rcases raised?_allowed (mishaps_allowed allowed) raised with ⟨f, rfl, fault⟩
    rw [answer_of_raised raised]
    exact .refused fault
  | none =>
    rw [answer_of_not_raised raised bytes last front]
    exact answers_bodyUnder (mishaps_allowed allowed) (manner.all_of_wanted _)

/-- Every answer states its range and the number of bytes. -/
theorem Keeps.states (keeps : Keeps bytes manner srv) {first last : Int} {response : Response}
    (front : 0 ≤ first) (answered : srv.answer bytes first last = .ok response) :
    response.contentRange = some s!"bytes {first}-{last}/{bytes.length}" := by
  cases raised : raised? srv.mishaps with
  | some e =>
    rw [answer_of_raised raised] at answered
    cases answered
  | none =>
    rw [answer_of_not_raised raised bytes last front] at answered
    cases answered
    simp only [contentRange, keeps.statedRange]

/-- A scripted server holds its bytes, provided that the number it states reads as theirs. -/
theorem holds (url : String) (bytes : List UInt8) (manner : Manner)
    (total : Remote.totalSize s!"bytes {(0 : Int)}-{(0 : Int)}/{bytes.length}" = .ok bytes.length) :
    server.Holds url bytes manner (Keeps bytes manner) where
  stays := by
    intro srv first last keeps
    have asked : Yields (server.request url first last) srv _ _ :=
      request_yields keeps.data url first last
    exact asked.state ▸ keeps.recorded url first last
  answers := by
    intro srv first last keeps front _
    have asked : Yields (server.request url first last) srv _ _ :=
      request_yields keeps.data url first last
    exact asked.result ▸ answer_allowed (keeps.recorded url first last).faults bytes last front
  stated := by
    intro srv response keeps answered
    have asked : Yields (server.request url 0 0) srv _ _ := request_yields keeps.data url 0 0
    exact ⟨_, (keeps.recorded url 0 0).states (Int.le_refl 0) (asked.result ▸ answered), total⟩

end ScriptedServer
end RowReader
