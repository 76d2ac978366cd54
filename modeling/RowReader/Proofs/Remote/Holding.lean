import RowReader.Remote
import RowReader.Proofs.Action.Yields

/-!
# Servers that hold the bytes of a file

A server need not answer: a request may be met with a fault of the network, at once or only when the
body is read, and what comes may be cut short.  `Manner` says how far a server may go in this, and
`Server.Holds` that it holds certain bytes and answers about them in that manner, in whatever states
its requests take it to.  Asking for the size and fetching a range are described for every manner at
once.
-/

namespace RowReader

open RowReader.Action

/-- How a server answers for the bytes it holds. -/
structure Manner where
  /-- Which bytes may come for those that are wanted. -/
  delivers : List UInt8 → List UInt8 → Prop
  /-- The faults it may answer with. -/
  faults : Fault → Prop
  all_of_wanted : ∀ wanted, delivers wanted wanted
  front_of_wanted : ∀ {data wanted}, delivers data wanted → data <+: wanted
  fault_isSystem : ∀ {f}, faults f → f.isSystem = true

namespace Manner

/-- Answers may be cut short and requests may fail. -/
def lossy : Manner where
  delivers := fun data wanted => data <+: wanted
  faults := fun f => f.isSystem = true
  all_of_wanted := fun _ => List.prefix_rfl
  front_of_wanted := id
  fault_isSystem := id

/-- Requests may fail, but no answer is cut short. -/
def unabridged : Manner where
  delivers := fun data wanted => data = wanted
  faults := fun f => f.isSystem = true
  all_of_wanted := fun _ => rfl
  front_of_wanted := fun same => same ▸ List.prefix_rfl
  fault_isSystem := id

/-- No request fails and no answer is cut short. -/
def faithful : Manner where
  delivers := fun data wanted => data = wanted
  faults := fun _ => False
  all_of_wanted := fun _ => rfl
  front_of_wanted := fun same => same ▸ List.prefix_rfl
  fault_isSystem := False.elim

/-- What may come of a request for some bytes. -/
inductive Answers (manner : Manner) (wanted : List UInt8) : Except Error Response → Prop where
  | refused {f : Fault} (fault : manner.faults f) : Answers manner wanted (.error (.fault f))
  | broken {contentRange : Option String} {f : Fault} (fault : manner.faults f) :
      Answers manner wanted (.ok { contentRange, body := .error (.fault f) })
  | delivered {contentRange : Option String} {data : List UInt8}
      (part : manner.delivers data wanted) :
      Answers manner wanted (.ok { contentRange, body := .ok data })

end Manner

variable {ω : Type}

/-- The server holds these bytes for a URL in the states of which `good` holds, which its requests
never leave: every range is answered with its bytes, in this manner, and the answer to the request
for the first byte states how many there are. -/
structure Server.Holds (srv : Server ω) (url : String) (bytes : List UInt8) (manner : Manner)
    (good : ω → Prop) : Prop where
  stays : ∀ {w : ω} {first last : Int}, good w → good (srv.request url first last w).state
  answers : ∀ {w : ω} (first last : Int), good w → 0 ≤ first → first ≤ last →
    manner.Answers (slice bytes first.toNat (last + 1).toNat) (srv.request url first last w).result
  stated : ∀ {w : ω} {response : Response}, good w →
    (srv.request url 0 0 w).result = .ok response →
    ∃ text, response.contentRange = some text ∧ Remote.totalSize text = .ok bytes.length

namespace Remote

variable {srv : Server ω} {url : String} {bytes : List UInt8} {manner : Manner} {good : ω → Prop}

theorem mapError_networkError {α : Type} (reword : Fault → Error) {f : Fault}
    (system : f.isSystem = true) :
    (Except.error (.fault f) : Except Error α).mapError (networkError reword) =
      .error (reword f) :=
  congrArg Except.error (if_pos system)

theorem checkUrl_of_isUrl (named : isUrl url = true) : checkUrl url = .ok () :=
  if_pos named

theorem checkUrl_of_not (other : isUrl url = false) : checkUrl url = .error .notAUrl := by
  rw [checkUrl, other]
  rfl

/-- The size is that of the bytes, unless the request for it fails. -/
theorem length_yields (holds : srv.Holds url bytes manner good) (named : isUrl url = true) {w : ω}
    (here : good w) :
    ∃ w', good w' ∧ (Yields (length srv url) w (.ok bytes.length) w' ∨
      ∃ f, manner.faults f ∧ Yields (length srv url) w (.error (.unknownSize url f)) w') := by
  refine ⟨(srv.request url 0 0 w).state, holds.stays here, ?_⟩
  have allowed := yields_ofExcept_of_eq (checkUrl_of_isUrl named) w
  have asked := yields_self (srv.request url 0 0) w
  have answered := holds.answers 0 0 here (Int.le_refl 0) (Int.le_refl 0)
  cases found : (srv.request url 0 0 w).result with
  | ok response =>
    rcases holds.stated here found with ⟨text, states, total⟩
    rw [found] at asked
    refine Or.inl (allowed.bind ((asked.mapError _).bind ?_))
    simp only [states, total]
    exact yields_ofExcept _ _
  | error e =>
    rw [found] at asked answered
    cases answered with
    | refused fault =>
      have failed := asked.mapError (networkError (.unknownSize url))
      rw [mapError_networkError _ (manner.fault_isSystem fault)] at failed
      exact Or.inr ⟨_, fault, allowed.bind failed.bind_error⟩

/-- Fetching a range brings what the manner allows of its bytes, or fails by a fault of the
network. -/
theorem fetch_yields (holds : srv.Holds url bytes manner good) (named : isUrl url = true) {w : ω}
    (here : good w) {start stop : Nat} (some_wanted : start < stop) :
    ∃ w', good w' ∧
      ((∃ data, manner.delivers data (slice bytes start stop) ∧
          Yields (fetch srv url start stop) w (.ok data) w') ∨
        ∃ f, manner.faults f ∧
          Yields (fetch srv url start stop) w (.error (.fetchFailed url start stop f)) w') := by
  refine ⟨(srv.request url start (stop - 1) w).state, holds.stays here, ?_⟩
  have allowed := yields_ofExcept_of_eq (checkUrl_of_isUrl named) w
  have answered := holds.answers start (stop - 1) here (by omega) (by omega)
  rw [Int.toNat_natCast, Int.sub_add_cancel, Int.toNat_natCast] at answered
  have asked := yields_self (srv.request url start (stop - 1)) w
  have toFetch {r : Except Error (List UInt8)} {t : ω}
      (replied : Yields (do
        let response ← srv.request url start (stop - 1)
        ofExcept response.body) w r t) :
      Yields (fetch srv url start stop) w
        (r.mapError (networkError (.fetchFailed url start stop))) t := by
    apply allowed.bind
    rw [if_neg (by omega)]
    exact replied.mapError _
  generalize (srv.request url start (stop - 1) w).result = reply at answered asked
  cases answered with
  | refused fault =>
    have failed := toFetch asked.bind_error
    rw [mapError_networkError _ (manner.fault_isSystem fault)] at failed
    exact Or.inr ⟨_, fault, failed⟩
  | broken fault =>
    have failed := toFetch (asked.bind (yields_ofExcept _ _))
    rw [mapError_networkError _ (manner.fault_isSystem fault)] at failed
    exact Or.inr ⟨_, fault, failed⟩
  | delivered part =>
    exact Or.inl ⟨_, part, toFetch (asked.bind (yields_ofExcept _ _))⟩

end Remote
end RowReader
