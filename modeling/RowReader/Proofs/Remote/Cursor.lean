import RowReader.ByteFile
import RowReader.Error

/-!
# A cursor over bytes

What a file that is read from a position should be: bytes, and a place among them.  Nothing is
fetched or kept here.  `Cursor.Step` says what each call may be answered with.  It leaves open which
part of the wanted bytes a read delivers and whether a read fails, but not where the cursor then
stands: behind the bytes that were delivered, or where it stood.  `Cursor.ideal` is the cursor whose
reads never fail and deliver all that is wanted.
-/

namespace RowReader
namespace Cursor

/-- A read of so many bytes or of the rest, a move by an offset from the origin of a code, or the
question for the position. -/
inductive Call where
  | read (count : Option Int)
  | seek (offset whence : Int)
  | tell

inductive Reply where
  | data (answer : Except Error (List UInt8))
  | position (answer : Except Error Nat)

namespace Reply

def failsToRead : Reply → Bool
  | data (.error _) => true
  | _ => false

/-- The bytes a reply brings. -/
def bytes : Reply → List UInt8
  | data (.ok found) => found
  | _ => []

end Reply

/-- The bytes that a read wants: at most so many, and all that follow if there is no count or a
negative one. -/
def window (bytes : List UInt8) (p : Nat) : Option Int → List UInt8
  | none => bytes.drop p
  | some n => if n < 0 then bytes.drop p else (bytes.drop p).take n.toNat

/-- Where a move leads to if the bytes went on without end on both sides. -/
def aim (bytes : List UInt8) (p : Nat) (offset whence : Int) : Option Int :=
  if whence = 0 then some offset
  else if whence = 1 then some (p + offset)
  else if whence = 2 then some (bytes.length + offset)
  else none

/-- A position brought between the front and the end of the bytes. -/
def inside (bytes : List UInt8) (position : Int) : Nat :=
  (max 0 (min position bytes.length)).toNat

def invalidWhence (whence : Int) : Error :=
  .fault ⟨.value, s!"Invalid whence value: {whence}"⟩

/-- What a call at a position is answered with, and the position after it. -/
inductive Step (delivers : List UInt8 → List UInt8 → Prop) (bytes : List UInt8) (p : Nat) :
    Call → Reply → Nat → Prop where
  | read {count : Option Int} {data : List UInt8} (part : delivers data (window bytes p count)) :
      Step delivers bytes p (.read count) (.data (.ok data)) (p + data.length)
  | failed {count : Option Int} {e : Error} (network : e.kind? = some .network) :
      Step delivers bytes p (.read count) (.data (.error e)) p
  | moved {offset whence target : Int} (aimed : aim bytes p offset whence = some target) :
      Step delivers bytes p (.seek offset whence) (.position (.ok (inside bytes target)))
        (inside bytes target)
  | astray {offset whence : Int} (nowhere : aim bytes p offset whence = none) :
      Step delivers bytes p (.seek offset whence) (.position (.error (invalidWhence whence))) p
  | told : Step delivers bytes p .tell (.position (.ok p)) p

/-- A sequence of calls with their replies, from one position to another. -/
inductive Run (delivers : List UInt8 → List UInt8 → Prop) (bytes : List UInt8) :
    Nat → List Call → List Reply → Nat → Prop where
  | nil {p : Nat} : Run delivers bytes p [] [] p
  | cons {p q r : Nat} {call : Call} {calls : List Call} {reply : Reply} {replies : List Reply}
      (step : Step delivers bytes p call reply q) (rest : Run delivers bytes q calls replies r) :
      Run delivers bytes p (call :: calls) (reply :: replies) r

/-- The reply of the cursor that never fails and delivers all, and the position after it. -/
def respond (bytes : List UInt8) (p : Nat) : Call → Reply × Nat
  | .read count => (.data (.ok (window bytes p count)), p + (window bytes p count).length)
  | .seek offset whence =>
    match aim bytes p offset whence with
    | some target => (.position (.ok (inside bytes target)), inside bytes target)
    | none => (.position (.error (invalidWhence whence)), p)
  | .tell => (.position (.ok p), p)

/-- All replies of the cursor that never fails and delivers all. -/
def ideal (bytes : List UInt8) : Nat → List Call → List Reply
  | _, [] => []
  | p, call :: calls => (respond bytes p call).1 :: ideal bytes (respond bytes p call).2 calls

variable {delivers : List UInt8 → List UInt8 → Prop} {bytes : List UInt8} {p q : Nat}

/-- What holds of all that is delivered may be said of it in a run. -/
theorem Run.mono {delivers' : List UInt8 → List UInt8 → Prop}
    (weaken : ∀ data wanted, delivers data wanted → delivers' data wanted) {calls : List Call}
    {replies : List Reply} (run : Run delivers bytes p calls replies q) :
    Run delivers' bytes p calls replies q := by
  induction run with
  | nil => exact .nil
  | cons step rest ih =>
    refine .cons ?_ ih
    cases step with
    | read part => exact .read (weaken _ _ part)
    | failed network => exact .failed network
    | moved aimed => exact .moved aimed
    | astray nowhere => exact .astray nowhere
    | told => exact .told

/-- A read that does not fail is answered in one way only if nothing is ever cut short. -/
theorem Step.respond_eq {call : Call} {reply : Reply} (step : Step (· = ·) bytes p call reply q)
    (succeeds : reply.failsToRead = false) : respond bytes p call = (reply, q) := by
  cases step with
  | read whole =>
    rw [respond, ← whole]
  | failed network => cases succeeds
  | moved aimed =>
    rw [respond, aimed]
  | astray nowhere =>
    rw [respond, nowhere]
  | told => rfl

/-- Where no read fails and nothing is cut short, the replies are those of the ideal cursor. -/
theorem Run.eq_ideal {calls : List Call} {replies : List Reply}
    (run : Run (· = ·) bytes p calls replies q)
    (succeed : ∀ reply ∈ replies, reply.failsToRead = false) : replies = ideal bytes p calls := by
  induction run with
  | nil => rfl
  | cons step rest ih =>
    rcases List.forall_mem_cons.mp succeed with ⟨first, others⟩
    rw [ideal, step.respond_eq first, ← ih others]

theorem slice_self (bytes : List UInt8) (p : Nat) : slice bytes p p = [] := by
  rw [slice, Nat.sub_self, List.take_zero]

theorem window_prefix_drop (bytes : List UInt8) (p : Nat) (count : Option Int) :
    window bytes p count <+: bytes.drop p := by
  unfold window
  split
  · exact List.prefix_rfl
  · split
    · exact List.prefix_rfl
    · exact List.take_prefix _ _

/-- What stands at a position, taken off and put before what follows it. -/
theorem append_slice {data : List UInt8} {r : Nat} (found : data <+: bytes.drop p)
    (further : p + data.length ≤ r) :
    data ++ slice bytes (p + data.length) r = slice bytes p r := by
  rcases found with ⟨rest, split⟩
  have left : bytes.drop (p + data.length) = rest := by
    rw [← List.drop_drop, ← split, List.drop_left]
  have room : r - p = data.length + (r - (p + data.length)) := by omega
  rw [slice, slice, left, ← split, room, List.take_length_add_append]

/-- Reads one after another bring the bytes between the positions, each of them once. -/
theorem Run.reads {counts : List (Option Int)} {replies : List Reply}
    (run : Run (· <+: ·) bytes p (counts.map .read) replies q) :
    p ≤ q ∧ replies.flatMap Reply.bytes = slice bytes p q := by
  induction counts generalizing p replies with
  | nil =>
    cases run with
    | nil => exact ⟨Nat.le_refl _, (slice_self bytes _).symm⟩
  | cons count counts ih =>
    cases run with
    | cons step rest =>
      rcases ih rest with ⟨onward, later⟩
      rw [List.flatMap_cons, later]
      cases step with
      | read part =>
        have found := part.trans (window_prefix_drop bytes p count)
        exact ⟨Nat.le_of_add_right_le onward, append_slice found onward⟩
      | failed network => exact ⟨onward, rfl⟩

end Cursor
end RowReader
