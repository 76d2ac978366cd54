import RowReader.Proofs.RowFile.Stream
import RowReader.RowFile.Gather

/-!
# Gathered rows

Gathering pulls a stream just as taking rows from it does, and takes in each row as it comes.  With
a limit it makes no pull beyond the row that fills it, and so never learns what would have followed.
The same is true of a row that is not accepted.
-/

namespace RowReader

open RowReader.Action

variable {ω ε α : Type}

/-- How gathering ends when taking rows ends like this and each row was accepted. -/
def GatherEnd.of : Ending → GatherEnd ε
  | .more => .enough
  | .exhausted => .exhausted
  | .failed e => .failed e

namespace RowStream

/-- Gathering comes to these items and ends like this in this state.  Only its log is left open. -/
structure Gathers (srv : Server ω) (pf : RowFile) (accept : Row → Except ε α) (limit : Option Nat)
    (both : RowStream × World ω) (items : List α) (ending : GatherEnd ε)
    (state : RowStream × World ω) : Prop where
  items : (gather srv pf accept limit both).items = items
  ending : (gather srv pf accept limit both).ending = ending
  state : (gather srv pf accept limit both).state = state

variable {srv : Server ω} {pf : RowFile} {accept : Row → Except ε α} {limit : Option Nat}
  {both after : RowStream × World ω} {log : List LogLine}

/-! ## One pull -/

theorem gathers_filled : Gathers srv pf accept (some 0) both [] .enough both := by
  have filled : gather srv pf accept (some 0) both = ⟨[], .enough, both, []⟩ := by
    rw [gather, if_pos rfl]
  constructor <;> rw [filled]

theorem gathers_failed (wanted : limit ≠ some 0) {e : Error}
    (pulled : next srv pf both = ⟨.error e, after, log⟩) :
    Gathers srv pf accept limit both [] (.failed e) after := by
  have failed : gather srv pf accept limit both = ⟨[], .failed e, after, log⟩ := by
    rw [gather, if_neg wanted]
    split <;> simp_all
  constructor <;> rw [failed]

theorem gathers_exhausted (wanted : limit ≠ some 0)
    (pulled : next srv pf both = ⟨.ok none, after, log⟩) :
    Gathers srv pf accept limit both [] .exhausted after := by
  have exhausted : gather srv pf accept limit both = ⟨[], .exhausted, after, log⟩ := by
    rw [gather, if_neg wanted]
    split <;> simp_all
  constructor <;> rw [exhausted]

/-- After a row it is up to the row whether more are pulled. -/
theorem gather_row (accept : Row → Except ε α) (wanted : limit ≠ some 0) {row : Row}
    (pulled : next srv pf both = ⟨.ok (some row), after, log⟩) :
    gather srv pf accept limit both =
      match accept row with
      | .error e => ⟨[], .refused e, after, log⟩
      | .ok item => (gather srv pf accept (limit.map fun n => n - 1) after).behind item log := by
  rw [gather, if_neg wanted]
  split
  · simp_all
  · simp_all
  · next answered =>
    rw [pulled] at answered
    cases answered
    rfl

theorem gathers_refused (wanted : limit ≠ some 0) {row : Row} {e : ε}
    (pulled : next srv pf both = ⟨.ok (some row), after, log⟩) (refused : accept row = .error e) :
    Gathers srv pf accept limit both [] (.refused e) after := by
  constructor <;> simp only [gather_row accept wanted pulled, refused]

theorem Gathers.behind (wanted : limit ≠ some 0) {row : Row} {item : α} {items : List α}
    {ending : GatherEnd ε} {state : RowStream × World ω}
    (pulled : next srv pf both = ⟨.ok (some row), after, log⟩) (accepted : accept row = .ok item)
    (others : Gathers srv pf accept (limit.map fun n => n - 1) after items ending state) :
    Gathers srv pf accept limit both (item :: items) ending state := by
  have first := gather_row accept wanted pulled
  rw [accepted] at first
  rcases others with ⟨same, ended, left⟩
  constructor <;> simp only [first, Gathered.behind, same, ended, left]

/-! ## All pulls -/

/-- The pulls that are made under a limit: as many as it says, or up to the end. -/
def Stops (limit : Option Nat) (count : Nat) (taken : Batch (RowStream × World ω)) : Prop :=
  limit = some count ∨ limit = none ∧ taken.ending ≠ .more

theorem Stops.wanted {count : Nat} {taken : Batch (RowStream × World ω)}
    (stops : Stops limit (count + 1) taken) : limit ≠ some 0 := by
  rcases stops with rfl | ⟨rfl, -⟩ <;> simp

/-- After a row is pulled, one less is wanted. -/
theorem Stops.onward {count : Nat} {row : Row} {taken : Batch (RowStream × World ω)}
    (stops : Stops limit (count + 1) (taken.behind [row] log)) :
    Stops (limit.map fun n => n - 1) count taken := by
  rcases stops with rfl | ⟨rfl, ended⟩
  · exact Or.inl rfl
  · exact Or.inr ⟨rfl, ended⟩

/-- Unless a pull fails, the rows are as many as the limit allows, or all of them. -/
theorem Stops.rows_eq {count : Nat} {taken : Batch (RowStream × World ω)}
    {all : List (Option Row)} (stops : Stops limit count taken)
    (filled : taken.ending = .more → taken.rows.map some = all.take count)
    (fewer : taken.ending ≠ .more → taken.rows.length < count)
    (exhausted : taken.ending = .exhausted → taken.rows.map some = all)
    (unfailed : ∀ e, taken.ending ≠ .failed e) :
    taken.rows.map some = limit.elim all all.take := by
  cases ended : taken.ending with
  | failed e => exact absurd ended (unfailed e)
  | more =>
    rcases stops with rfl | ⟨-, unended⟩
    · exact filled ended
    · exact absurd ended unended
  | exhausted =>
    have whole := exhausted ended
    rcases stops with rfl | ⟨rfl, -⟩
    · have short := fewer (by rw [ended]; exact nofun)
      rw [whole, Option.elim_some, List.take_of_length_le]
      rw [← whole, List.length_map]
      exact Nat.le_of_lt short
    · exact whole

/-- As long as each row is accepted, gathering is taking rows. -/
theorem gathers_taken {count : Nat} {items : List α}
    (stops : Stops limit count (takeRows (next srv pf) count both))
    (accepted : (takeRows (next srv pf) count both).rows.map accept = items.map .ok) :
    let taken := takeRows (next srv pf) count both
    Gathers srv pf accept limit both items (.of taken.ending) taken.state := by
  induction count generalizing both limit items with
  | zero =>
    have none_taken : items = [] := List.map_eq_nil_iff.mp accepted.symm
    rcases stops with rfl | ⟨-, unended⟩
    · rw [none_taken]
      exact gathers_filled
    · exact absurd rfl unended
  | succ count ih =>
    have wanted := stops.wanted
    rcases pulled : next srv pf both with ⟨e | _ | row, after, log⟩
    · simp only [takeRows, pulled] at accepted ⊢
      rw [List.map_eq_nil_iff.mp accepted.symm]
      exact gathers_failed wanted pulled
    · simp only [takeRows, pulled] at accepted ⊢
      rw [List.map_eq_nil_iff.mp accepted.symm]
      exact gathers_exhausted wanted pulled
    · simp only [takeRows, pulled] at stops
      simp only [takeRows, pulled, Batch.behind, List.singleton_append] at accepted ⊢
      rcases items with _ | ⟨item, items⟩
      · cases accepted
      · rcases List.cons.inj accepted with ⟨first, others⟩
        exact (ih stops.onward others).behind wanted pulled first

/-- The first row that is not accepted ends the gathering, and no row is pulled after it. -/
theorem gathers_until {count : Nat} {items : List α} {front back : List Row} {row : Row} {e : ε}
    (stops : Stops limit count (takeRows (next srv pf) count both))
    (split : (takeRows (next srv pf) count both).rows = front ++ row :: back)
    (accepted : front.map accept = items.map .ok) (refused : accept row = .error e) :
    Gathers srv pf accept limit both items (.refused e)
      (takeRows (next srv pf) (front.length + 1) both).state := by
  induction count generalizing both limit items front with
  | zero => cases front <;> cases split
  | succ count ih =>
    have wanted := stops.wanted
    rcases pulled : next srv pf both with ⟨e | _ | first, after, log⟩
    · simp only [takeRows, pulled] at split
      cases front <;> cases split
    · simp only [takeRows, pulled] at split
      cases front <;> cases split
    · simp only [takeRows, pulled] at stops
      simp only [takeRows, pulled, Batch.behind, List.singleton_append] at split ⊢
      cases front with
      | nil =>
        cases (List.cons.inj split).1
        rw [List.map_eq_nil_iff.mp accepted.symm]
        exact gathers_refused wanted pulled refused
      | cons other front =>
        rcases List.cons.inj split with ⟨rfl, others⟩
        rcases items with _ | ⟨item, items⟩
        · cases accepted
        · rcases List.cons.inj accepted with ⟨here, there⟩
          exact (ih stops.onward others there).behind wanted pulled here

end RowStream
end RowReader
