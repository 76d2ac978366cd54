/-!
# Sorting by merging runs

A stable sort for a comparison that may fail.  The items are cut into runs that rise, or that fall
strictly and are reversed; short runs are filled up by insertion.  Neighbouring runs are merged in
the order that the powers of their boundaries give, and a merge that keeps taking from one side
leaps ahead in doubling steps.

Which items are compared, and in which order, is part of what the sort promises: the first pair
without an order is the one that is reported, and items that are neither before nor behind another
one end where these comparisons leave them.
-/

namespace RowReader
namespace MergeSort

variable {α ε : Type}

/-! ## Searching -/

/-- Takes the steps 1, 3, 7 and so on while the test holds and the limit is not reached.  The
answer is the last step that was passed, and the step that ended it. -/
def leap (test : Nat → Except ε Bool) (limit : Nat) :
    (fuel passed step : Nat) → Except ε (Nat × Nat)
  | 0, passed, step => .ok (passed, min step limit)
  | fuel + 1, passed, step => do
    if limit ≤ step then return (passed, limit)
    else if ← test step then leap test limit fuel step (2 * step + 1)
    else return (passed, step)

/-- The first place from `low` up to `high` where the test holds, found by halving. -/
def bisect (holds : Nat → Except ε Bool) : (fuel low high : Nat) → Except ε Nat
  | 0, low, _ => .ok low
  | fuel + 1, low, high => do
    if high ≤ low then return low
    let middle := low + (high - low) / 2
    if ← holds middle then bisect holds fuel low middle
    else bisect holds fuel (middle + 1) high

/-- The first of `size` places where the test holds, searched from `hint` outwards. -/
def gallop (holds : Nat → Except ε Bool) (size hint : Nat) : Except ε Nat := do
  if ← holds hint then
    let (passed, step) ← leap (fun d => holds (hint - d)) (hint + 1) size 0 1
    bisect holds size (hint + 1 - step) (hint - passed)
  else
    let (passed, step) ← leap (fun d => return !(← holds (hint + d))) (size - hint) size 0 1
    bisect holds size (hint + passed + 1) (hint + step)

/-! ## Runs -/

/-- How many items go on rising after the previous one, or falling strictly. -/
def continued (before : α → α → Except ε Bool) (falling : Bool) (previous : α) :
    List α → Except ε Nat
  | [] => .ok 0
  | item :: rest => do
    if (← before item previous) == falling then
      return (← continued before falling item rest) + 1
    else return 0

/-- Inserts items one after the other, each behind its equals. -/
def insertAll (before : α → α → Except ε Bool) : List α → Array α → Except ε (Array α)
  | [], ordered => .ok ordered
  | item :: rest, ordered => do
    let behind := fun i => match ordered[i]? with
      | some other => before item other
      | none => .ok true
    let place ← bisect behind ordered.size 0 ordered.size
    insertAll before rest (ordered.insertIdxIfInBounds place item)

/-- The run at the front, filled up to the least length, and the items behind it. -/
def firstRun (before : α → α → Except ε Bool) (least : Nat) :
    List α → Except ε (List α × List α)
  | first :: second :: rest => do
    let items := first :: second :: rest
    let falling ← before second first
    let length := (← continued before falling second rest) + 2
    let run := if falling then (items.take length).reverse else items.take length
    let filled ← insertAll before ((items.take least).drop length) run.toArray
    return (filled.toList, items.drop (max length least))
  | items => .ok (items, [])

/-- The least length of a run: the six leading binary digits of the number of items, rounded up. -/
def leastRun (size : Nat) : Nat :=
  if size < 64 then size
  else
    let unit := Nat.pow 2 (size.log2 - 5)
    (size + unit - 1) / unit

/-! ## Merging two runs -/

/-- A merge goes forwards from the first items, or backwards from the last ones.  Its runs are
listed in that direction. -/
inductive Direction where
  | forwards
  | backwards
  deriving DecidableEq

/-- What a merge has still to place, and what it has placed, the latest first. -/
structure Merging (α : Type) where
  left : List α
  right : List α
  placed : List α := []

namespace Merging

/-- Ends the merge when nothing is left to decide.  The run that is read last in its direction
keeps one item behind all of the other run. -/
def settle (dir : Direction) (m : Merging α) : Merging α :=
  let (moving, resting) := match dir with
    | .forwards => (m.right, m.left)
    | .backwards => (m.left, m.right)
  if moving.isEmpty || resting.length ≤ 1 then
    { left := [], right := [], placed := (moving ++ resting).reverse ++ m.placed }
  else m

def takeLeft (dir : Direction) (count : Nat) (m : Merging α) : Merging α :=
  settle dir
    { m with left := m.left.drop count, placed := (m.left.take count).reverse ++ m.placed }

def takeRight (dir : Direction) (count : Nat) (m : Merging α) : Merging α :=
  settle dir
    { m with right := m.right.drop count, placed := (m.right.take count).reverse ++ m.placed }

end Merging

/-- How many of the items come before the first one that is beyond; going backwards, how many
come before the first one that is not. -/
def leading (dir : Direction) (beyond : α → Except ε Bool) (items : List α) : Except ε Nat :=
  let beyondAt := fun i => match items[i]? with
    | some item => beyond item
    | none => .ok true
  match dir with
  | .forwards => gallop beyondAt items.length 0
  | .backwards => do
    let last := items.length - 1
    return items.length - (← gallop (fun i => beyondAt (last - i)) items.length last)

/-- The number of items that make leaping worth while. -/
def leapGain : Nat := 7

mutual

/-- Merges item by item until one run has won `threshold` times in a row.  The answer has the
threshold for the next merge. -/
def mergePairs (before : α → α → Except ε Bool) (dir : Direction) :
    (fuel lefts rights threshold : Nat) → Merging α → Except ε (List α × Nat)
  | 0, _, _, threshold, m => .ok (m.placed.reverse, threshold)
  | fuel + 1, lefts, rights, threshold, m =>
    match m.left, m.right with
    | a :: _, b :: _ => do
      if (← before b a) == (dir == .forwards) then
        let m := m.takeRight dir 1
        if threshold ≤ rights + 1 then mergeLeaps before dir fuel threshold m
        else mergePairs before dir fuel 0 (rights + 1) threshold m
      else
        let m := m.takeLeft dir 1
        if threshold ≤ lefts + 1 then mergeLeaps before dir fuel threshold m
        else mergePairs before dir fuel (lefts + 1) 0 threshold m
    | _, _ => .ok (m.placed.reverse, threshold)

/-- Merges many items at once as long as that pays; the threshold falls each time, and rises when
it pays no longer. -/
def mergeLeaps (before : α → α → Except ε Bool) (dir : Direction) :
    (fuel threshold : Nat) → Merging α → Except ε (List α × Nat)
  | 0, threshold, m => .ok (m.placed.reverse, threshold)
  | fuel + 1, threshold, m =>
    match m.left, m.right with
    | _ :: _, b :: _ => do
      let lefts ← leading dir (before b) m.left
      let m := (m.takeLeft dir lefts).takeRight dir 1
      match m.left with
      | [] => return (m.placed.reverse, threshold)
      | a :: _ =>
        let rights ← leading dir (fun item => return !(← before item a)) m.right
        let m := (m.takeRight dir rights).takeLeft dir 1
        if m.left.isEmpty then return (m.placed.reverse, threshold)
        else if leapGain ≤ max lefts rights then
          mergeLeaps before dir fuel (max 1 (threshold - 1)) m
        else mergePairs before dir fuel 0 0 (threshold + 1) m
    | _, _ => .ok (m.placed.reverse, threshold)

end

/-- Merges in one direction; the first item of the run that moves is known to come first. -/
def mergeTowards (before : α → α → Except ε Bool) (dir : Direction) (left right : List α)
    (threshold : Nat) : Except ε (List α × Nat) :=
  let m : Merging α := { left, right }
  let m := match dir with
    | .forwards => m.takeRight dir 1
    | .backwards => m.takeLeft dir 1
  mergePairs before dir (left.length + right.length) 0 0 threshold m

/-- Merges two runs.  What stands in front of the right run's first item stays, and so does what
stands behind the left run's last one; the shorter of the two parts between them is the one that
the other moves through. -/
def mergeRuns (before : α → α → Except ε Bool) (left right : List α) (threshold : Nat) :
    Except ε (List α × Nat) := do
  let some first := right.head? | return (left, threshold)
  let start ← leading .forwards (before first) left
  let front := left.take start
  let left := left.drop start
  let some last := left.getLast? | return (front ++ right, threshold)
  let beyond := fun i => match right[i]? with
    | some item => return !(← before item last)
    | none => .ok true
  let stop ← gallop beyond right.length (right.length - 1)
  let back := right.drop stop
  let right := right.take stop
  if right.isEmpty then return (front ++ left ++ back, threshold)
  else if left.length ≤ right.length then
    let (merged, threshold) ← mergeTowards before .forwards left right threshold
    return (front ++ merged ++ back, threshold)
  else
    let (merged, threshold) ←
      mergeTowards before .backwards left.reverse right.reverse threshold
    return (front ++ merged.reverse ++ back, threshold)

/-! ## Merging all runs -/

/-- A run with the power of the boundary behind it: the number of halvings of the whole that it
takes to tell the middles of its two neighbours apart. -/
structure Run (α : Type) where
  items : List α
  power : Nat := 0

/-- Halves until the whole lies between the two middles, all given in the same unit. -/
def boundaryPower (size : Nat) : (fuel low high : Nat) → Nat
  | 0, _, _ => 0
  | fuel + 1, low, high =>
    if size ≤ low then boundaryPower size fuel (2 * (low - size)) (2 * (high - size)) + 1
    else if size ≤ high then 1
    else boundaryPower size fuel (2 * low) (2 * high) + 1

/-- Merges the last run with those below it whose boundary has a greater power. -/
def collapse (before : α → α → Except ε Bool) (power : Nat) (threshold : Nat) (last : List α) :
    List (Run α) → Except ε (List (Run α) × Nat)
  | [] => .ok ([{ items := last, power }], threshold)
  | below :: rest => do
    if power < below.power then
      let (merged, threshold) ← mergeRuns before below.items last threshold
      collapse before power threshold merged rest
    else return ({ items := last, power } :: below :: rest, threshold)

/-- Merges the runs that are left, the last ones first; of three, the shorter neighbour of the
middle one goes first. -/
def mergeAll (before : α → α → Except ε Bool) (threshold : Nat) :
    (fuel : Nat) → List (List α) → Except ε (List α)
  | fuel + 1, last :: middle :: below :: rest => do
    if below.length < last.length then
      let (merged, threshold) ← mergeRuns before below middle threshold
      mergeAll before threshold fuel (last :: merged :: rest)
    else
      let (merged, threshold) ← mergeRuns before middle last threshold
      mergeAll before threshold fuel (merged :: below :: rest)
  | _, [last, middle] => return (← mergeRuns before middle last threshold).1
  | _, runs => .ok runs.reverse.flatten

/-- Cuts runs off the front of the items and merges them as they come. -/
def sortFrom (before : α → α → Except ε Bool) (size : Nat) :
    (fuel threshold : Nat) → List (Run α) → List α → Except ε (List α)
  | fuel + 1, threshold, runs, items => do
    if items.isEmpty then mergeAll before threshold runs.length (runs.map Run.items)
    else
      let (run, rest) ← firstRun before (leastRun size) items
      match runs with
      | [] => sortFrom before size fuel threshold [{ items := run }] rest
      | last :: below =>
        let low := 2 * (below.map fun r => r.items.length).sum + last.items.length
        let high := low + last.items.length + run.length
        let power := boundaryPower size (size + 1) low high
        let (runs, threshold) ← collapse before power threshold last.items below
        sortFrom before size fuel threshold ({ items := run } :: runs) rest
  | 0, threshold, runs, _ => mergeAll before threshold runs.length (runs.map Run.items)

/-- The items in order, equal ones as they stood. -/
def sort (before : α → α → Except ε Bool) (items : List α) : Except ε (List α) :=
  sortFrom before items.length (items.length + 1) leapGain [] items

end MergeSort
end RowReader
