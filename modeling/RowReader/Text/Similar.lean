/-!
# Similar words

How alike two words are: the longest run of characters that both share is matched first, then what
stands before it in both, then what stands behind it.  The likeness is twice the number of matched
characters to the number of all characters.
-/

namespace RowReader
namespace Text

/-- The length of the common beginning. -/
def commonLength : List Char → List Char → Nat
  | a :: as, b :: bs => if a = b then commonLength as bs + 1 else 0
  | _, _ => 0

/-- A shared run: where it begins in either word, and its length. -/
structure SharedRun where
  left : Nat
  right : Nat
  length : Nat

/-- The longer of two runs, the first one if they are equally long. -/
def SharedRun.longer (a b : SharedRun) : SharedRun :=
  if a.length < b.length then b else a

/-- The longest shared run; of several the first in the left word, then the first in the right. -/
def longestRun (left right : List Char) : SharedRun :=
  let runs := (List.range left.length).flatMap fun i =>
    (List.range right.length).map fun j => ⟨i, j, commonLength (left.drop i) (right.drop j)⟩
  runs.foldl SharedRun.longer ⟨0, 0, 0⟩

/-- How many characters are matched; the depth bounds how often a word is divided. -/
def matchedWithin : (depth : Nat) → List Char → List Char → Nat
  | 0, _, _ => 0
  | depth + 1, left, right =>
    let run := longestRun left right
    if run.length = 0 then 0
    else
      matchedWithin depth (left.take run.left) (right.take run.right) + run.length
        + matchedWithin depth (left.drop (run.left + run.length))
          (right.drop (run.right + run.length))

/-- Two words with the number of their matched characters and of all their characters. -/
structure Likeness where
  word : String
  matched : Nat
  total : Nat

def likeness (given word : String) : Likeness :=
  let left := word.toList
  let right := given.toList
  { word, matched := matchedWithin left.length left right, total := left.length + right.length }

/-- At least six tenths. -/
def Likeness.close (l : Likeness) : Bool := 3 * l.total ≤ 10 * l.matched

/-- Whether one likeness is at least as great as another; of equal ones the later word leads. -/
def Likeness.leads (a b : Likeness) : Bool :=
  b.matched * a.total < a.matched * b.total
    || (b.matched * a.total == a.matched * b.total && b.word ≤ a.word)

/-- The three words most like the given one among those that are close to it, in order. -/
def closeWords (given : String) (words : List String) : List String :=
  let close := (words.map (likeness given)).filter Likeness.close
  (((close.mergeSort Likeness.leads).take 3).map Likeness.word).mergeSort fun a b => a ≤ b

end Text
end RowReader
