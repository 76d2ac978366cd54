/-!
# Terminal control sequences

A control sequence tells a terminal to change colours or to move.  It begins with an escape
character and an opening bracket, goes on with parameters and intermediate characters, and ends
with one final character.  Text that goes to a file or a pipe is freed of such sequences; a
sequence without its final character is ordinary text.

This is the pattern that `click.echo` strips by: an escape and a bracket, then any characters from `0`
to `?`, any from the blank to the slash, and one from `@` to `~`.  Each match from the left is replaced
by nothing, and what comes together over the gap is not looked at again.
-/

namespace RowReader
namespace Text

def isParameter (c : Char) : Bool := '0' ≤ c && c ≤ '?'

def isIntermediate (c : Char) : Bool := ' ' ≤ c && c ≤ '/'

def isFinal (c : Char) : Bool := '@' ≤ c && c ≤ '~'

/-- What follows a control sequence whose beginning has been read. -/
def afterSequence? (cs : List Char) : Option (List Char) :=
  match (cs.dropWhile isParameter).dropWhile isIntermediate with
  | c :: rest => if isFinal c then some rest else none
  | [] => none

theorem length_lt_of_afterSequence? {cs rest : List Char} (found : afterSequence? cs = some rest) :
    rest.length < cs.length := by
  simp only [afterSequence?] at found
  split at found
  · next c tail remaining =>
    split at found
    · cases found
      have shorter : ((cs.dropWhile isParameter).dropWhile isIntermediate).length ≤ cs.length :=
        Nat.le_trans (List.dropWhile_sublist isIntermediate).length_le
          (List.dropWhile_sublist isParameter).length_le
      rw [remaining] at shorter
      exact shorter
    · cases found
  · cases found

/-- The characters outside control sequences. -/
def dropSequences (cs : List Char) : List Char :=
  match cs with
  | '\x1b' :: '[' :: tail =>
    match _ : afterSequence? tail with
    | some rest => dropSequences rest
    | none => '\x1b' :: dropSequences ('[' :: tail)
  | c :: tail => c :: dropSequences tail
  | [] => []
termination_by cs.length
decreasing_by
  · exact Nat.lt_succ_of_lt (Nat.lt_succ_of_lt (length_lt_of_afterSequence? (by assumption)))
  · simp
  · simp

theorem dropSequences_of_not_mem {cs : List Char} (plain : '\x1b' ∉ cs) : dropSequences cs = cs := by
  induction cs with
  | nil => rw [dropSequences]
  | cons c rest ih =>
    rw [List.mem_cons, not_or] at plain
    rw [dropSequences, ih plain.2]
    rintro tail rfl
    exact absurd rfl plain.1

/-- A text without its control sequences. -/
def withoutSequences (text : String) : String :=
  String.ofList (dropSequences text.toList)

/-- A text without an escape character stays as it is. -/
theorem withoutSequences_of_not_mem {text : String} (plain : '\x1b' ∉ text.toList) :
    withoutSequences text = text := by
  rw [withoutSequences, dropSequences_of_not_mem plain, String.ofList_toList]

end Text
end RowReader
