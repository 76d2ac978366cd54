import RowReader.ByteFile.Scripted
import RowReader.Proofs.ByteFile.Layout
import RowReader.Proofs.ByteFile.Record
import RowReader.Proofs.Reader.Settled
import RowReader.Proofs.World.Stored

/-!
# Files that fail for a while

A scripted file fails where its script says so and is a file in memory everywhere else.  Its faults
can make a check of the footer fail, but they cannot make it pass: a length that is found is the one
that the bytes state.  No seek and no read changes the bytes or closes the file.  Once each fault of
the script lies behind, the file is honest.
-/

namespace RowReader

open RowReader.Action

namespace ScriptedFile

variable {α : Type} {bytes : List UInt8} {f : ScriptedFile}

/-- The file is open over these bytes, and no fault awaits its closing. -/
structure Holds (bytes : List UInt8) (f : ScriptedFile) : Prop where
  bytes : f.memory.bytes = bytes
  isOpen : f.memory.closed = false
  closes : ∀ fault ∈ f.faults, fault.method ≠ .close

/-- Each fault of the script lies behind. -/
def Spent (f : ScriptedFile) : Prop :=
  ∀ fault ∈ f.faults, fault.nth ≤ f.countOf fault.method

instance (f : ScriptedFile) : Decidable f.Spent :=
  inferInstanceAs (Decidable (∀ fault ∈ f.faults, fault.nth ≤ f.countOf fault.method))

/-- The file after one more call. -/
def after (call : FileCall) (f : ScriptedFile) : ScriptedFile :=
  { f with called := call :: f.called }

/-- What the script has for a call that comes next. -/
def mishapsAt (call : FileCall) (f : ScriptedFile) : List FileMishap :=
  (f.faults.filter fun fault =>
    fault.method == call.method && fault.nth == (f.after call).countOf call.method).map
      FileFault.mishap

theorem enter_yields (call : FileCall) (f : ScriptedFile) :
    Yields (enter call) f (.ok (f.mishapsAt call)) (f.after call) :=
  ⟨rfl, rfl⟩

theorem countOf_after (call : FileCall) (f : ScriptedFile) (method : FileMethod) :
    (f.after call).countOf method =
      f.countOf method + if call.method == method then 1 else 0 :=
  List.countP_cons

theorem raiseFirst_state (mishaps : List FileMishap) (f : ScriptedFile) :
    (raiseFirst mishaps f).state = f := by
  induction mishaps with
  | nil => rfl
  | cons mishap rest ih =>
    cases mishap with
    | raise e => rfl
    | short count => exact ih

/-! ## While faults last -/

/-- What no seek and no read changes. -/
def standing (f : ScriptedFile) : List UInt8 × Bool × List FileFault × Nat :=
  (f.memory.bytes, f.memory.closed, f.faults, f.countOf .close)

theorem keeps_standing_enter {call : FileCall} (other : call.method ≠ .close) :
    Keeps standing (enter call) := by
  intro f
  have count : (f.after call).countOf .close = f.countOf .close := by
    rw [countOf_after, if_neg (by simpa using other)]
    rfl
  rw [(enter_yields call f).state, standing, count]
  rfl

theorem keeps_standing_raiseFirst (mishaps : List FileMishap) :
    Keeps standing (raiseFirst mishaps) := by
  intro f
  rw [raiseFirst_state]

/-- Acting on the memory below keeps what is kept there. -/
theorem keeps_standing_onMemory {act : Action MemoryFile α}
    (kept : Keeps (fun memory => (memory.bytes, memory.closed)) act) :
    Keeps standing (onMemory act) := by
  intro f
  have same := kept f.memory
  simp only [Prod.mk.injEq] at same
  simp only [standing, onMemory, onPart, Outcome.mapState_state, same, countOf]

theorem keeps_moveTo (position : Nat) :
    Keeps (fun memory : MemoryFile => (memory.bytes, memory.closed)) (MemoryFile.moveTo position) :=
  keeps_bind (keeps_modifyState fun _ => rfl) fun _ => keeps_pure position

theorem keeps_requireOpen :
    Keeps (fun memory : MemoryFile => (memory.bytes, memory.closed)) MemoryFile.requireOpen := by
  refine keeps_bind keeps_getState fun f => ?_
  split
  · exact keeps_fail _
  · exact keeps_pure f

theorem keeps_standing_seek (offset : Int) (whence : Whence) :
    Keeps standing (file.seek offset whence) := by
  refine keeps_bind (keeps_standing_enter nofun) fun mishaps => ?_
  refine keeps_bind (keeps_standing_raiseFirst mishaps) fun _ => keeps_standing_onMemory ?_
  refine keeps_bind keeps_requireOpen fun memory => ?_
  cases whence with
  | start =>
    dsimp only
    split
    · exact keeps_fail _
    · exact keeps_moveTo _
  | current => exact keeps_moveTo _
  | stop => exact keeps_moveTo _

theorem keeps_standing_read (count : Nat) : Keeps standing (file.read count) := by
  refine keeps_bind (keeps_standing_enter nofun) fun mishaps => ?_
  refine keeps_bind (keeps_standing_raiseFirst mishaps) fun _ => keeps_standing_onMemory ?_
  exact keeps_bind keeps_requireOpen fun memory =>
    keeps_bind (keeps_moveTo _) fun _ => keeps_pure _

/-- Checking the footer, however it ends, leaves the bytes and does not close the file. -/
theorem keeps_standing_checkFooter : Keeps standing file.checkFooter :=
  ByteFile.keeps_checkFooter keeps_standing_seek keeps_standing_read

theorem Holds.congr {g : ScriptedFile} (holds : f.Holds bytes) (same : standing g = standing f) :
    g.Holds bytes := by
  simp only [standing, Prod.mk.injEq] at same
  rcases same with ⟨data, closed, faults, -⟩
  exact ⟨data.trans holds.bytes, closed.trans holds.isOpen, faults ▸ holds.closes⟩

/-! ## What passes is true -/

/-- A call is entered, and then it either fails or is made on the memory below. -/
theorem ensures_called (call : FileCall) {act : List FileMishap → Action MemoryFile α}
    {post : α → ScriptedFile → Prop}
    (made : ∀ mishaps, ∃ r m, Yields (act mishaps) f.memory r m ∧
      ∀ a t, r = .ok a → t.memory = m → post a t) :
    Ensures (do
      let mishaps ← enter call
      raiseFirst mishaps
      onMemory (act mishaps)) f post := by
  have entered : Ensures (enter call) f fun _ t => t.memory = f.memory := by
    intro mishaps _
    rw [(enter_yields call f).state]
    rfl
  refine ensures_bind entered fun mishaps t same => ?_
  have passed : Ensures (raiseFirst mishaps) t fun _ u => u.memory = f.memory := by
    intro _ _
    rw [raiseFirst_state, same]
  refine ensures_bind passed fun _ u same a found => ?_
  rcases made mishaps with ⟨r, m, ends, holds⟩
  rw [← same] at ends
  exact holds a _ (ends.result.symm.trans found) ends.state

theorem cutBy_le (mishaps : List FileMishap) (count : Nat) : cutBy mishaps count ≤ count := by
  induction mishaps generalizing count with
  | nil => exact Nat.le_refl count
  | cons mishap rest ih =>
    cases mishap with
    | raise e => exact ih count
    | short most => exact Nat.le_trans (ih (min count most)) (Nat.min_le_left count most)

section

variable {p : Nat} (here : MemoryFile.At bytes p f.memory)

include here

/-- A size that is stated is the true one. -/
theorem ensures_size : Ensures file.size f fun size t =>
    size = bytes.length ∧ MemoryFile.At bytes bytes.length t.memory := by
  rcases (MemoryFile.honest bytes).seekStop here with ⟨m, moved, there⟩
  refine ensures_called (.seek 0 .stop) fun _ => ⟨_, m, moved, ?_⟩
  rintro size t ⟨⟩ rfl
  exact ⟨rfl, there⟩

theorem ensures_seekStart {offset : Int} (positive : 0 ≤ offset) (inside : offset ≤ bytes.length) :
    Ensures (file.seek offset .start) f fun _ t => MemoryFile.At bytes offset.toNat t.memory := by
  rcases (MemoryFile.honest bytes).seekStart here positive inside with ⟨m, moved, there⟩
  refine ensures_called (.seek offset .start) fun _ => ⟨_, m, moved, ?_⟩
  rintro _ t - rfl
  exact there

/-- What is read begins as it should. -/
theorem ensures_read (count : Nat) : Ensures (file.read count) f fun data t =>
    (∃ most ≤ count, data = slice bytes p (p + most)) ∧ ∃ q, MemoryFile.At bytes q t.memory := by
  refine ensures_called (.read count) fun mishaps => ?_
  rcases (MemoryFile.honest bytes).read (cutBy mishaps count) here with ⟨m, found, there⟩
  refine ⟨_, m, found, ?_⟩
  rintro data t ⟨⟩ rfl
  exact ⟨⟨_, cutBy_le mishaps count, rfl⟩, _, there⟩

/-- A check of the footer that passes has found what the bytes state. -/
theorem ensures_checkFooter (room : trailerSize ≤ bytes.length) :
    Ensures file.checkFooter f fun length _ => footerCheck bytes = .ok length := by
  refine ensures_bind (ensures_size here) fun size t stated => ?_
  rcases stated with ⟨rfl, atEnd⟩
  have trailing : Ensures (file.readAt (bytes.length - trailerSize) trailerSize) t fun data u =>
      (∃ most ≤ trailerSize,
        data = slice bytes (bytes.length - trailerSize) (bytes.length - trailerSize + most)) ∧
      ∃ q, MemoryFile.At bytes q u.memory := by
    refine ensures_bind (ensures_seekStart atEnd (by omega) (by omega)) fun _ u there => ?_
    have place : ((bytes.length : Int) - trailerSize).toNat = bytes.length - trailerSize := by omega
    rw [place] at there
    exact ensures_read there trailerSize
  refine ensures_bind trailing fun data u read => ?_
  rcases read with ⟨⟨most, atMost, rfl⟩, q, there⟩
  refine ensures_bind_any fun _ v length passed => ?_
  change ByteFile.footerLengthIn bytes.length _ = .ok length at passed
  -- a trailer that is not cut short is the one at the end of the bytes
  have whole := (footerLengthIn_eq_ok passed).1
  have full : most = trailerSize := by
    rw [slice, List.length_take] at whole
    omega
  rw [slice, full, Nat.add_sub_cancel_left, List.take_of_length_le (by simp; omega)] at passed
  exact passed

end

/-! ## Calls that are not disturbed -/

/-- A call the script has nothing for goes through to the memory below. -/
theorem call_yields {call : FileCall} (undisturbed : f.mishapsAt call = [])
    {act : List FileMishap → Action MemoryFile α} {r : Except Error α} {m : MemoryFile}
    (made : Yields (act []) f.memory r m) :
    Yields (do
      let mishaps ← enter call
      raiseFirst mishaps
      onMemory (act mishaps)) f r { f.after call with memory := m } := by
  have entered := enter_yields call f
  rw [undisturbed] at entered
  have passed := yields_pure () (f.after call)
  have below : Yields (onMemory (act [])) (f.after call) r { f.after call with memory := m } :=
    ⟨made.result, by rw [← made.state]; rfl⟩
  exact entered.bind (passed.bind below)

theorem close_yields (isOpen : f.memory.closed = false) (undisturbed : f.mishapsAt .close = []) :
    (file.close f).result = .ok () := by
  have closed : Yields file.close f (.ok ())
      { f.after .close with memory := { f.memory with closed := true } } := by
    apply (yields_getState f).bind
    rw [if_neg (by rw [isOpen]; decide)]
    exact call_yields undisturbed (yields_modifyState _ f.memory)
  exact closed.result

/-! ## Once the faults are over -/

theorem Spent.after (spent : f.Spent) (call : FileCall) : (f.after call).Spent := by
  intro fault listed
  rw [countOf_after]
  exact Nat.le_add_right_of_le (spent fault listed)

theorem Spent.mishapsAt (spent : f.Spent) (call : FileCall) : f.mishapsAt call = [] := by
  unfold ScriptedFile.mishapsAt
  rw [List.map_eq_nil_iff, List.filter_eq_nil_iff]
  intro fault listed
  have behind := spent fault listed
  simp only [Bool.and_eq_true, beq_iff_eq, not_and]
  intro same
  rw [same] at behind
  rw [countOf_after, if_pos (beq_self_eq_true _)]
  omega

/-- The file stands at this position over these bytes, and its faults are over. -/
structure Recovered (bytes : List UInt8) (p : Nat) (f : ScriptedFile) : Prop where
  spent : f.Spent
  memory : MemoryFile.At bytes p f.memory

theorem honest (bytes : List UInt8) : file.Honest bytes (Recovered bytes) where
  seekStart := by
    rintro p f offset ⟨spent, here⟩ positive inside
    rcases (MemoryFile.honest bytes).seekStart here positive inside with ⟨m, moved, there⟩
    exact ⟨_, call_yields (spent.mishapsAt _) moved, spent.after _, there⟩
  seekStop := by
    rintro p f ⟨spent, here⟩
    rcases (MemoryFile.honest bytes).seekStop here with ⟨m, moved, there⟩
    exact ⟨_, call_yields (spent.mishapsAt _) moved, spent.after _, there⟩
  read := by
    rintro p f count ⟨spent, here⟩
    rcases (MemoryFile.honest bytes).read count here with ⟨m, found, there⟩
    exact ⟨_, call_yields (spent.mishapsAt _) found, spent.after _, there⟩
  close := by
    rintro p f ⟨spent, here⟩
    have isOpen : f.memory.closed = false := by rw [here]
    exact close_yields isOpen (spent.mishapsAt .close)

theorem recovered_ofBytes (bytes : List UInt8) : Recovered bytes 0 (ofBytes bytes []) where
  spent := fun _ listed => absurd listed List.not_mem_nil
  memory := rfl

theorem Holds.recovered (holds : f.Holds bytes) (spent : f.Spent) :
    Recovered bytes f.memory.position f := by
  refine ⟨spent, ?_⟩
  unfold MemoryFile.At
  rw [← holds.bytes, ← holds.isOpen]

/-- Closing is not disturbed, whatever else is. -/
theorem Holds.close (holds : f.Holds bytes) : (file.close f).result = .ok () := by
  have none : f.mishapsAt .close = [] := by
    unfold ScriptedFile.mishapsAt
    rw [List.map_eq_nil_iff, List.filter_eq_nil_iff]
    intro fault listed matching
    have same := (Bool.and_eq_true _ _).mp matching
    exact holds.closes fault listed (beq_iff_eq.mp same.1)
  exact close_yields holds.isOpen none

/-- An open file over bytes with room for a trailer never passes a footer that they do not have. -/
theorem faltering {bytes : List UInt8} (room : trailerSize ≤ bytes.length) :
    file.Faltering (footerCheck bytes) (Holds bytes) where
  stays := fun holds => holds.congr (keeps_standing_checkFooter _)
  passes := by
    intro f length holds passed
    have here : MemoryFile.At bytes f.memory.position f.memory := by
      unfold MemoryFile.At
      rw [← holds.bytes, ← holds.isOpen]
    exact ensures_checkFooter here room length passed
  close := fun holds => holds.close

end ScriptedFile
end RowReader
