import RowReader.Proofs.Pass.Matching
import RowReader.Proofs.Reader.Lifetime
import RowReader.Proofs.Reader.Reach
import RowReader.Proofs.Reader.Settled

/-!
# What a pass leaves of a reader

Whatever a pass asks of a reader and whatever comes of it, the reader stays over the same decoded file
with the same options, and it is closed only by closing it.  Groups are added to those that the
decoder was asked for, and each of them is within the size limit.
-/

namespace RowReader

open RowReader.Action

variable {φ : Type}

namespace Reader

/-- The reader after further calls of a pass. -/
structure Onward (r r' : Reader) : Prop where
  decoding : r'.decoding = r.decoding
  options : r'.options = r.options
  closed : r'.closed = r.closed
  kept : r.used.groups ⊆ r'.used.groups
  asked : ∀ i ∈ r'.used.groups, i ∈ r.used.groups ∨ ∃ d stored, r.decoding = .ok d ∧
    d.groups[i]? = some stored ∧ limitExceeded? r.options stored = none

theorem Onward.refl (r : Reader) : Onward r r where
  decoding := rfl
  options := rfl
  closed := rfl
  kept := List.Subset.refl _
  asked := fun _ => Or.inl

theorem Onward.trans {r r' r'' : Reader} (first : Onward r r') (second : Onward r' r'') :
    Onward r r'' where
  decoding := second.decoding.trans first.decoding
  options := second.options.trans first.options
  closed := second.closed.trans first.closed
  kept := List.Subset.trans first.kept second.kept
  asked := by
    intro i member
    have asked := second.asked i member
    rw [first.decoding, first.options] at asked
    rcases asked with earlier | later
    · exact first.asked i earlier
    · exact Or.inr later

/-- The reader with its footer known, or another schema, or at another group. -/
theorem Onward.adjust (r : Reader) (footerRead : Bool) (schema : Option Schema) (cursor : Nat) :
    Onward r { r with footerRead, schema, cursor } where
  decoding := rfl
  options := rfl
  closed := rfl
  kept := List.Subset.refl _
  asked := fun _ => Or.inl

/-- The decoder is asked for a group within the limit, or not at all. -/
theorem Onward.taking {d : DecodedFile} {r : Reader} {index : Nat} {stored : StoredGroup}
    (decoded : r.decoding = .ok d) (next : d.groups[index]? = some stored) :
    Onward r (r.taking index stored) := by
  unfold Reader.taking
  cases exceeded : limitExceeded? r.options stored with
  | some limit => exact .refl r
  | none =>
    refine ⟨rfl, rfl, rfl, List.subset_cons_self _ _, ?_⟩
    intro i member
    rcases List.mem_cons.mp member with rfl | earlier
    · exact Or.inr ⟨d, stored, decoded, next, exceeded⟩
    · exact Or.inl earlier

/-! ## One call -/

variable (file : ByteFile φ) (both : Reader × φ)

theorem onward_refused {α : Type} {act : Reader → Action (Reader × φ) α}
    (isClosed : both.1.closed = true) : Onward both.1 ((requireOpen >>= act) both).state.1 := by
  have refused : Yields (requireOpen >>= act) both _ both :=
    (requireOpen_closed isClosed).bind_error
  rw [refused.state]
  exact .refl both.1

theorem footer_onward {r : Reader} (check : Except Error Nat) :
    Onward r (r.afterFooter check) := by
  rcases afterFooter_eq check r with ⟨known, same⟩
  rw [same]
  exact .adjust r known r.schema r.cursor

theorem readSchema_onward : Onward both.1 (readSchema file both).state.1 := by
  rcases both with ⟨r, s⟩
  cases isOpen : r.closed with
  | true => exact onward_refused (r, s) isOpen
  | false =>
    cases known : r.schema with
    | some schema =>
      rw [(readSchema_known isOpen known).state]
      exact .refl r
    | none =>
      rw [(readSchema_ends file s isOpen known).state]
      exact (footer_onward _).trans (.adjust _ _ _ _)

theorem assembleRow_onward (g : RowGroup) (schema : Schema) (i : Int) :
    Onward both.1 (assembleRow g schema i both).state.1 := by
  rcases both with ⟨r, s⟩
  cases isOpen : r.closed with
  | true => exact onward_refused (r, s) isOpen
  | false =>
    rw [(assembleRow_yields isOpen g schema i).state]
    exact .refl r

theorem nextRowGroup_onward : Onward both.1 (nextRowGroup file both).state.1 := by
  rcases both with ⟨r, s⟩
  cases isOpen : r.closed with
  | true =>
    have isClosed : (r, s).1.closed = true := isOpen
    have refused : Yields (nextRowGroup file) (r, s) _ (r, s) :=
      (footer_closed file isClosed).bind_error
    rw [refused.state]
    exact .refl r
  | false =>
    have found := footer_ends file s isOpen
    have onward := footer_onward (r := r) (file.checkFooter s).result
    generalize (file.checkFooter s).result = check at found onward
    cases answer : r.footerAnswer check with
    | error e =>
      rw [answer] at found
      rw [(nextRowGroup_unfound found).state]
      exact onward
    | ok d =>
      rw [answer] at found
      have decoded := onward.decoding.trans (decoding_of_footerAnswer answer)
      cases next : d.groups[(r.afterFooter check).cursor]? with
      | none =>
        rw [(nextRowGroup_none found next).state]
        exact onward
      | some stored =>
        rw [(nextRowGroup_taken found next).state]
        exact (onward.trans (.adjust _ _ _ _)).trans (.taking decoded next)

/-! ## A whole pass -/

/-- Calls keep to what earlier calls left. -/
theorem source_onward (r : Reader) : (source file).Matches (source file)
    (Agree fun both => Onward r both.1) (fun _ => True) Eq :=
  Source.matches_self (source file) (fun both here => here.trans (readSchema_onward file both))
    (fun both here => here.trans (nextRowGroup_onward file both))
    fun g schema i both here => here.trans (assembleRow_onward both g schema (Int.ofNat i))

theorem deliverGroups_onward (schema : Schema) :
    Onward both.1 ((source file).deliverGroups schema both).state.1 := by
  have here : Agree (fun after => Onward both.1 after.1) both both := ⟨rfl, .refl both.1⟩
  exact ((source_onward file both.1).deliverGroups here schema).states.2

end Reader

namespace Streaming

open Reader (Onward source_onward readSchema_onward deliverGroups_onward groups_of_close)

variable (file : ByteFile φ) (s : Reader × φ)

theorem owed_onward : Onward s.1 ((fresh s).owed (Reader.source file)).state.1 := by
  have read := readSchema_onward file s
  change Onward s.1 ((Reader.source file).readSchema s).state.1 at read
  cases answer : ((Reader.source file).readSchema s).result with
  | error e =>
    rw [owed_of_unread (Reader.source file) answer]
    exact read
  | ok schema =>
    rw [owed_of_read (Reader.source file) answer]
    exact read.trans (deliverGroups_onward file _ schema)

variable {file s}

/-- While there are rows, the stream stays live and its reader goes on. -/
theorem takeRows_more {st : Streaming (Reader × φ) RowGroup} (live : st.Live) {count : Nat}
    (more : (takeRows (next (Reader.source file)) count st).ending = .more) :
    (takeRows (next (Reader.source file)) count st).state.Live ∧
      Onward st.source.1 (takeRows (next (Reader.source file)) count st).state.source.1 := by
  have alike : Alike (Agree fun both => Onward st.source.1 both.1) (fun _ => True) st st :=
    ⟨rfl, rfl, ⟨rfl, .refl _⟩, fun _ _ _ => trivial⟩
  rcases (alike.takeRows (source_onward file st.source.1) live count).2.2.1 more
    with ⟨still, onward⟩
  exact ⟨still, onward.states.2⟩

/-- Pulling rows goes on from what the reader has asked for. -/
theorem takeRows_onward {st : Streaming (Reader × φ) RowGroup} (live : st.Live) (count : Nat) :
    ∃ r, Onward st.source.1 r ∧
      (takeRows (next (Reader.source file)) count st).state.source.1.used.groups = r.used.groups := by
  by_cases further : (takeRows (next (Reader.source file)) count st).ending = .more
  · exact ⟨_, (takeRows_more live further).2, rfl⟩
  · have alike : Alike (Agree fun both => Onward st.source.1 both.1) (fun _ => True) st st :=
      ⟨rfl, rfl, ⟨rfl, .refl _⟩, fun _ _ _ => trivial⟩
    rcases (alike.takeRows (source_onward file st.source.1) live count).2.2.2 further
      with ⟨-, both, _, ⟨rfl, onward⟩, closed, -⟩
    refine ⟨both.1, onward, ?_⟩
    rw [closed]
    exact groups_of_close file both

/-- Once all rows have been pulled, the groups asked for are those that all rows ask for. -/
theorem asked_beyond {count : Nat}
    (beyond : ((fresh s).owed (Reader.source file)).rows.length < count) :
    (takeRows (next (Reader.source file)) count (fresh s)).state.source.1.used.groups =
      ((fresh s).owed (Reader.source file)).state.1.used.groups := by
  rw [((takeRows_owed (Reader.source file) (fresh_live s) count).2.2 beyond).2]
  exact groups_of_close file _

/-- Before that they are among them. -/
theorem asked_within (count : Nat) :
    (takeRows (next (Reader.source file)) count (fresh s)).state.source.1.used.groups ⊆
      ((fresh s).owed (Reader.source file)).state.1.used.groups := by
  rcases Nat.lt_or_ge ((fresh s).owed (Reader.source file)).rows.length count with beyond | within
  · rw [asked_beyond beyond]
    exact List.Subset.refl _
  · have more := (takeRows_owed (Reader.source file) (fresh_live s) count).2.1 within
    let rest := ((fresh s).owed (Reader.source file)).rows.length + 1
    have further := takeRows_add more rest
    have beyond : ((fresh s).owed (Reader.source file)).rows.length < count + rest := by omega
    have live := (takeRows_more (fresh_live s) more).1
    rcases takeRows_onward live rest with ⟨r, onward, same⟩
    rw [← asked_beyond beyond, further, same]
    exact onward.kept

/-- A new stream without a limit asks for a group once a row is wanted that lies behind the groups
before it, if it asks for this group at all. -/
theorem asked_iff {d : DecodedFile} {r : Reader} {t : φ} {k : Nat} (isOpen : r.closed = false)
    (decoded : r.decoding = .ok d) (unknown : r.schema = none) (first : r.cursor = 0)
    (unasked : r.used.groups = []) (unlimited : r.options.maxRowGroupBytes = none)
    (asked : k ∈ ((fresh (r, t)).owed (Reader.source file)).state.1.used.groups) (count : Nat) :
    k ∈ (takeRows (next (Reader.source file)) count (fresh (r, t))).state.source.1.used.groups ↔
      d.rowsBefore k < count := by
  have here : At file d 0 (fresh (r, t)) := at_fresh t isOpen decoded unknown first unasked
  rcases here.takeRows count with ⟨before, onward⟩
  rw [Nat.zero_add] at before onward
  constructor
  · exact before k
  · intro wanted
    rcases Nat.lt_or_ge ((fresh (r, t)).owed (Reader.source file)).rows.length count
      with beyond | within
    · rw [asked_beyond beyond]
      exact asked
    · have more := (takeRows_owed (Reader.source file) (fresh_live (r, t)) count).2.1 within
      have kept := (takeRows_more (fresh_live (r, t)) more).2.options
      have stands := onward more
      generalize takeRows (next (Reader.source file)) count (fresh (r, t)) = taken at *
      generalize taken.state = st at *
      cases stands with
      | fresh => exact absurd wanted (Nat.not_lt_zero _)
      | @running _ _ place _ s reached =>
        apply reached.taken (kept ▸ unlimited)
        by_contra behind
        have later := DecodedFile.rowsBefore_le (d := d) (Nat.not_lt.mp behind)
        have position := reached.position
        omega

end Streaming
end RowReader
