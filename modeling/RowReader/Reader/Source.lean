import RowReader.Action.Lemmas
import RowReader.Reader

/-!
# Readers as sources

A reader hands out the row groups of its file, so a pass can be made over it.  The groups it can
still hand out are those after its position.
-/

namespace RowReader
namespace Reader

variable {φ : Type}

open RowReader.Action

/-- How many row groups a reader can still hand out. -/
def remaining (r : Reader) : Nat :=
  match r.decoding with
  | .ok d => d.groups.length - r.cursor
  | .error _ => 0

/-- The part of a reader that decides how many groups remain. -/
def standing (both : Reader × φ) : Decoding × Nat :=
  (both.1.decoding, both.1.cursor)

theorem remaining_congr {a b : Reader × φ} (h : standing a = standing b) :
    remaining a.1 = remaining b.1 := by
  simp only [standing, Prod.mk.injEq] at h
  simp only [remaining, h.1, h.2]

theorem keeps_standing_onFile {α : Type} (act : Action φ α) :
    Keeps standing (onFile act) :=
  keeps_onPart act fun _ _ => rfl

theorem keeps_standing_requireOpen : Keeps standing (requireOpen : Action (Reader × φ) Reader) := by
  refine keeps_bind (fun _ => rfl) fun r => ?_
  split
  · exact keeps_fail _
  · exact keeps_pure r

theorem keeps_standing_footer (file : ByteFile φ) : Keeps standing (footer file) := by
  refine keeps_bind keeps_standing_requireOpen fun r => ?_
  split
  · exact keeps_ofExcept _
  · refine keeps_bind (keeps_mapError (keeps_standing_onFile _)) fun _ => ?_
    refine keeps_bind (keeps_mapError (keeps_ofExcept _)) fun d => ?_
    exact keeps_bind (keeps_modifyState fun _ => rfl) fun _ =>
      keeps_bind (keeps_note _ _ _) fun _ => keeps_pure d

theorem ensures_current (s : Reader × φ) :
    Ensures current s fun r t => r = s.1 ∧ t = s := by
  intro r found
  injection found with same
  exact ⟨same.symm, rfl⟩

theorem ensures_requireOpen (s : Reader × φ) :
    Ensures requireOpen s fun r t => r = s.1 ∧ t = s := by
  refine ensures_bind (ensures_current s) fun r t both => ?_
  split
  · exact ensures_fail
  · exact ensures_pure both

theorem ensures_ofExcept {σ α : Type} (x : Except Error α) (s : σ) :
    Ensures (Action.ofExcept x) s fun a t => x = .ok a ∧ t = s :=
  fun _ found => ⟨found, rfl⟩

/-- The footer that is read is the one the decoder finds. -/
theorem ensures_footer (file : ByteFile φ) (s : Reader × φ) :
    Ensures (footer file) s fun d _ => s.1.decoding = .ok d := by
  refine ensures_bind (ensures_requireOpen s) fun r t both => ?_
  obtain ⟨rfl, rfl⟩ := both
  split
  · exact (ensures_ofExcept _ _).mono fun d _ found => found.1
  · refine ensures_bind_any fun _ t => ?_
    refine ensures_bind (ensures_mapError (ensures_ofExcept _ t)) fun d u found => ?_
    refine ensures_bind_any fun _ _ => ?_
    refine ensures_bind_any fun _ _ => ?_
    exact ensures_pure found.1

theorem keeps_standing_takeGroup (index : Nat) (stored : StoredGroup) :
    Keeps standing (takeGroup index stored : Action (Reader × φ) RowGroup) := by
  refine keeps_bind (fun _ => rfl) fun r => ?_
  split
  · exact keeps_fail _
  · exact keeps_bind (keeps_modifyState fun _ => rfl) fun _ =>
      keeps_bind (keeps_ofExcept _) fun g => keeps_bind (keeps_note _ _ _) fun _ => keeps_pure g

/-- Handing out a group leaves one group less. -/
theorem remaining_nextRowGroup_lt (file : ByteFile φ) (s : Reader × φ) :
    Ensures (nextRowGroup file) s fun g? t => g?.isSome → remaining t.1 < remaining s.1 := by
  have known : Ensures (footer file) s fun d t => s.1.decoding = .ok d ∧ standing t = standing s :=
    fun d found => ⟨ensures_footer file s d found, keeps_standing_footer file s⟩
  refine ensures_bind known fun d t facts => ?_
  obtain ⟨decoded, same⟩ := facts
  simp only [standing, Prod.mk.injEq] at same
  refine ensures_bind (ensures_current t) fun r u both => ?_
  obtain ⟨rfl, rfl⟩ := both
  split
  · refine ensures_bind_any fun _ _ => ?_
    exact ensures_pure (by simp)
  · next stored inside =>
    have bound := (List.getElem?_eq_some_iff.mp inside).1
    have step : Ensures (update fun r => { r with cursor := r.cursor + 1 }) u
        fun _ v => v = ({ u.1 with cursor := u.1.cursor + 1 }, u.2) := fun _ _ => rfl
    refine ensures_bind step fun _ v moved => ?_
    intro g? found _
    have kept : standing ((some <$> takeGroup u.1.cursor stored : Action (Reader × φ) _) v).state
        = standing v := by
      exact keeps_bind (keeps_standing_takeGroup _ _) (fun g => keeps_pure (some g)) v
    rw [remaining_congr kept, moved]
    simp only [remaining, same.1, same.2, decoded] at bound ⊢
    omega

theorem keeps_standing_assembleRow (g : RowGroup) (schema : Schema) (i : Int) :
    Keeps standing (assembleRow g schema i : Action (Reader × φ) (Row × RowGroup)) :=
  keeps_bind keeps_standing_requireOpen fun _ =>
    keeps_bind (keeps_ofExcept _) fun _ => keeps_pure _

/-- A reader as the source of a pass. -/
def source (file : ByteFile φ) : Source (Reader × φ) RowGroup where
  readSchema := readSchema file
  nextRowGroup := nextRowGroup file
  assembleRow := fun g schema i => assembleRow g schema (Int.ofNat i)
  close := close file
  index := RowGroup.index
  numRows := fun g => g.numRows.toNat
  pending := fun both => remaining both.1
  pending_nextRowGroup := fun s g found => remaining_nextRowGroup_lt file s (some g) found rfl
  pending_assembleRow := fun g schema i s =>
    Nat.le_of_eq (remaining_congr (keeps_standing_assembleRow g schema (Int.ofNat i) s))

end Reader
end RowReader
