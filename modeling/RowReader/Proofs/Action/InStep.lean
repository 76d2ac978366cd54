import RowReader.Proofs.Action.Yields

/-!
# Actions in step

Two actions are in step if, run from related states, they end with the same result and leave related
states.  What is put together in the same way from actions in step is in step.  So one part of a
system can be exchanged for another, and the rest, which is the same code on both sides, cannot tell.
-/

namespace RowReader
namespace Action

variable {σ τ α β : Type}

def InStep (rel : σ → τ → Prop) (act : Action σ α) (act' : Action τ α) : Prop :=
  ∀ s t, rel s t → (act s).result = (act' t).result ∧ rel (act s).state (act' t).state

variable {rel : σ → τ → Prop}

theorem inStep_pure (a : α) : InStep rel (pure a) (pure a) :=
  fun _ _ here => ⟨rfl, here⟩

theorem inStep_fail (e : Error) : InStep rel (fail e : Action σ α) (fail e) :=
  fun _ _ here => ⟨rfl, here⟩

theorem inStep_ofExcept (r : Except Error α) : InStep rel (ofExcept r) (ofExcept r) :=
  fun _ _ here => ⟨rfl, here⟩

theorem inStep_note (severity : Severity) (channel : Channel) (text : String) :
    InStep rel (note severity channel text) (note severity channel text) :=
  fun _ _ here => ⟨rfl, here⟩

/-- Both first steps hand on the same value, or both fail. -/
theorem InStep.bind {act : Action σ α} {act' : Action τ α} {next : α → Action σ β}
    {next' : α → Action τ β} (first : InStep rel act act')
    (rest : ∀ a, InStep rel (next a) (next' a)) : InStep rel (act >>= next) (act' >>= next') := by
  intro s t here
  rcases first s t here with ⟨same, there⟩
  rw [bind_apply, bind_apply, ← same]
  cases (act s).result with
  | ok a => exact rest a _ _ there
  | error e => exact ⟨rfl, there⟩

theorem InStep.mapError {act : Action σ α} {act' : Action τ α} (f : Error → Error)
    (both : InStep rel act act') : InStep rel (act.mapError f) (act'.mapError f) := by
  intro s t here
  rcases both s t here with ⟨same, there⟩
  have ends := (yields_self act s).mapError f
  have ends' := (yields_self act' t).mapError f
  rw [ends.result, ends.state, ends'.result, ends'.state, same]
  exact ⟨rfl, there⟩

/-- What one of two actions in step yields, the other yields as well. -/
theorem InStep.yields {act : Action σ α} {act' : Action τ α} (both : InStep rel act act') {s u : σ}
    {t : τ} {r : Except Error α} (here : rel s t) (ends : Yields act s r u) :
    ∃ v, Yields act' t r v ∧ rel u v := by
  rcases both s t here with ⟨same, there⟩
  rw [ends.result] at same
  rw [ends.state] at there
  exact ⟨_, ⟨same.symm, rfl⟩, there⟩

end Action
end RowReader
