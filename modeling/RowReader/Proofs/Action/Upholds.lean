import RowReader.Action.Lemmas
import RowReader.Proofs.Action.Collect

/-!
# What an action upholds

`Upholds inv post act` says that the action, from any state of which `inv` holds, leaves one of which
it holds again, whether it succeeds or fails, and that `post` holds of a value that it returns.  It is
shown step by step along the way an action is put together.
-/

namespace RowReader

variable {σ τ ρ α β : Type} {inv : σ → Prop} {post : α → Prop}

/-- The invariant holds of the state that is left, and the property of a value that is returned. -/
structure Outcome.Upholds (inv : σ → Prop) (post : α → Prop) (o : Outcome σ α) : Prop where
  state : inv o.state
  value : ∀ a, o.result = .ok a → post a

namespace Outcome.Upholds

theorem after {o : Outcome σ α} (upholds : o.Upholds inv post) (log : List LogLine) :
    (o.after log).Upholds inv post :=
  ⟨upholds.state, upholds.value⟩

theorem mapState {o : Outcome σ α} {inv' : τ → Prop} {f : σ → τ} (upholds : o.Upholds inv post)
    (kept : ∀ s, inv s → inv' (f s)) : (o.mapState f).Upholds inv' post :=
  ⟨kept _ upholds.state, upholds.value⟩

theorem mapResult {o : Outcome σ α} {post' : β → Prop} {f : α → β} (upholds : o.Upholds inv post)
    (right : ∀ a, post a → post' (f a)) : (o.mapResult f).Upholds inv post' := by
  refine ⟨upholds.state, fun b found => ?_⟩
  rcases ok_of_map found with ⟨a, answer, rfl⟩
  exact right a (upholds.value a answer)

end Outcome.Upholds

namespace Action

def Upholds (inv : σ → Prop) (post : α → Prop) (act : Action σ α) : Prop :=
  ∀ s, inv s → (act s).Upholds inv post

/-- Nothing has to be shown of an action if nothing is asked of its states and its value. -/
theorem upholds_any (act : Action σ α) : Upholds (fun _ => True) (fun _ => True) act :=
  fun _ _ => ⟨trivial, fun _ _ => trivial⟩

theorem upholds_pure {a : α} (right : post a) : Upholds inv post (pure a : Action σ α) :=
  fun _ here => ⟨here, by rintro _ ⟨⟩; exact right⟩

theorem upholds_fail (e : Error) : Upholds inv post (fail e : Action σ α) :=
  fun _ here => ⟨here, nofun⟩

theorem upholds_ofExcept {r : Except Error α} (right : ∀ a, r = .ok a → post a) :
    Upholds inv post (ofExcept r : Action σ α) :=
  fun _ here => ⟨here, right⟩

theorem upholds_getState : Upholds inv inv (getState : Action σ σ) :=
  fun _ here => ⟨here, by rintro _ ⟨⟩; exact here⟩

theorem upholds_modifyState {f : σ → σ} (kept : ∀ s, inv s → inv (f s)) :
    Upholds inv (fun _ => True) (modifyState f) :=
  fun s here => ⟨kept s here, fun _ _ => trivial⟩

theorem upholds_note (severity : Severity) (channel : Channel) (text : String) :
    Upholds inv (fun _ => True) (note severity channel text) :=
  fun _ here => ⟨here, fun _ _ => trivial⟩

theorem upholds_bind {act : Action σ α} {next : α → Action σ β} {post' : β → Prop}
    (first : Upholds inv post act) (rest : ∀ a, post a → Upholds inv post' (next a)) :
    Upholds inv post' (act >>= next) := by
  intro s here
  have step := first s here
  rw [bind_apply]
  cases answer : (act s).result with
  | error e => exact ⟨step.state, nofun⟩
  | ok a => exact (rest a (step.value a answer) _ step.state).after _

theorem upholds_map {act : Action σ α} {f : α → β} {post' : β → Prop}
    (upholds : Upholds inv post act) (right : ∀ a, post a → post' (f a)) :
    Upholds inv post' (f <$> act) :=
  upholds_bind upholds fun a here => upholds_pure (right a here)

theorem upholds_rescue {act : Action σ α} {handler : Error → Action σ α}
    (first : Upholds inv post act) (rest : ∀ e, Upholds inv post (handler e)) :
    Upholds inv post (act.rescue handler) := by
  intro s here
  have step := first s here
  unfold rescue
  generalize act s = out at step
  rcases out with ⟨answer, t, log⟩
  cases answer with
  | ok a => exact step
  | error e => exact (rest e t step.state).after log

theorem upholds_mapError {act : Action σ α} (f : Error → Error) (upholds : Upholds inv post act) :
    Upholds inv post (act.mapError f) :=
  upholds_rescue upholds fun _ => upholds_fail _

/-- The last action may fail, but then there is no value. -/
theorem upholds_andFinally {act : Action σ α} {last : Action σ Unit} {post' : Unit → Prop}
    (first : Upholds inv post act) (finish : Upholds inv post' last) :
    Upholds inv post (act.andFinally last) := by
  intro s here
  have step := first s here
  have closing := finish _ step.state
  unfold andFinally
  dsimp only
  generalize last (act s).state = out at closing
  rcases out with ⟨answer, t, log⟩
  cases answer with
  | ok done => exact ⟨closing.state, step.value⟩
  | error e => exact ⟨closing.state, nofun⟩

/-- An action on a part of the state. -/
theorem upholds_onPart {get : σ → τ} {set : τ → σ → σ} {act : Action τ α} {inv' : τ → Prop}
    (upholds : Upholds inv' post act) (here : ∀ s, inv s → inv' (get s))
    (back : ∀ s t, inv s → inv' t → inv (set t s)) : Upholds inv post (act.onPart get set) :=
  fun s there => (upholds _ (here s there)).mapState fun t kept => back s t there kept

/-- A further piece of state comes back with the value. -/
theorem upholds_holding {h : ρ} {act : Action (ρ × σ) α} {inv' : ρ × σ → Prop}
    (upholds : Upholds inv' post act) (begins : ∀ s, inv s → inv' (h, s))
    (back : ∀ both, inv' both → inv both.2) :
    Upholds inv (fun both : α × ρ => post both.1) (holding h act) := by
  intro s here
  have step := upholds _ (begins s here)
  refine ⟨back _ step.state, fun both found => ?_⟩
  rcases ok_of_map found with ⟨a, answer, rfl⟩
  exact step.value a answer

end Action
end RowReader
