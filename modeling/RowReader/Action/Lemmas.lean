import RowReader.Action

/-!
# Facts about actions

`Ensures act s post` says that the action, if it succeeds from the state `s`, ends with a value and
a state of which `post` holds.  `Keeps part act` says that a part of the state is the same after
the action, whether it succeeds or fails.  Both are shown step by step along the way an action is
put together.
-/

namespace RowReader
namespace Action

variable {σ τ ρ α β : Type}

def Ensures (act : Action σ α) (s : σ) (post : α → σ → Prop) : Prop :=
  ∀ a, (act s).result = .ok a → post a (act s).state

def Keeps (part : σ → ρ) (act : Action σ α) : Prop :=
  ∀ s, part (act s).state = part s

theorem bind_apply (act : Action σ α) (next : α → Action σ β) (s : σ) :
    (act >>= next) s = match (act s).result with
      | .ok a => (next a (act s).state).after (act s).log
      | .error e => { result := .error e, state := (act s).state, log := (act s).log } := by
  simp only [bind]
  cases h : act s with
  | mk result state log => cases result <;> rfl

@[simp]
theorem ok_mapError (f : Error → Error) (a : α) :
    (Except.ok a : Except Error α).mapError f = .ok a :=
  rfl

@[simp]
theorem error_mapError (f : Error → Error) (e : Error) :
    (Except.error e : Except Error α).mapError f = .error (f e) :=
  rfl

theorem mapError_eq_ok_iff {f : Error → Error} {r : Except Error α} {a : α} :
    r.mapError f = .ok a ↔ r = .ok a := by
  cases r with
  | error e => constructor <;> rintro ⟨⟩
  | ok b => rfl

/-- Rewording errors changes nothing else. -/
theorem mapError_apply (f : Error → Error) (act : Action σ α) (s : σ) :
    act.mapError f s = { act s with result := (act s).result.mapError f } := by
  simp only [mapError, rescue]
  rcases act s with ⟨e | a, t, log⟩
  · simp only [fail, Outcome.after, List.append_nil]
    rfl
  · rfl

theorem mapError_ok_iff {f : Error → Error} {act : Action σ α} {s : σ} {a : α} :
    (act.mapError f s).result = .ok a ↔ (act s).result = .ok a := by
  rw [mapError_apply, mapError_eq_ok_iff]

/-! ## What an action ensures -/

theorem ensures_pure {a : α} {s : σ} {post : α → σ → Prop} (h : post a s) :
    Ensures (pure a) s post := by
  intro b found
  injection found with same
  exact same ▸ h

theorem ensures_fail {e : Error} {s : σ} {post : α → σ → Prop} :
    Ensures (fail e) s post := by
  intro b found
  simp [fail] at found

theorem ensures_bind {act : Action σ α} {next : α → Action σ β} {s : σ} {mid : α → σ → Prop}
    {post : β → σ → Prop} (first : Ensures act s mid)
    (rest : ∀ a t, mid a t → Ensures (next a) t post) : Ensures (act >>= next) s post := by
  intro b found
  rw [bind_apply] at found ⊢
  cases h : (act s).result with
  | error e => simp [h] at found
  | ok a =>
    simp only [h, Outcome.after] at found ⊢
    exact rest a _ (first a h) b found

/-- What holds whatever the first step does. -/
theorem ensures_bind_any {act : Action σ α} {next : α → Action σ β} {s : σ} {post : β → σ → Prop}
    (rest : ∀ a t, Ensures (next a) t post) : Ensures (act >>= next) s post :=
  have nothing : Ensures act s fun _ _ => True := fun _ _ => trivial
  ensures_bind nothing fun a t _ => rest a t

theorem Ensures.mono {act : Action σ α} {s : σ} {strong weak : α → σ → Prop}
    (h : Ensures act s strong) (weaken : ∀ a t, strong a t → weak a t) : Ensures act s weak :=
  fun a found => weaken a _ (h a found)

theorem ensures_rescue {act : Action σ α} {handler : Error → Action σ α} {s : σ}
    {post : α → σ → Prop} (first : Ensures act s post)
    (rest : ∀ e t, Ensures (handler e) t post) : Ensures (act.rescue handler) s post := by
  intro a found
  have step := first a
  revert found
  simp only [rescue]
  split
  · next taken =>
    simp only [taken] at step ⊢
    exact step
  · next e t log taken =>
    simp only [Outcome.after]
    exact rest e t a

theorem ensures_mapError {act : Action σ α} {f : Error → Error} {s : σ} {post : α → σ → Prop}
    (h : Ensures act s post) : Ensures (act.mapError f) s post :=
  ensures_rescue h fun _ _ => ensures_fail

/-! ## What an action keeps -/

theorem keeps_pure {part : σ → ρ} (a : α) : Keeps part (pure a : Action σ α) :=
  fun _ => rfl

theorem keeps_fail {part : σ → ρ} (e : Error) : Keeps part (fail e : Action σ α) :=
  fun _ => rfl

theorem keeps_ofExcept {part : σ → ρ} (r : Except Error α) : Keeps part (ofExcept r : Action σ α) :=
  fun _ => rfl

theorem keeps_getState {part : σ → ρ} : Keeps part (getState : Action σ σ) :=
  fun _ => rfl

theorem keeps_note {part : σ → ρ} (severity : Severity) (channel : Channel) (text : String) :
    Keeps part (note severity channel text) :=
  fun _ => rfl

theorem keeps_modifyState {part : σ → ρ} {f : σ → σ} (h : ∀ s, part (f s) = part s) :
    Keeps part (modifyState f) :=
  h

theorem keeps_bind {part : σ → ρ} {act : Action σ α} {next : α → Action σ β}
    (first : Keeps part act) (rest : ∀ a, Keeps part (next a)) : Keeps part (act >>= next) := by
  intro s
  rw [bind_apply]
  cases h : (act s).result with
  | error e => exact first s
  | ok a => exact (rest a _).trans (first s)

theorem keeps_rescue {part : σ → ρ} {act : Action σ α} {handler : Error → Action σ α}
    (first : Keeps part act) (rest : ∀ e, Keeps part (handler e)) :
    Keeps part (act.rescue handler) := by
  intro s
  have step := first s
  simp only [rescue]
  split
  · next taken => simpa only [taken] using step
  · next taken =>
    simp only [taken] at step
    exact (rest _ _).trans step

theorem keeps_mapError {part : σ → ρ} {act : Action σ α} {f : Error → Error}
    (h : Keeps part act) : Keeps part (act.mapError f) :=
  keeps_rescue h fun _ => keeps_fail _

theorem keeps_onPart {part : σ → ρ} {get : σ → τ} {set : τ → σ → σ} (act : Action τ α)
    (h : ∀ t s, part (set t s) = part s) : Keeps part (act.onPart get set) :=
  fun s => h _ s

end Action
end RowReader
