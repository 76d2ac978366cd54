import RowReader.Action.Lemmas

/-!
# How an action ends

`Yields act s r t` says that the action ends with the result `r` and leaves the state `t` when it
is run from `s`.  What it logs is left open, since no result depends on it.  An action that is put
together from others is followed step by step: a step that succeeds hands its value on, and a step
that fails ends the whole.
-/

namespace RowReader

variable {σ τ α β : Type}

@[simp] theorem Outcome.after_result (log : List LogLine) (o : Outcome σ α) :
    (o.after log).result = o.result := rfl

@[simp] theorem Outcome.after_state (log : List LogLine) (o : Outcome σ α) :
    (o.after log).state = o.state := rfl

@[simp] theorem Outcome.mapState_result (f : σ → τ) (o : Outcome σ α) :
    (o.mapState f).result = o.result := rfl

@[simp] theorem Outcome.mapState_state (f : σ → τ) (o : Outcome σ α) :
    (o.mapState f).state = f o.state := rfl

namespace Action

/-- From the state `s` the action ends with the result `r` in the state `t`. -/
structure Yields (act : Action σ α) (s : σ) (r : Except Error α) (t : σ) : Prop where
  result : (act s).result = r
  state : (act s).state = t

/-- Only the log of an outcome is left open. -/
theorem Yields.outcome {act : Action σ α} {s t : σ} {r : Except Error α}
    (ends : Yields act s r t) : ∃ log, act s = ⟨r, t, log⟩ := by
  rcases ends with ⟨result, state⟩
  exact ⟨(act s).log, by rw [← result, ← state]⟩

/-- Every action ends in its own way. -/
theorem yields_self (act : Action σ α) (s : σ) :
    Yields act s (act s).result (act s).state :=
  ⟨rfl, rfl⟩

theorem yields_pure (a : α) (s : σ) : Yields (pure a) s (.ok a) s :=
  ⟨rfl, rfl⟩

theorem yields_fail (e : Error) (s : σ) : Yields (fail e : Action σ α) s (.error e) s :=
  ⟨rfl, rfl⟩

theorem yields_ofExcept (r : Except Error α) (s : σ) : Yields (ofExcept r) s r s :=
  ⟨rfl, rfl⟩

theorem yields_ofExcept_of_eq {r q : Except Error α} (same : r = q) (s : σ) :
    Yields (ofExcept r) s q s :=
  same ▸ yields_ofExcept r s

theorem yields_getState (s : σ) : Yields getState s (.ok s) s :=
  ⟨rfl, rfl⟩

theorem yields_modifyState (f : σ → σ) (s : σ) : Yields (modifyState f) s (.ok ()) (f s) :=
  ⟨rfl, rfl⟩

theorem yields_note (severity : Severity) (channel : Channel) (text : String) (s : σ) :
    Yields (note severity channel text) s (.ok ()) s :=
  ⟨rfl, rfl⟩

/-- A step that succeeds hands its value and its state to the next. -/
theorem Yields.bind {act : Action σ α} {next : α → Action σ β} {s t u : σ} {a : α}
    {r : Except Error β} (first : Yields act s (.ok a) t) (rest : Yields (next a) t r u) :
    Yields (act >>= next) s r u := by
  constructor
  · rw [bind_apply, first.result, first.state]
    exact rest.result
  · rw [bind_apply, first.result, first.state]
    exact rest.state

/-- A step that fails ends the whole. -/
theorem Yields.bind_error {act : Action σ α} {next : α → Action σ β} {s t : σ} {e : Error}
    (first : Yields act s (.error e) t) : Yields (act >>= next) s (.error e) t := by
  constructor
  · rw [bind_apply, first.result]
  · rw [bind_apply, first.result]
    exact first.state

theorem Yields.map {act : Action σ α} {s t : σ} {r : Except Error α} (f : α → β)
    (ends : Yields act s r t) : Yields (f <$> act) s (r.map f) t := by
  cases r with
  | ok a => exact ends.bind (yields_pure (f a) t)
  | error e => exact ends.bind_error

/-- An error is reworded where it is met; a value passes. -/
theorem Yields.mapError {act : Action σ α} {s t : σ} {r : Except Error α} (f : Error → Error)
    (ends : Yields act s r t) : Yields (act.mapError f) s (r.mapError f) t := by
  rcases ends.outcome with ⟨log, h⟩
  cases r with
  | ok a =>
    constructor
    · simp only [Action.mapError, rescue, h]
      rfl
    · simp only [Action.mapError, rescue, h]
  | error e =>
    constructor
    · simp only [Action.mapError, rescue, h]
      rfl
    · simp only [Action.mapError, rescue, h]
      rfl

theorem Yields.rescue_ok {act : Action σ α} {handler : Error → Action σ α} {s t : σ} {a : α}
    (ends : Yields act s (.ok a) t) : Yields (act.rescue handler) s (.ok a) t := by
  rcases ends.outcome with ⟨log, h⟩
  constructor
  · simp only [rescue, h]
  · simp only [rescue, h]

theorem Yields.rescue_error {act : Action σ α} {handler : Error → Action σ α} {s t u : σ}
    {e : Error} {r : Except Error α} (ends : Yields act s (.error e) t)
    (handled : Yields (handler e) t r u) : Yields (act.rescue handler) s r u := by
  rcases ends.outcome with ⟨log, h⟩
  constructor
  · simp only [rescue, h, Outcome.after_result]
    exact handled.result
  · simp only [rescue, h, Outcome.after_state]
    exact handled.state

/-- The result of an action that is followed by a last one: an error of the last one counts, and
the action's own result otherwise. -/
def lastly (r : Except Error α) : Except Error Unit → Except Error α
  | .ok _ => r
  | .error e => .error e

@[simp] theorem lastly_ok (r : Except Error α) (done : Unit) : lastly r (.ok done) = r := rfl

/-- What has failed stays failed. -/
theorem lastly_error (e : Error) (q : Except Error Unit) :
    ∃ f, lastly (.error e : Except Error α) q = .error f := by
  cases q with
  | ok _ => exact ⟨e, rfl⟩
  | error f => exact ⟨f, rfl⟩

theorem lastly_error_ne_ok (e : Error) (q : Except Error Unit) (a : α) :
    lastly (.error e) q ≠ .ok a := by
  rcases lastly_error (α := α) e q with ⟨f, failed⟩
  rw [failed]
  intro impossible
  cases impossible

theorem Yields.andFinally {act : Action σ α} {last : Action σ Unit} {s t u : σ}
    {r : Except Error α} {q : Except Error Unit} (ends : Yields act s r t)
    (closes : Yields last t q u) : Yields (act.andFinally last) s (lastly r q) u := by
  rcases ends.outcome with ⟨log, h⟩
  rcases closes.outcome with ⟨more, k⟩
  cases q with
  | ok _ =>
    constructor
    · simp only [Action.andFinally, h, k, lastly]
    · simp only [Action.andFinally, h, k]
  | error e =>
    constructor
    · simp only [Action.andFinally, h, k, lastly]
    · simp only [Action.andFinally, h, k]

/-- An action on a part of the state leaves the rest of it as it was. -/
theorem Yields.onPart {get : σ → τ} {set : τ → σ → σ} {act : Action τ α} {s : σ}
    {r : Except Error α} {t : τ} (ends : Yields act (get s) r t) :
    Yields (act.onPart get set) s r (set t s) := by
  constructor
  · exact ends.result
  · simp [Action.onPart, ends.state]

theorem Yields.holding {η : Type} {h k : η} {act : Action (η × σ) α} {s t : σ}
    {r : Except Error α} (ends : Yields act (h, s) r (k, t)) :
    Yields (act.holding h) s (r.map fun a => (a, k)) t := by
  constructor
  · simp [Action.holding, ends.result, ends.state]
  · simp [Action.holding, ends.state]

/-- What an action yields is all there is to know of its end. -/
theorem Yields.unique {act : Action σ α} {s t u : σ} {r q : Except Error α}
    (one : Yields act s r t) (other : Yields act s q u) : r = q ∧ t = u :=
  ⟨one.result.symm.trans other.result, one.state.symm.trans other.state⟩

end Action
end RowReader
