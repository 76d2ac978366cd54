import RowReader.Proofs.Action.Yields

/-!
# Errors of one sort

`Confined inv sort act s` says of an action that is run from `s` that it leaves a state of which `inv`
holds and that, if it fails, its error is of this sort.  Nothing is said of what it returns.  An action
that is put together from confined ones is confined itself.
-/

namespace RowReader
namespace Action

variable {σ τ α β : Type}

structure Confined (inv : σ → Prop) (sort : Error → Prop) (act : Action σ α) (s : σ) : Prop where
  state : inv (act s).state
  error : ∀ e, (act s).result = .error e → sort e

variable {inv : σ → Prop} {sort : Error → Prop} {act : Action σ α} {s t : σ}

/-- How an action ends may be known. -/
theorem Yields.confined {r : Except Error α} (ends : Yields act s r t) (left : inv t)
    (errors : ∀ e, r = .error e → sort e) : Confined inv sort act s where
  state := ends.state ▸ left
  error := fun e failed => errors e (ends.result ▸ failed)

theorem Yields.confined_ok {a : α} (ends : Yields act s (.ok a) t) (left : inv t) :
    Confined inv sort act s :=
  ends.confined left fun _ => nofun

theorem confined_pure (a : α) (here : inv s) : Confined inv sort (pure a : Action σ α) s :=
  (yields_pure a s).confined_ok here

theorem confined_fail {e : Error} (here : inv s) (right : sort e) :
    Confined inv sort (fail e : Action σ α) s :=
  (yields_fail e s).confined here (by rintro _ ⟨⟩; exact right)

/-- A step is followed by others from where it leads. -/
theorem Confined.bind {next : α → Action σ β} (first : Confined inv sort act s)
    (rest : ∀ a t, Yields act s (.ok a) t → inv t → Confined inv sort (next a) t) :
    Confined inv sort (act >>= next) s := by
  have ends := yields_self act s
  cases answer : (act s).result with
  | error e =>
    rw [answer] at ends
    exact ends.bind_error.confined first.state (by rintro _ ⟨⟩; exact first.error e answer)
  | ok a =>
    rw [answer] at ends
    have later := rest a _ ends first.state
    exact (ends.bind (yields_self (next a) _)).confined later.state later.error

/-- A step that is known to succeed needs no account of its errors. -/
theorem Yields.bind_confined {next : α → Action σ β} {a : α} (first : Yields act s (.ok a) t)
    (rest : Confined inv sort (next a) t) : Confined inv sort (act >>= next) s :=
  (first.bind (yields_self (next a) t)).confined rest.state rest.error

theorem Confined.mapError {sort' : Error → Prop} {f : Error → Error}
    (confined : Confined inv sort act s) (reworded : ∀ e, sort e → sort' (f e)) :
    Confined inv sort' (act.mapError f) s := by
  have ends := (yields_self act s).mapError f
  refine ends.confined confined.state ?_
  intro e failed
  cases answer : (act s).result with
  | ok a =>
    rw [answer] at failed
    cases failed
  | error e' =>
    rw [answer] at failed
    cases failed
    exact reworded e' (confined.error e' answer)

/-- An action on a part of the state. -/
theorem Confined.onPart {get : σ → τ} {set : τ → σ → σ} {act : Action τ α} {inv' : τ → Prop}
    (confined : Confined inv' sort act (get s)) (back : ∀ t, inv' t → inv (set t s)) :
    Confined inv sort (act.onPart get set) s :=
  (yields_self act (get s)).onPart.confined (back _ confined.state) confined.error

end Action
end RowReader
