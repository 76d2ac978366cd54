import RowReader.Proofs.Action.Yields

/-!
# Corresponding results

Two results correspond if both are values of one relation or both are errors of another.  So one
relation says which errors count as the same, and values that are compared by equality are the same
in every respect.
-/

namespace RowReader

variable {α β γ δ : Type}

inductive Corresponds (fails : Error → Error → Prop) (gives : α → β → Prop) :
    Except Error α → Except Error β → Prop where
  | ok {a : α} {b : β} (alike : gives a b) : Corresponds fails gives (.ok a) (.ok b)
  | error {e f : Error} (alike : fails e f) : Corresponds fails gives (.error e) (.error f)

namespace Corresponds

variable {fails : Error → Error → Prop} {gives : α → β → Prop} {r : Except Error α}
  {q : Except Error β}

/-- A result corresponds to itself if its error, in case of one, counts as the same as itself. -/
theorem refl (r : Except Error α) (same : ∀ e, r = .error e → fails e e) :
    Corresponds fails Eq r r := by
  cases r with
  | ok a => exact .ok rfl
  | error e => exact .error (same e rfl)

theorem mono {weak : Error → Error → Prop} {loose : α → β → Prop}
    (weaken : ∀ e f, fails e f → weak e f) (loosen : ∀ a b, gives a b → loose a b)
    (both : Corresponds fails gives r q) : Corresponds weak loose r q := by
  cases both with
  | ok alike => exact .ok (loosen _ _ alike)
  | error alike => exact .error (weaken _ _ alike)

theorem map {f : α → γ} {g : β → δ} {after : γ → δ → Prop} (both : Corresponds fails gives r q)
    (step : ∀ a b, gives a b → after (f a) (g b)) :
    Corresponds fails after (r.map f) (q.map g) := by
  cases both with
  | ok alike => exact .ok (step _ _ alike)
  | error alike => exact .error alike

/-- Errors that are reworded alike count as the same as before. -/
theorem mapError {f : Error → Error} (both : Corresponds fails gives r q)
    (step : ∀ e e', fails e e' → fails (f e) (f e')) :
    Corresponds fails gives (r.mapError f) (q.mapError f) := by
  cases both with
  | ok alike => exact .ok alike
  | error alike => exact .error (step _ _ alike)

theorem bind {f : α → Except Error γ} {g : β → Except Error δ} {after : γ → δ → Prop}
    (both : Corresponds fails gives r q)
    (step : ∀ a b, gives a b → Corresponds fails after (f a) (g b)) :
    Corresponds fails after (r >>= f) (q >>= g) := by
  cases both with
  | ok alike => exact step _ _ alike
  | error alike => exact .error alike

/-- Results that are followed by the results of last steps. -/
theorem lastly {done done' : Except Error Unit} (both : Corresponds fails gives r q)
    (last : Corresponds fails Eq done done') :
    Corresponds fails gives (Action.lastly r done) (Action.lastly q done') := by
  cases last with
  | ok _ => exact both
  | error alike => exact .error alike

theorem ok_of {r q : Except Error α} {a : α} (both : Corresponds fails Eq r q) (known : q = .ok a) :
    r = .ok a := by
  subst known
  cases both with
  | ok same => rw [same]

/-- Where equality is meant on both sides, results that correspond are equal. -/
theorem eq {r q : Except Error α} (both : Corresponds Eq Eq r q) : r = q := by
  cases both with
  | ok same => rw [same]
  | error same => rw [same]

end Corresponds
end RowReader
