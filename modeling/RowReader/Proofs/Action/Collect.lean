import Mathlib.Data.List.Forall2
import Mathlib.Data.List.Induction

/-!
# Collecting over lists

A list of calls succeeds if each of them does, with the list of their values.  Which error stops it
is left out here.
-/

namespace RowReader

variable {α β δ ε : Type}

theorem ok_of_map {f : α → β} {r : Except ε α} {b : β} (mapped : r.map f = .ok b) :
    ∃ a, r = .ok a ∧ f a = b := by
  cases r with
  | error e => cases mapped
  | ok a =>
    cases mapped
    exact ⟨a, rfl, rfl⟩

theorem exists_ok_map_iff {f : α → β} {r : Except ε α} :
    (∃ b, r.map f = .ok b) ↔ ∃ a, r = .ok a := by
  cases r <;> simp [Except.map]

theorem toOption_bind (r : Except ε α) (next : α → Except ε β) :
    (r >>= next).toOption = r.toOption.bind fun a => (next a).toOption := by
  cases r <;> rfl

theorem toOption_eq_some {r : Except ε α} {a : α} : r.toOption = some a ↔ r = .ok a := by
  cases r <;> simp [Except.toOption]

/-- What a list of calls collects, errors aside. -/
theorem toOption_mapM (f : α → Except ε β) (xs : List α) :
    (xs.mapM f).toOption = xs.mapM fun x => (f x).toOption := by
  induction xs with
  | nil => rfl
  | cons x xs ih =>
    rw [List.mapM_cons, List.mapM_cons, toOption_bind, ← ih]
    cases f x with
    | error e => rfl
    | ok y =>
      cases xs.mapM f <;> rfl

/-- A list of values is collected exactly if each of them is there. -/
theorem mapM_eq_some_iff {f : α → Option β} {xs : List α} {ys : List β} :
    xs.mapM f = some ys ↔ xs.map f = ys.map some := by
  induction xs generalizing ys with
  | nil => cases ys <;> simp
  | cons x xs ih =>
    rw [List.mapM_cons]
    cases first : f x with
    | none => cases ys <;> simp [first]
    | some y =>
      cases rest : xs.mapM f with
      | none =>
        cases ys with
        | nil => simp
        | cons z zs =>
          have differ : xs.map f ≠ zs.map some := by
            intro same
            rw [ih.mpr same] at rest
            cases rest
          simp [first, differ]
      | some zs =>
        have same := ih.mp rest
        cases ys with
        | nil => simp
        | cons z ws =>
          simp only [Option.bind_eq_bind, Option.bind_some, Option.pure_def, Option.some.injEq,
            List.cons.injEq, List.map_cons, first, same]
          rw [List.map_inj_right (fun _ _ => Option.some.inj)]

theorem isSome_mapM_iff {f : α → Option β} {xs : List α} :
    (xs.mapM f).isSome ↔ ∀ x ∈ xs, (f x).isSome := by
  induction xs with
  | nil => simp
  | cons x xs ih =>
    rw [List.mapM_cons, List.forall_mem_cons, ← ih]
    cases f x <;> cases xs.mapM f <;> simp

theorem mapM_congr {f g : α → Option β} {xs : List α} (alike : ∀ x ∈ xs, f x = g x) :
    xs.mapM f = xs.mapM g := by
  induction xs with
  | nil => rfl
  | cons x xs ih =>
    rw [List.mapM_cons, List.mapM_cons, alike x List.mem_cons_self,
      ih fun y member => alike y (List.mem_cons_of_mem x member)]

/-- Collecting in two rounds is collecting in one. -/
theorem mapM_bind {f : α → Option β} {g : β → Option δ} {xs : List α} {ys : List β}
    (collected : xs.mapM f = some ys) : ys.mapM g = xs.mapM fun x => (f x).bind g := by
  induction xs generalizing ys with
  | nil =>
    cases collected
    rfl
  | cons x xs ih =>
    rw [List.mapM_cons] at collected ⊢
    cases first : f x with
    | none => simp [first] at collected
    | some y =>
      cases rest : xs.mapM f with
      | none => simp [first, rest] at collected
      | some zs =>
        simp only [first, rest, Option.bind_eq_bind, Option.bind_some, Option.pure_def,
          Option.some.injEq] at collected
        subst collected
        rw [List.mapM_cons, ih rest]
        rfl

/-- A list of calls fails with the error of the first of them that fails. -/
theorem first_error_of_mapM {f : α → Except ε β} {xs : List α} {e : ε}
    (failed : xs.mapM f = .error e) :
    ∃ front x back, xs = front ++ x :: back ∧ (∀ y ∈ front, ∃ b, f y = .ok b) ∧
      f x = .error e := by
  induction xs with
  | nil => cases failed
  | cons x xs ih =>
    rw [List.mapM_cons] at failed
    cases first : f x with
    | error other =>
      rw [first] at failed
      cases failed
      exact ⟨[], x, xs, rfl, fun _ => nofun, first⟩
    | ok y =>
      cases rest : xs.mapM f with
      | error other =>
        rw [first, rest] at failed
        cases failed
        rcases ih rest with ⟨front, later, back, rfl, before, found⟩
        exact ⟨x :: front, later, back, rfl, List.forall_mem_cons.mpr ⟨⟨y, first⟩, before⟩, found⟩
      | ok ys =>
        rw [first, rest] at failed
        cases failed

theorem exists_error_of_mapM {f : α → Except ε β} {xs : List α} {e : ε}
    (failed : xs.mapM f = .error e) : ∃ x ∈ xs, f x = .error e := by
  rcases first_error_of_mapM failed with ⟨front, x, back, rfl, -, found⟩
  exact ⟨x, List.mem_append_right front List.mem_cons_self, found⟩

/-- A list of calls collects these values exactly if each of them gives its own. -/
theorem mapM_eq_ok_iff {f : α → Except ε β} {xs : List α} {ys : List β} :
    xs.mapM f = .ok ys ↔ List.Forall₂ (fun x y => f x = .ok y) xs ys := by
  induction xs generalizing ys with
  | nil =>
    rw [List.mapM_nil, List.forall₂_nil_left_iff, eq_comm]
    exact Except.ok.injEq ys [] ▸ Iff.rfl
  | cons x xs ih =>
    rw [List.mapM_cons, List.forall₂_cons_left_iff]
    cases first : f x with
    | error e =>
      constructor
      · intro found
        cases found
      · rintro ⟨y, zs, same, -⟩
        cases same
    | ok y =>
      cases rest : xs.mapM f with
      | error e =>
        constructor
        · intro found
          cases found
        · rintro ⟨z, zs, -, others, -⟩
          cases rest.symm.trans (ih.mpr others)
      | ok zs =>
        constructor
        · intro found
          cases found
          exact ⟨y, zs, rfl, ih.mp rest, rfl⟩
        · rintro ⟨z, ws, same, others, rfl⟩
          cases same
          cases rest.symm.trans (ih.mpr others)
          rfl

theorem map_eq_map_ok_iff {f : α → Except ε β} {xs : List α} {ys : List β} :
    xs.map f = ys.map .ok ↔ xs.mapM f = .ok ys := by
  rw [mapM_eq_ok_iff, ← List.forall₂_eq_eq_eq, List.forall₂_map_left_iff, List.forall₂_map_right_iff]

theorem exists_forall₂ {related : α → β → Prop} {xs : List α}
    (each : ∀ x ∈ xs, ∃ y, related x y) : ∃ ys, List.Forall₂ related xs ys := by
  induction xs with
  | nil => exact ⟨[], .nil⟩
  | cons x xs ih =>
    rcases List.forall_mem_cons.mp each with ⟨⟨y, here⟩, there⟩
    rcases ih there with ⟨ys, others⟩
    exact ⟨y :: ys, .cons here others⟩

/-- What holds of all items of one list holds of those related to them, if the relation carries it. -/
theorem forall_mem_of_forall₂ {related : α → β → Prop} {P : α → Prop} {Q : β → Prop} {xs : List α}
    {ys : List β} (each : List.Forall₂ related xs ys) (carries : ∀ x y, related x y → Q y → P x)
    (all : ∀ y ∈ ys, Q y) : ∀ x ∈ xs, P x := by
  induction each with
  | nil => exact fun _ => nofun
  | cons first _ ih =>
    rcases List.forall_mem_cons.mp all with ⟨here, there⟩
    exact List.forall_mem_cons.mpr ⟨carries _ _ first here, ih there⟩

/-- What the relation says of an item alone holds of all items that are related to some. -/
theorem forall_mem_of_related {related : α → β → Prop} {P : α → Prop} {xs : List α} {ys : List β}
    (each : List.Forall₂ related xs ys) (carries : ∀ x y, related x y → P x) : ∀ x ∈ xs, P x := by
  induction each with
  | nil => exact fun _ => nofun
  | cons first _ ih => exact List.forall_mem_cons.mpr ⟨carries _ _ first, ih⟩

/-- A list of calls collects values exactly if each of them gives one. -/
theorem exists_mapM_iff {f : α → Except ε β} {xs : List α} :
    (∃ ys, xs.mapM f = .ok ys) ↔ ∀ x ∈ xs, ∃ y, f x = .ok y := by
  simp only [mapM_eq_ok_iff]
  constructor
  · rintro ⟨ys, each⟩
    exact forall_mem_of_related each fun x y found => ⟨y, found⟩
  · exact exists_forall₂

theorem forall_mem_iff_of_forall₂ {related : α → β → Prop} {P : α → Prop} {Q : β → Prop} {xs : List α}
    {ys : List β} (each : List.Forall₂ related xs ys) (alike : ∀ x y, related x y → (P x ↔ Q y)) :
    (∀ x ∈ xs, P x) ↔ ∀ y ∈ ys, Q y :=
  ⟨forall_mem_of_forall₂ each.flip fun y x here => (alike x y here).mp,
    forall_mem_of_forall₂ each fun x y here => (alike x y here).mpr⟩

/-- Values that are paired with names of their own stay related to what they belong to. -/
theorem forall₂_zip_map {related : α → β → Prop} {xs : List α} {ys : List β} (name : α → δ)
    (each : List.Forall₂ related xs ys) :
    List.Forall₂ (fun x pair => pair.1 = name x ∧ related x pair.2) xs ((xs.map name).zip ys) := by
  induction each with
  | nil => exact .nil
  | cons first _ ih => exact .cons ⟨rfl, first⟩ ih

/-- All items of an array, position by position. -/
theorem map_range_getElem? (xs : Array α) :
    (List.range xs.size).map (fun i => xs[i]?) = xs.toList.map some := by
  apply List.ext_getElem
  · simp
  · intro i below _
    have inside : i < xs.size := by simpa using below
    simp [inside]

/-- The first of the items left over stands where they begin. -/
theorem drop_eq_cons {xs rest : List α} {x : α} {n : Nat} (left : xs.drop n = x :: rest) :
    xs[n]? = some x ∧ xs.drop (n + 1) = rest := by
  constructor
  · rw [← List.head?_drop, left, List.head?_cons]
  · rw [← List.tail_drop, left, List.tail_cons]

/-- Where a property fails somewhere in a list, it fails at a first place. -/
theorem exists_first_failure {P : α → Prop} {xs : List α} (fails : ¬ ∀ x ∈ xs, P x) :
    ∃ front x back, xs = front ++ x :: back ∧ (∀ y ∈ front, P y) ∧ ¬ P x := by
  induction xs with
  | nil => exact absurd (fun x member => absurd member List.not_mem_nil) fails
  | cons x xs ih =>
    by_cases holds : P x
    · have later : ¬ ∀ y ∈ xs, P y :=
        fun all => fails (List.forall_mem_cons.mpr ⟨holds, all⟩)
      rcases ih later with ⟨front, y, back, rfl, before, failed⟩
      exact ⟨x :: front, y, back, rfl, List.forall_mem_cons.mpr ⟨holds, before⟩, failed⟩
    · exact ⟨[], x, xs, rfl, fun y member => absurd member List.not_mem_nil, holds⟩

/-- There is only one such place. -/
theorem unique_first_failure {P : α → Prop} {front front' back back' : List α} {x x' : α}
    (same : front ++ x :: back = front' ++ x' :: back') (before : ∀ y ∈ front, P y) (fails : ¬ P x)
    (before' : ∀ y ∈ front', P y) (fails' : ¬ P x') : front = front' ∧ x = x' ∧ back = back' := by
  induction front generalizing front' with
  | nil =>
    cases front' with
    | nil =>
      rcases List.cons.inj same with ⟨first, rest⟩
      exact ⟨rfl, first, rest⟩
    | cons y front' =>
      cases (List.cons.inj same).1
      exact absurd (before' x List.mem_cons_self) fails
  | cons y front ih =>
    rcases List.forall_mem_cons.mp before with ⟨here, there⟩
    cases front' with
    | nil =>
      cases (List.cons.inj same).1
      exact absurd here fails'
    | cons z front' =>
      rcases List.cons.inj same with ⟨rfl, others⟩
      rcases ih others there (List.forall_mem_cons.mp before').2 with ⟨rfl, first, rest⟩
      exact ⟨rfl, first, rest⟩

/-- Distinct items have no repetitions to take out. -/
theorem eraseDups_of_nodup [BEq α] [LawfulBEq α] {xs : List α} (distinct : xs.Nodup) :
    xs.eraseDups = xs := by
  induction xs with
  | nil => rfl
  | cons x xs ih =>
    rcases List.nodup_cons.mp distinct with ⟨absent, others⟩
    have kept : xs.filter (fun y => !y == x) = xs := by
      apply List.filter_eq_self.mpr
      intro y member
      simp only [Bool.not_eq_eq_eq_not, Bool.not_true, beq_eq_false_iff_ne]
      rintro rfl
      exact absent member
    rw [List.eraseDups_cons, kept, ih others]

/-- What is left when repetitions are taken out has none. -/
theorem nodup_eraseDups [DecidableEq α] (xs : List α) : xs.eraseDups.Nodup := by
  induction xs using List.reverseRecOn with
  | nil => exact .nil
  | append_singleton xs x ih =>
    rw [List.eraseDups_append]
    by_cases known : x ∈ xs
    · have nothing : [x].removeAll xs = [] := by simp [List.removeAll, known]
      rw [nothing, List.eraseDups_nil, List.append_nil]
      exact ih
    · have fresh : [x].removeAll xs = [x] := by simp [List.removeAll, known]
      rw [fresh, eraseDups_of_nodup (List.pairwise_singleton _ x)]
      refine List.nodup_append.mpr ⟨ih, List.pairwise_singleton _ x, fun y old z last same => ?_⟩
      rw [List.mem_singleton.mp last] at same
      exact known (same ▸ List.mem_eraseDups.mp old)

end RowReader
