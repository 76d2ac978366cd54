import RowReader.Proofs.Action.Corresponds
import RowReader.Proofs.Pass.Lazy

/-!
# Sources that match

Two sources match if each call, made on both in related states, has corresponding results and leaves
the states related.  A pass cannot tell such sources apart: the same rows come from both, and where
one fails, the other fails with an error that counts as the same.  A source that is matched with
itself, in states that satisfy an invariant, keeps this invariant all through a pass and fails with
no other errors than its calls do.
-/

namespace RowReader

variable {σ τ γ α : Type}

open RowReader.Action

/-- The same value on both sides, of which something holds. -/
def Agree (holds : α → Prop) (a b : α) : Prop :=
  a = b ∧ holds a

namespace Source

/-- What two sources have in common, call by call, as long as they are asked for the rows of the groups
that they hand out, one after the other. -/
structure Matches (src : Source σ γ) (src' : Source τ γ) (states : σ → τ → Prop)
    (places : Place γ → Prop) (fails : Error → Error → Prop) : Prop where
  index : src.index = src'.index
  numRows : src.numRows = src'.numRows
  readSchema : ∀ {s t}, states s t →
    Corresponds fails Eq (src.readSchema s).result (src'.readSchema t).result ∧
      states (src.readSchema s).state (src'.readSchema t).state
  nextRowGroup : ∀ {s t}, states s t →
    Corresponds fails (Agree fun g? => ∀ g ∈ g?, places ⟨g, 0, src.numRows g⟩)
        (src.nextRowGroup s).result (src'.nextRowGroup t).result ∧
      states (src.nextRowGroup s).state (src'.nextRowGroup t).state
  assembleRow : ∀ {s t} {g : γ} {i left : Nat} (schema), states s t → places ⟨g, i, left + 1⟩ →
    Corresponds fails (Agree fun both => places ⟨both.2, i + 1, left⟩)
        (src.assembleRow g schema i s).result (src'.assembleRow g schema i t).result ∧
      states (src.assembleRow g schema i s).state (src'.assembleRow g schema i t).state
  rowWidth : ∀ i index found expected,
    fails (.rowWidth i index found expected) (.rowWidth i index found expected)
  outOfIteration : ∀ e f, fails e f → fails e.outOfIteration f.outOfIteration
  close : ∀ {s t}, states s t → Corresponds fails Eq (src.close s).result (src'.close t).result

/-- A source matches itself in states of which something holds that no call undoes. -/
theorem matches_self (src : Source σ γ) {holds : σ → Prop}
    (readSchema : ∀ s, holds s → holds (src.readSchema s).state)
    (nextRowGroup : ∀ s, holds s → holds (src.nextRowGroup s).state)
    (assembleRow : ∀ g schema i s, holds s → holds (src.assembleRow g schema i s).state) :
    src.Matches src (Agree holds) (fun _ => True) Eq where
  index := rfl
  numRows := rfl
  readSchema := by
    rintro s _ ⟨rfl, here⟩
    exact ⟨.refl _ fun _ _ => rfl, rfl, readSchema s here⟩
  nextRowGroup := by
    rintro s _ ⟨rfl, here⟩
    refine ⟨?_, rfl, nextRowGroup s here⟩
    exact (Corresponds.refl _ fun _ _ => rfl).mono (fun _ _ => id) fun _ _ same => ⟨same, by simp⟩
  assembleRow := by
    rintro s _ g i left schema ⟨rfl, here⟩ -
    refine ⟨?_, rfl, assembleRow g schema i s here⟩
    exact (Corresponds.refl _ fun _ _ => rfl).mono (fun _ _ => id) fun _ _ same => ⟨same, trivial⟩
  rowWidth := fun _ _ _ _ => rfl
  outOfIteration := fun _ _ => congrArg Error.outOfIteration
  close := by
    rintro s _ ⟨rfl, here⟩
    exact .refl _ fun _ _ => rfl

end Source

/-- Two ends of which neither is an error, or which are errors that count as the same. -/
inductive Ending.Matches (fails : Error → Error → Prop) : Ending → Ending → Prop where
  | more : Ending.Matches fails .more .more
  | exhausted : Ending.Matches fails .exhausted .exhausted
  | failed {e f : Error} (alike : fails e f) : Ending.Matches fails (.failed e) (.failed f)

/-- The same rows with matching ends, in related states. -/
structure Batch.Matches (states : σ → τ → Prop) (fails : Error → Error → Prop) (b : Batch σ)
    (c : Batch τ) : Prop where
  rows : b.rows = c.rows
  ending : Ending.Matches fails b.ending c.ending
  states : states b.state c.state

variable {src : Source σ γ} {src' : Source τ γ} {states : σ → τ → Prop} {places : Place γ → Prop}
  {fails : Error → Error → Prop} {s : σ} {t : τ}

theorem Batch.Matches.behind {b : Batch σ} {c : Batch τ} (both : b.Matches states fails c)
    (rows : List Row) (log log' : List LogLine) :
    (b.behind rows log).Matches states fails (c.behind rows log') :=
  ⟨congrArg (rows ++ ·) both.rows, both.ending, both.states⟩

theorem Ending.matches_of {β : Type} {gives : α → β → Prop} {r : Except Error α}
    {q : Except Error β} (both : Corresponds fails gives r q) :
    Ending.Matches fails (.of r) (.of q) := by
  cases both with
  | ok _ => exact .exhausted
  | error alike => exact .failed alike

theorem Batch.Matches.dataset {b : Batch σ} {c : Batch τ} (both : b.Matches states fails c)
    (leaves : ∀ e f, fails e f → fails e.outOfIteration f.outOfIteration) (schema : Schema) : Corresponds fails Eq (b.dataset schema) (c.dataset schema) := by
  rcases b with ⟨rows, ending, u, log⟩
  rcases c with ⟨rows', ending', v, log'⟩
  rcases both with ⟨same, ends, -⟩
  cases same
  cases ends with
  | more => exact .ok rfl
  | exhausted => exact .ok rfl
  | failed alike => exact .error (leaves _ _ alike)

namespace Source

variable (both : src.Matches src' states places fails)

include both

/-! ## The next group -/

theorem Matches.refused (here : states s t) {u : σ} {e : Error} {log : List LogLine}
    (asked : src.nextRowGroup s = ⟨.error e, u, log⟩) :
    ∃ f v log', src'.nextRowGroup t = ⟨.error f, v, log'⟩ ∧ fails e f ∧ states u v := by
  rcases both.nextRowGroup here with ⟨results, after⟩
  rcases asked' : src'.nextRowGroup t with ⟨q, v, log'⟩
  rw [asked, asked'] at results after
  cases results with
  | error alike => exact ⟨_, v, log', rfl, alike, after⟩

theorem Matches.exhausted (here : states s t) {u : σ} {log : List LogLine}
    (asked : src.nextRowGroup s = ⟨.ok none, u, log⟩) :
    ∃ v log', src'.nextRowGroup t = ⟨.ok none, v, log'⟩ ∧ states u v := by
  rcases both.nextRowGroup here with ⟨results, after⟩
  rcases asked' : src'.nextRowGroup t with ⟨q, v, log'⟩
  rw [asked, asked'] at results after
  cases results with
  | ok agree =>
    cases agree.1
    exact ⟨v, log', rfl, after⟩

theorem Matches.handed (here : states s t) {g : γ} {u : σ} {log : List LogLine}
    (asked : src.nextRowGroup s = ⟨.ok (some g), u, log⟩) :
    ∃ v log', src'.nextRowGroup t = ⟨.ok (some g), v, log'⟩ ∧ places ⟨g, 0, src.numRows g⟩ ∧
      states u v := by
  rcases both.nextRowGroup here with ⟨results, after⟩
  rcases asked' : src'.nextRowGroup t with ⟨q, v, log'⟩
  rw [asked, asked'] at results after
  cases results with
  | ok agree =>
    rcases agree with ⟨rfl, known⟩
    exact ⟨v, log', rfl, known g rfl, after⟩

/-! ## Delivering all rows -/

theorem Matches.checkedRow (here : states s t) (schema : Schema) {g : γ} {i left : Nat}
    (known : places ⟨g, i, left + 1⟩) :
    Corresponds fails (Agree fun both => places ⟨both.2, i + 1, left⟩)
        (src.checkedRow schema g i s).result (src'.checkedRow schema g i t).result ∧
      states (src.checkedRow schema g i s).state (src'.checkedRow schema g i t).state := by
  rcases both.assembleRow schema here known with ⟨results, after⟩
  simp only [Source.checkedRow, bind_apply]
  generalize src.assembleRow g schema i s = first at results after
  generalize src'.assembleRow g schema i t = second at results after
  rcases first with ⟨r, u, log⟩
  rcases second with ⟨q, v, log'⟩
  cases results with
  | error alike => exact ⟨.error alike, after⟩
  | ok agree =>
    rcases agree with ⟨rfl, kept⟩
    dsimp only
    split
    · exact ⟨.ok ⟨rfl, kept⟩, after⟩
    · rw [both.index]
      exact ⟨.error (both.rowWidth _ _ _ _), after⟩

theorem Matches.deliverGroup (here : states s t) (schema : Schema) {g : γ} {i left : Nat}
    (known : places ⟨g, i, left⟩) :
    (src.deliverGroup schema left g i s).Matches states fails
      (src'.deliverGroup schema left g i t) := by
  induction left generalizing g i s t with
  | zero => exact ⟨rfl, .more, here⟩
  | succ left ih =>
    rcases both.checkedRow here schema known with ⟨results, after⟩
    rcases checked : src.checkedRow schema g i s with ⟨r, u, log⟩
    rcases checked' : src'.checkedRow schema g i t with ⟨q, v, log'⟩
    rw [checked, checked'] at results after
    cases results with
    | error alike =>
      rw [src.deliverGroup_of_error schema left checked,
        src'.deliverGroup_of_error schema left checked']
      exact ⟨rfl, .failed alike, after⟩
    | ok agree =>
      rcases agree with ⟨rfl, kept⟩
      rw [src.deliverGroup_of_row schema left checked, src'.deliverGroup_of_row schema left checked']
      exact (ih after kept).behind _ log log'

/-- All groups of matching sources deliver the same rows up to matching ends. -/
theorem Matches.deliverGroups (here : states s t) (schema : Schema) :
    (src.deliverGroups schema s).Matches states fails (src'.deliverGroups schema t) := by
  induction s using src.groups_induction generalizing t with
  | refused s e u log asked =>
    rcases both.refused here asked with ⟨f, v, log', asked', alike, after⟩
    rw [src.deliverGroups_refused schema asked, src'.deliverGroups_refused schema asked']
    exact ⟨rfl, .failed alike, after⟩
  | exhausted s u log asked =>
    rcases both.exhausted here asked with ⟨v, log', asked', after⟩
    rw [src.deliverGroups_exhausted schema asked, src'.deliverGroups_exhausted schema asked']
    exact ⟨rfl, .exhausted, after⟩
  | handed s g u log asked ih =>
    rcases both.handed here asked with ⟨v, log', asked', known, after⟩
    have rows := both.deliverGroup after schema known
    rcases delivered : src.deliverGroup schema (src.numRows g) g 0 u with ⟨here, ending, x, more⟩
    rcases delivered' : src'.deliverGroup schema (src.numRows g) g 0 v
        with ⟨there, ending', y, more'⟩
    rw [delivered, delivered'] at rows
    have confirmed := src.deliverGroup_ending schema (src.numRows g) g 0 u
    rw [delivered] at confirmed
    rw [both.numRows] at delivered'
    rcases rows with ⟨same, ends, behind⟩
    cases same
    cases ends with
    | more =>
      rw [src.deliverGroups_further schema asked delivered,
        src'.deliverGroups_further schema asked' delivered']
      exact (ih x (src.pending_delivered schema delivered) behind).behind _ _ _
    | failed alike =>
      rw [src.deliverGroups_broken schema asked delivered,
        src'.deliverGroups_broken schema asked' delivered']
      exact ⟨rfl, .failed alike, behind⟩
    | exhausted =>
      rcases confirmed with more | ⟨e, failed⟩
      · cases more
      · cases failed

/-! ## Looking for a row -/

/-- The searches for a row find the same row, at a place that is met, or neither finds one. -/
def FoundAlike (places : Place γ → Prop) (states : σ → τ → Prop) (fails : Error → Error → Prop)
    (o : Outcome σ (Option (Row × Place γ))) (o' : Outcome τ (Option (Row × Place γ))) : Prop :=
  Corresponds fails (Agree fun found => ∀ both ∈ found, places both.2) o.result o'.result ∧
    states o.state o'.state

omit both in
theorem FoundAlike.after {o : Outcome σ (Option (Row × Place γ))}
    {o' : Outcome τ (Option (Row × Place γ))} (alike : FoundAlike places states fails o o')
    (log log' : List LogLine) : FoundAlike places states fails (o.after log) (o'.after log') :=
  alike

theorem Matches.rowAt (here : states s t) (schema : Schema) {g : γ} {i left : Nat}
    (known : places ⟨g, i, left + 1⟩) :
    FoundAlike places states fails (src.rowAt schema g i left s) (src'.rowAt schema g i left t) := by
  rcases both.checkedRow here schema known with ⟨results, after⟩
  unfold Source.rowAt
  generalize src.checkedRow schema g i s = first at results after
  generalize src'.checkedRow schema g i t = second at results after
  rcases first with ⟨r, u, log⟩
  rcases second with ⟨q, v, log'⟩
  cases results with
  | error alike => exact ⟨.error alike, after⟩
  | @ok found _ agree =>
    rcases found with ⟨row, next⟩
    rcases agree with ⟨rfl, kept⟩
    refine ⟨.ok ⟨rfl, ?_⟩, after⟩
    intro both member
    cases member
    exact kept

theorem Matches.firstRow (here : states s t) (schema : Schema) :
    FoundAlike places states fails (src.firstRow schema s) (src'.firstRow schema t) := by
  induction s using src.groups_induction generalizing t with
  | refused s e u log asked =>
    rcases both.refused here asked with ⟨f, v, log', asked', alike, after⟩
    rw [src.firstRow_refused schema asked, src'.firstRow_refused schema asked']
    exact ⟨.error alike, after⟩
  | exhausted s u log asked =>
    rcases both.exhausted here asked with ⟨v, log', asked', after⟩
    rw [src.firstRow_exhausted schema asked, src'.firstRow_exhausted schema asked']
    exact ⟨.ok ⟨rfl, nofun⟩, after⟩
  | handed s g u log asked ih =>
    rcases both.handed here asked with ⟨v, log', asked', known, after⟩
    rw [src.firstRow_of_group schema asked, src'.firstRow_of_group schema asked', ← both.numRows]
    apply FoundAlike.after
    cases declared : src.numRows g with
    | zero => exact ih u (Nat.le_refl _) after
    | succ left =>
      rw [declared] at known
      exact both.rowAt after schema known

theorem Matches.rowAfter (here : states s t) (schema : Schema) {place : Place γ}
    (known : places place) :
    FoundAlike places states fails (src.rowAfter schema place s) (src'.rowAfter schema place t) := by
  rcases place with ⟨g, i, left⟩
  cases left with
  | zero => exact both.firstRow here schema
  | succ left => exact both.rowAt here schema known

/-! ## Whole passes -/

theorem Matches.readSchemaOf (here : states s t) (p : Pass) :
    let asked := Pass.readSchema src (p, s)
    let asked' := Pass.readSchema src' (p, t)
    Corresponds fails Eq asked.result asked'.result ∧ asked.state.1 = asked'.state.1 ∧
      states asked.state.2 asked'.state.2 := by
  intro asked asked'
  cases known : p.schema with
  | some schema =>
    have own := Pass.readSchema_known src s known
    have other := Pass.readSchema_known src' t known
    simp only [asked, asked', own.result, own.state, other.result, other.state]
    exact ⟨.ok rfl, trivial, here⟩
  | none =>
    rcases both.readSchema here with ⟨results, after⟩
    have own := Pass.readSchema_yields src p s known
    have other := Pass.readSchema_yields src' p t known
    simp only [asked, asked', own.result, own.state, other.result, other.state]
    generalize (src.readSchema s).result = r at results
    generalize (src'.readSchema t).result = q at results
    cases results with
    | error alike => exact ⟨.error alike, rfl, after⟩
    | ok same =>
      cases same
      exact ⟨.ok rfl, rfl, after⟩

/-- Reading all rows has corresponding results, and leaves the sources as they are closed in related
states. -/
theorem Matches.materialize (here : states s t) :
    Corresponds fails Eq (Pass.materialize src ({}, s)).result
        (Pass.materialize src' ({}, t)).result ∧
      ∃ u v, states u v ∧ (Pass.materialize src ({}, s)).state.2 = (src.close u).state ∧
        (Pass.materialize src' ({}, t)).state.2 = (src'.close v).state := by
  rcases both.readSchema here with ⟨results, after⟩
  generalize read : (src.readSchema s).result = r at results
  generalize read' : (src'.readSchema t).result = q at results
  cases results with
  | error alike =>
    have ends := Pass.materialize_unread src s read
    have ends' := Pass.materialize_unread src' t read'
    rw [ends.result, ends'.result, ends.state, ends'.state]
    exact ⟨(Corresponds.error alike).lastly (both.close after), _, _, after, rfl, rfl⟩
  | @ok schema _ same =>
    cases same
    have batches := both.deliverGroups after schema
    have ends := Pass.materialize_read src s read
    have ends' := Pass.materialize_read src' t read'
    rw [ends.result, ends'.result, ends.state, ends'.state]
    exact ⟨(batches.dataset both.outOfIteration schema).lastly (both.close batches.states), _, _,
      batches.states, rfl, rfl⟩

end Source

namespace Streaming

/-- Streams that stand at the same place of matching sources. -/
structure Alike (states : σ → τ → Prop) (places : Place γ → Prop) (st : Streaming σ γ)
    (st' : Streaming τ γ) : Prop where
  progress : st.progress = st'.progress
  pass : st.pass = st'.pass
  states : states st.source st'.source
  known : ∀ schema place, st.progress = .running schema place → places place

theorem alike_fresh (here : states s t) :
    Alike states places (fresh s : Streaming σ γ) (fresh t) :=
  ⟨rfl, rfl, here, nofun⟩

variable {st : Streaming σ γ} {st' : Streaming τ γ}

/-- Alike streams get the same row from their sources, or none from either. -/
theorem Alike.pull (alike : Alike states places st st')
    (both : src.Matches src' states places fails) :
    (Corresponds fails (Agree fun found => ∀ there ∈ found, places there.2.2)
        (st.pull src).result (st'.pull src').result ∧
      states (st.pull src).state (st'.pull src').state) ∧
      (st.opened src).pass = (st'.opened src').pass := by
  rcases st with ⟨progress, p, s⟩
  rcases st' with ⟨progress', p', t⟩
  rcases alike with ⟨rfl, rfl, here, known⟩
  have along {schema : Schema} {o : Outcome σ (Option (Row × Place γ))}
      {o' : Outcome τ (Option (Row × Place γ))}
      (found : Source.FoundAlike places states fails o o') :
      Corresponds fails (Agree fun found => ∀ there ∈ found, places there.2.2)
          (pull.found schema o).result (pull.found schema o').result ∧
        states (pull.found schema o).state (pull.found schema o').state := by
    refine ⟨found.1.map ?_, found.2⟩
    rintro found _ ⟨rfl, inside⟩
    refine ⟨rfl, fun there member => ?_⟩
    rcases Option.map_eq_some_iff.mp member with ⟨both, same, rfl⟩
    exact inside both same
  cases progress with
  | ended => exact ⟨⟨.ok ⟨rfl, nofun⟩, here⟩, rfl⟩
  | running schema place =>
    exact ⟨along (both.rowAfter here schema (known schema place rfl)), rfl⟩
  | unstarted =>
    rcases both.readSchemaOf here p with ⟨results, passes, after⟩
    simp only [Streaming.pull, opened]
    generalize Pass.readSchema src (p, s) = asked at results passes after
    generalize Pass.readSchema src' (p, t) = asked' at results passes after
    rcases asked with ⟨r, u, log⟩
    rcases asked' with ⟨q, v, log'⟩
    cases results with
    | error failed => exact ⟨⟨.error failed, after⟩, passes⟩
    | @ok schema _ same =>
      cases same
      exact ⟨along (both.firstRow after schema), passes⟩

/-- What comes of pulling alike streams: the same row, after which they are alike again, or the end
of both, with their sources closed. -/
inductive PulledAlike (src : Source σ γ) (src' : Source τ γ) (states : σ → τ → Prop)
    (places : Place γ → Prop) (fails : Error → Error → Prop) (st : Streaming σ γ) (st' : Streaming τ γ) :
    Prop where
  | row {row : Row} {u : Streaming σ γ} {v : Streaming τ γ}
      (pulled : Yields (next src) st (.ok (some row)) u)
      (pulled' : Yields (next src') st' (.ok (some row)) v) (alike : Alike states places u v) :
      PulledAlike src src' states places fails st st'
  | ended {r q : Except Error (Option Row)} {s : σ} {t : τ} {u : Streaming σ γ} {v : Streaming τ γ}
      (pulled : Yields (next src) st r u) (pulled' : Yields (next src') st' q v)
      (results : Corresponds fails Eq r q) (none_left : ∀ row, r ≠ .ok (some row))
      (here : states s t) (finished : u.progress = .ended) (closed : u.source = (src.close s).state)
      (closed' : v.source = (src'.close t).state) :
      PulledAlike src src' states places fails st st'

theorem Alike.next (alike : Alike states places st st')
    (both : src.Matches src' states places fails) (live : st.Live) :
    PulledAlike src src' states places fails st st' := by
  have live' : st'.Live := by
    unfold Live
    rw [← alike.progress]
    exact live
  have pulled := next_yields src live
  have pulled' := next_yields src' live'
  have ended := noted_of_end src (st.opened src).pass (st.pull src)
  rcases alike.pull both with ⟨⟨results, after⟩, passes⟩
  rw [← passes] at pulled'
  generalize st.pull src = first at pulled ended results after
  generalize st'.pull src' = second at pulled' results after
  rcases first with ⟨r, u, log⟩
  rcases second with ⟨q, v, log'⟩
  have closing := both.close after
  cases results with
  | error failed =>
    have none_left := (ended (by rintro row ⟨⟩)).2
    simp only [noted] at pulled pulled' none_left
    exact .ended pulled pulled'
      (((Corresponds.error failed).lastly closing).mapError both.outOfIteration) none_left after
      rfl rfl rfl
  | @ok found _ agree =>
    rcases agree with ⟨rfl, inside⟩
    rcases found with _ | ⟨row, schema, place⟩
    · have none_left := (ended (by rintro row ⟨⟩)).2
      simp only [noted] at pulled pulled' none_left
      exact .ended pulled pulled'
        (((Corresponds.ok rfl).lastly closing).mapError both.outOfIteration) none_left after
        rfl rfl rfl
    · simp only [noted] at pulled pulled'
      refine .row pulled pulled' ⟨rfl, rfl, after, ?_⟩
      intro schema' place' stands
      cases stands
      exact inside _ rfl

/-- Rows taken from alike streams are the same rows up to matching ends.  While there are more to
come the streams stay alike; once they have ended the sources are closed. -/
theorem Alike.takeRows (alike : Alike states places st st')
    (both : src.Matches src' states places fails) (live : st.Live) (count : Nat) :
    let taken := RowReader.takeRows (Streaming.next src) count st
    let taken' := RowReader.takeRows (Streaming.next src') count st'
    taken.rows = taken'.rows ∧ taken.ending.Matches fails taken'.ending ∧
      (taken.ending = .more → taken.state.Live ∧ Alike states places taken.state taken'.state) ∧
      (taken.ending ≠ .more → taken.state.progress = .ended ∧ ∃ s t, states s t ∧
        taken.state.source = (src.close s).state ∧
        taken'.state.source = (src'.close t).state) := by
  intro taken taken'
  induction count generalizing st st' with
  | zero => exact ⟨rfl, .more, fun _ => ⟨live, alike⟩, fun ended => absurd rfl ended⟩
  | succ count ih =>
    cases alike.next both live with
    | row pulled pulled' onward =>
      rcases takeRows_of_row pulled count with ⟨log, further⟩
      rcases takeRows_of_row pulled' count with ⟨log', further'⟩
      rcases ih onward (live_of_row src live pulled) with ⟨rows, ending, state⟩
      simp only [taken, taken', further, further', Batch.behind]
      exact ⟨congrArg ([_] ++ ·) rows, ending, state⟩
    | @ended r q s t u v pulled pulled' results none_left here finished closed closed' =>
      have none_left' : ∀ row, q ≠ .ok (some row) := by
        intro row same
        subst same
        cases results with
        | ok same => exact none_left row (by rw [same])
      rcases takeRows_of_end pulled none_left count with ⟨log, stop⟩
      rcases takeRows_of_end pulled' none_left' count with ⟨log', stop'⟩
      simp only [taken, taken', stop, stop']
      refine ⟨trivial, Ending.matches_of results, fun more => ?_,
        fun _ => ⟨finished, s, t, here, closed, closed'⟩⟩
      cases r <;> cases more

end Streaming
end RowReader
