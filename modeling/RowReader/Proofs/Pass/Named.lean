import RowReader.Pass.Stream
import RowReader.Proofs.Action.Upholds
import RowReader.Proofs.Pass.Single

/-!
# Passes under given names

Over a source whose schema has given names, a pass delivers nothing under any others.  The source is
trusted for the schema only as long as its states keep an invariant, and for a row no further than that
the names of the row begin those of the schema: a row that has fewer of them is refused for its width.
-/

namespace RowReader

variable {σ γ : Type}

open RowReader.Action

/-- What a source upholds that has these names: its schema has them, and a row has those of the schema
that it is assembled against, or the first of them. -/
structure Source.Named (src : Source σ γ) (names : List String) (holds : σ → Prop) : Prop where
  readSchema : Upholds holds (fun schema => schema.names = names) src.readSchema
  nextRowGroup : Upholds holds (fun _ => True) src.nextRowGroup
  assembleRow : ∀ g schema i,
    Upholds holds (fun both => both.1.fields <+: schema.names) (src.assembleRow g schema i)
  close : Upholds holds (fun _ => True) src.close

/-- The rows that are there have these names. -/
structure Batch.Named (names : List String) (holds : σ → Prop) (b : Batch σ) : Prop where
  rows : ∀ row ∈ b.rows, row.fields = names
  state : holds b.state

/-- The row of a pull has these names, if there is one. -/
def RowNamed (names : List String) (row? : Option Row) : Prop :=
  ∀ row ∈ row?, row.fields = names

theorem rowNamed_none (names : List String) : RowNamed names none := by
  rintro row ⟨⟩

/-- The dataset has these names, and so has each of its rows. -/
structure Dataset.Named (names : List String) (d : Dataset) : Prop where
  fieldNames : d.fieldNames = names
  rows : ∀ row ∈ d.rows, row.fields = names

/-- A schema that a pass knows has these names. -/
def Pass.Named (names : List String) (p : Pass) : Prop :=
  ∀ schema ∈ p.schema, schema.names = names

variable {src : Source σ γ} {names : List String} {holds : σ → Prop} {schema : Schema} {s : σ}

theorem Batch.Named.behind {b : Batch σ} {rows : List Row} (named : b.Named names holds)
    (ahead : ∀ row ∈ rows, row.fields = names) (log : List LogLine) :
    (b.behind rows log).Named names holds :=
  ⟨List.forall_mem_append.mpr ⟨ahead, named.rows⟩, named.state⟩

theorem named_nothing {ending : Ending} {log : List LogLine} (here : holds s) :
    Batch.Named names holds { rows := [], ending, state := s, log } :=
  ⟨fun _ member => absurd member List.not_mem_nil, here⟩

namespace Source

section

variable (named : src.Named names holds) (same : schema.names = names)

include named same

/-! ## Delivering all rows -/

/-- A row that is wide enough has all the names. -/
theorem Named.checkedRow (g : γ) (i : Nat) :
    Upholds holds (fun both => both.1.fields = names) (src.checkedRow schema g i) := by
  refine upholds_bind (named.assembleRow g schema i) fun ⟨row, g'⟩ begins => ?_
  dsimp only
  split
  · next wide =>
    refine upholds_pure ?_
    rw [← same]
    exact begins.eq_of_length (by rw [Row.length_fields, wide, Schema.names, List.length_map])
  · exact upholds_fail _

theorem Named.deliverGroup (left : Nat) (g : γ) (i : Nat) (here : holds s) :
    (src.deliverGroup schema left g i s).Named names holds := by
  induction left generalizing g i s with
  | zero => exact named_nothing here
  | succ left ih =>
    have checked := named.checkedRow same g i s here
    rw [Source.deliverGroup]
    split
    · next row g' t log found =>
      rw [found] at checked
      have row_named : ∀ r ∈ [row], r.fields = names :=
        List.forall_mem_singleton.mpr (checked.value (row, g') rfl)
      exact (ih g' (i + 1) checked.state).behind row_named log
    · next found =>
      rw [found] at checked
      exact named_nothing checked.state

theorem Named.deliverGroups (here : holds s) : (src.deliverGroups schema s).Named names holds := by
  have asking (s : σ) (here : holds s) : holds (src.nextRowGroup s).state :=
    (named.nextRowGroup s here).state
  fun_induction src.deliverGroups schema s with
  | case1 s e t log asked => exact named_nothing (by simpa only [asked] using asking s here)
  | case2 s t log asked => exact named_nothing (by simpa only [asked] using asking s here)
  | case3 s g t log asked rows e u more delivered =>
    have taken : holds t := by simpa only [asked] using asking s here
    have whole := named.deliverGroup same (src.numRows g) g 0 taken
    rw [delivered] at whole
    exact ⟨whole.rows, whole.state⟩
  | case4 s g t log asked rows ending u more _ delivered ih =>
    have taken : holds t := by simpa only [asked] using asking s here
    have whole := named.deliverGroup same (src.numRows g) g 0 taken
    rw [delivered] at whole
    exact (ih whole.state).behind whole.rows _

/-! ## Finding one row -/

theorem Named.rowAt (g : γ) (i left : Nat) (here : holds s) :
    (src.rowAt schema g i left s).Upholds holds fun found? => RowNamed names (found?.map Prod.fst) := by
  have checked := named.checkedRow same g i s here
  unfold Source.rowAt
  generalize src.checkedRow schema g i s = out at checked
  rcases out with ⟨answer, t, log⟩
  cases answer with
  | error e => exact ⟨checked.state, nofun⟩
  | ok both =>
    refine ⟨checked.state, ?_⟩
    rintro _ ⟨⟩ _ ⟨⟩
    exact checked.value both rfl

theorem Named.firstRow (here : holds s) :
    (src.firstRow schema s).Upholds holds fun found? => RowNamed names (found?.map Prod.fst) := by
  have asking (s : σ) (here : holds s) : holds (src.nextRowGroup s).state :=
    (named.nextRowGroup s here).state
  fun_induction src.firstRow schema s with
  | case1 s e t log asked =>
    refine ⟨by simpa only [asked] using asking s here, ?_⟩
    rintro _ ⟨⟩
  | case2 s t log asked =>
    refine ⟨by simpa only [asked] using asking s here, ?_⟩
    rintro _ ⟨⟩
    exact rowNamed_none names
  | case3 s g t log asked empty ih =>
    have taken : holds t := by simpa only [asked] using asking s here
    exact (ih taken).after _
  | case4 s g t log asked left count =>
    have taken : holds t := by simpa only [asked] using asking s here
    exact (named.rowAt same g 0 left taken).after _

theorem Named.rowAfter (place : Place γ) (here : holds s) :
    (src.rowAfter schema place s).Upholds holds fun found? =>
      RowNamed names (found?.map Prod.fst) := by
  unfold Source.rowAfter
  split
  · exact named.firstRow same here
  · exact named.rowAt same _ _ _ here

end
end Source

/-! ## The pass as a whole -/

namespace Pass

variable (named : src.Named names holds)

/-- What is known of a schema has these names, and the source may be asked. -/
abbrev InNames (names : List String) (holds : σ → Prop) (both : Pass × σ) : Prop :=
  both.1.Named names ∧ holds both.2

theorem upholds_onSource {α : Type} {post : α → Prop} {act : Action σ α}
    (upholds : Upholds holds post act) : Upholds (InNames names holds) post (onSource act) :=
  upholds_onPart upholds (fun _ here => here.2) fun _ _ here kept => ⟨here.1, kept⟩

include named

theorem readSchema_named :
    Upholds (InNames names holds) (fun schema => schema.names = names) (readSchema src) := by
  refine upholds_bind upholds_getState fun both here => ?_
  split
  · next schema known => exact upholds_pure (here.1 schema known)
  · refine upholds_bind (upholds_onSource named.readSchema) fun schema same => ?_
    have learned : ∀ both, InNames names holds both →
        InNames names holds ({ both.1 with schema := some schema }, both.2) := by
      rintro both ⟨-, kept⟩
      exact ⟨by rintro _ ⟨⟩; exact same, kept⟩
    exact upholds_bind (upholds_modifyState learned) fun _ _ => upholds_pure same

/-- Whatever a pass over the whole source returns has these names. -/
theorem materialize_named :
    Upholds (InNames names holds) (Dataset.Named names) (materialize src) := by
  have begun : Upholds (InNames names holds) (fun _ => True) start := by
    refine upholds_bind upholds_getState fun both _ => ?_
    split
    · exact upholds_fail _
    · exact upholds_modifyState fun _ here => here
  have collected {schema : Schema} (same : schema.names = names) :
      Upholds (InNames names holds) (fun rows => ∀ row ∈ rows, row.fields = names)
        (collect src schema) := by
    rintro ⟨p, s⟩ ⟨known, here⟩
    have delivered := named.deliverGroups same here
    refine ⟨⟨known, delivered.state⟩, fun rows found => ?_⟩
    unfold collect at found
    dsimp only at found
    split at found
    · cases found
    · cases found
      exact delivered.rows
  have whole : Upholds (InNames names holds) (Dataset.Named names) (do
      let schema ← readSchema src
      let rows ← collect src schema
      return { rows, schema }) := by
    refine upholds_bind (readSchema_named named) fun schema same => ?_
    exact upholds_bind (collected same) fun rows all => upholds_pure ⟨same, all⟩
  refine upholds_bind begun fun _ _ => ?_
  refine upholds_bind (upholds_andFinally whole (upholds_onSource named.close)) fun d named => ?_
  exact upholds_bind (upholds_note _ _ _) fun _ _ => upholds_pure named

end Pass

/-! ## Streams -/

/-- The schema under which a stream hands out rows has these names, and so has the one that its pass
knows. -/
structure Streaming.Named (names : List String) (holds : σ → Prop) (st : Streaming σ γ) : Prop where
  progress : ∀ schema place, st.progress = .running schema place → schema.names = names
  pass : st.pass.Named names
  source : holds st.source

namespace Streaming

/-- A stream that is not under way has no schema. -/
theorem Named.idle {st : Streaming σ γ} (named : st.Named names holds) {progress : Progress γ}
    (idle : ∀ schema place, progress ≠ .running schema place) :
    ({ st with progress } : Streaming σ γ).Named names holds :=
  ⟨fun schema place runs => absurd runs (idle schema place), named.pass, named.source⟩

theorem Named.move {st : Streaming σ γ} (named : st.Named names holds) {s : σ} (here : holds s) :
    ({ st with source := s } : Streaming σ γ).Named names holds :=
  ⟨named.progress, named.pass, here⟩

variable (named : src.Named names holds)

include named

theorem closeSource_named :
    Upholds (Named names holds) (fun _ => True) (onSource src.close : Action (Streaming σ γ) Unit) :=
  upholds_onPart named.close (fun _ here => here.source) fun _ _ here kept => here.move kept

theorem shut_named :
    Upholds (Named names holds) (fun _ => True) (shut src : Action (Streaming σ γ) Unit) :=
  upholds_bind (upholds_modifyState fun _ here => here.idle nofun) fun _ _ => closeSource_named named

theorem settle_named (failure? : Option Error) :
    Upholds (Named names holds) (fun _ => True)
      (settle src failure? : Action (Streaming σ γ) Unit) := by
  cases failure? with
  | some e => exact upholds_andFinally (upholds_fail e) (shut_named named)
  | none =>
    refine upholds_bind upholds_getState fun _ _ => ?_
    exact upholds_bind (upholds_note _ _ _) fun _ _ => shut_named named

/-- What a pull of the source finds is handed out. -/
theorem deliver_named {schema : Schema} (same : schema.names = names)
    {find : Action σ (Option (Row × Place γ))}
    (finds : Upholds holds (fun found? => RowNamed names (found?.map Prod.fst)) find) :
    Upholds (Named names holds) (RowNamed names) (deliver src schema find) := by
  intro st here
  have found := finds st.source here.source
  unfold deliver
  generalize find st.source = out at found
  rcases out with ⟨answer, s, log⟩
  -- Settling a stream returns no row, whether the source was exhausted or failed.
  have settled (failure? : Option Error) :
      (((settle src failure? { st with source := s }).after log).mapResult fun _ =>
        (none : Option Row)).Upholds (Named names holds) (RowNamed names) := by
    have ends := settle_named named failure? _ (here.move found.state)
    exact (ends.after log).mapResult fun _ _ => rowNamed_none names
  cases answer with
  | error e => exact settled (some e)
  | ok found? =>
    cases found? with
    | none => exact settled none
    | some both =>
      rcases both with ⟨row, place⟩
      refine ⟨⟨?_, here.pass, found.state⟩, ?_⟩
      · rintro _ _ ⟨⟩
        exact same
      · rintro _ ⟨⟩
        exact found.value _ rfl

theorem advance_named : Upholds (Named names holds) (RowNamed names) (advance src) := by
  refine upholds_bind upholds_getState fun st here => ?_
  split
  · exact upholds_pure (rowNamed_none names)
  · next schema place runs =>
    have same := here.progress schema place runs
    exact deliver_named named same fun _ there => named.rowAfter same place there
  · have asked : Upholds (Named names holds) (fun schema => schema.names = names)
        (onPass (Pass.readSchema src) : Action (Streaming σ γ) Schema) :=
      upholds_onPart (Pass.readSchema_named named) (fun _ here => ⟨here.pass, here.source⟩)
        fun _ _ here kept => ⟨here.progress, kept.1, kept.2⟩
    have given_up (e : Error) : Upholds (Named names holds) (fun schema => schema.names = names)
        (do settle src (some e); Action.fail e : Action (Streaming σ γ) Schema) :=
      upholds_bind (settle_named named (some e)) fun _ _ => upholds_fail e
    refine upholds_bind (upholds_rescue asked given_up) fun schema same => ?_
    exact deliver_named named same fun _ there => named.firstRow same there

/-- A pull hands out a row with these names, if it hands out any. -/
theorem next_named : Upholds (Named names holds) (RowNamed names) (next src) :=
  upholds_mapError _ (advance_named named)

theorem close_named :
    Upholds (Named names holds) (fun _ => True) (close src : Action (Streaming σ γ) Unit) := by
  refine upholds_bind upholds_getState fun _ _ => ?_
  split
  · exact upholds_bind (upholds_mapError _ (shut_named named)) fun _ _ => closeSource_named named
  · exact shut_named named

theorem release_named :
    Upholds (Named names holds) (fun _ => True) (release src : Action (Streaming σ γ) Unit) :=
  upholds_rescue (close_named named) fun _ => upholds_pure trivial

end Streaming

/-! ## Conversations -/

namespace Session

/-- The pass of the session, and the stream if there is one, know no other names. -/
structure Named (names : List String) (holds : σ → Prop) (s : Session σ γ) : Prop where
  pass : s.pass.Named names
  progress : ∀ c ∈ s.stream, ∀ schema place, c.progress = .running schema place →
    schema.names = names
  own : ∀ c ∈ s.stream, ∀ p ∈ c.own, p.Named names
  source : holds s.source

/-- Nothing that the answer shows is under any other names. -/
def Answer.Named (names : List String) : Answer → Prop
  | .schema schema => schema.names = names
  | .dataset d => d.Named names
  | .row row? => RowNamed names row?
  | .done => True

theorem named_fresh {s : σ} (here : holds s) :
    ({ source := s } : Session σ γ).Named names holds :=
  ⟨nofun, nofun, nofun, here⟩

theorem Named.streaming {s : Session σ γ} (named : s.Named names holds) {c : CurrentStream γ}
    (current : c ∈ s.stream) : (s.streaming c).Named names holds := by
  refine ⟨named.progress c current, ?_, named.source⟩
  cases owned : c.own with
  | none =>
    intro schema known
    exact named.pass schema (by simpa [Session.streaming, owned] using known)
  | some p =>
    intro schema known
    exact named.own c current p owned schema (by simpa [Session.streaming, owned] using known)

/-- A stream is entered with the pass that it makes. -/
theorem Named.enter {s : Session σ γ} (named : s.Named names holds) {c : CurrentStream γ}
    {st : Streaming σ γ} (moved : st.Named names holds) : (s.enter c st).Named names holds := by
  unfold Session.enter
  split
  · exact ⟨named.pass, by rintro _ ⟨⟩; exact moved.progress, by rintro _ ⟨⟩ _ ⟨⟩; exact moved.pass,
      moved.source⟩
  · exact ⟨moved.pass, by rintro _ ⟨⟩; exact moved.progress, by rintro _ ⟨⟩; exact nofun,
      moved.source⟩

theorem upholds_onStream {α : Type} {post : α → Prop} {default : α}
    {act : Action (Streaming σ γ) α} (right : post default)
    (upholds : Upholds (Streaming.Named names holds) post act) :
    Upholds (Named names holds) post (onStream default act) := by
  intro s here
  unfold onStream
  split
  · exact ⟨here, by rintro _ ⟨⟩; exact right⟩
  · next c current =>
    exact (upholds _ (here.streaming current)).mapState fun _ moved => here.enter moved

theorem upholds_onPass {α : Type} {post : α → Prop} {act : Action (Pass × σ) α}
    (upholds : Upholds (Pass.InNames names holds) post act) :
    Upholds (Named names holds) post (onPass act : Action (Session σ γ) α) :=
  upholds_onPart upholds (fun _ here => ⟨here.pass, here.source⟩)
    fun _ _ here kept => ⟨kept.1, here.progress, here.own, kept.2⟩

variable (named : src.Named names holds)

include named

theorem beginStream_named :
    Upholds (Named names holds) (fun _ => True) (beginStream src : Action (Session σ γ) Unit) := by
  refine upholds_bind upholds_getState fun s here => ?_
  have fresh : Upholds (Named names holds) (fun st => st.Named names holds)
      (ofExcept (s.pass.stream s.source) : Action (Session σ γ) (Streaming σ γ)) := by
    refine upholds_ofExcept fun st begun => ?_
    unfold Pass.stream at begun
    split at begun
    · cases begun
    · cases begun
      exact ⟨nofun, here.pass, here.source⟩
  refine upholds_bind fresh fun st begun => ?_
  refine upholds_bind (upholds_modifyState fun s here =>
    ⟨begun.pass, here.progress, here.own, here.source⟩) fun _ _ => ?_
  have released : Upholds (Named names holds) (fun _ => True) (release src) := by
    refine upholds_bind (upholds_onStream trivial (Streaming.release_named named)) fun _ _ => ?_
    exact upholds_modifyState fun s here => ⟨here.pass, nofun, nofun, here.source⟩
  refine upholds_bind released fun _ _ => upholds_modifyState fun s here => ?_
  exact ⟨here.pass, by rintro _ ⟨⟩; exact begun.progress, by rintro _ ⟨⟩; exact nofun, here.source⟩

theorem act_named (request : Request) :
    Upholds (Named names holds) (Answer.Named names) (request.act src) := by
  cases request with
  | readSchema => exact upholds_map (upholds_onPass (Pass.readSchema_named named)) fun _ => id
  | materialize => exact upholds_map (upholds_onPass (Pass.materialize_named named)) fun _ => id
  | stream => exact upholds_map (beginStream_named named) fun _ _ => trivial
  | next =>
    have pulled := upholds_onStream (rowNamed_none names) (Streaming.next_named named)
    exact upholds_map pulled fun _ => id
  | close =>
    exact upholds_map (upholds_onStream trivial (Streaming.close_named named)) fun _ _ => trivial

/-- Whatever is asked in whatever order, no answer shows anything under other names. -/
theorem converse_named (requests : List Request) {s : Session σ γ} (here : s.Named names holds) :
    ∀ turn ∈ (converse src requests s).1, ∀ answer, turn.2 = .ok answer → answer.Named names := by
  induction requests generalizing s with
  | nil => exact fun _ member => absurd member List.not_mem_nil
  | cons request rest ih =>
    have step := act_named named request s here
    exact List.forall_mem_cons.mpr ⟨step.value, ih step.state⟩

end Session
end RowReader
