import RowReader.Proofs.Decoded.Fields
import RowReader.Proofs.Options
import RowReader.Proofs.Pass.Named
import RowReader.Proofs.RowFile.Session

/-!
# Rows under chosen names

Options that choose fields give names to all that is read with them.  A reader finds its schema under
these names or not at all, so a row file shows no schema, no dataset and no row under any others,
whatever is done with it and in whatever order, and wherever its bytes come from.
-/

namespace RowReader

open RowReader.Action

variable {ω φ : Type} {names : List String}

/-! ## Readers -/

theorem Schema.names_of_choose {schema chosen : Schema} (found : schema.choose names = .ok chosen) :
    chosen.names = names := by
  unfold choose at found
  dsimp only at found
  split at found
  · next complete =>
    cases found
    refine names_filterMap_lastNamed? fun name member => ?_
    have present := List.filter_eq_nil_iff.mp (List.isEmpty_iff.mp complete) name member
    simpa using present
  · cases found

theorem map_fst_zip_prefix (names : List String) (values : List Value) :
    (names.zip values).map Prod.fst <+: names := by
  induction names generalizing values with
  | nil => exact List.prefix_refl _
  | cons name rest ih =>
    cases values with
    | nil => exact List.nil_prefix
    | cons v values => exact List.cons_prefix_cons.mpr ⟨rfl, ih values⟩

namespace RowGroup

/-- Columns are kept under the names they were looked up by. -/
theorem names_of_columnsFor {g : RowGroup} {c : Converted} (found : g.columnsFor names = .ok c) :
    c.names = names := by
  unfold columnsFor kept? convert at found
  split at found
  · next kept =>
    cases found
    split at kept
    · split at kept
      · cases kept
        assumption
      · cases kept
    · cases kept
  · dsimp only at found
    split at found
    · split at found
      · cases found
        rfl
      · cases found
    · cases found

/-- A row has the names that it is assembled under, or the first of them. -/
theorem fields_prefix_of_assemble {g : RowGroup} {schema : Schema} {i : Int} {row : Row}
    (found : (g.assemble schema i).result = .ok row) : row.fields <+: schema.names := by
  unfold assemble at found
  split at found
  · split at found
    · cases found
    · next c looked =>
      rcases ok_of_map found with ⟨values, -, rfl⟩
      rw [← names_of_columnsFor looked]
      exact map_fst_zip_prefix c.names values
  · cases found

end RowGroup

namespace Reader

/-- The reader is to read the fields of these names, and a schema that it knows has them. -/
structure Chooses (names : List String) (r : Reader) : Prop where
  columns : r.options.columns = some names
  schema : ∀ schema ∈ r.schema, schema.names = names

/-- The reader chooses, whatever its file does. -/
abbrev Choosing (names : List String) (both : Reader × φ) : Prop := both.1.Chooses names

theorem chooses_fresh {options : Options} (name : String) (columns : options.columns = some names)
    (decoding : Decoding) : ({ name, options, decoding } : Reader).Chooses names :=
  ⟨columns, nofun⟩

theorem Chooses.names_of_fieldsOf {r : Reader} (chooses : r.Chooses names) {d : DecodedFile}
    {schema : Schema} (found : r.fieldsOf d = .ok schema) : schema.names = names := by
  rw [fieldsOf] at found
  cases described : d.allFields.mapError (schemaError r.name) with
  | error e =>
    rw [described] at found
    cases found
  | ok fields =>
    rw [described] at found
    change fields.project r.options.columns = .ok schema at found
    rw [chooses.columns] at found
    exact Schema.names_of_choose found

theorem upholds_current :
    Upholds (Choosing names) (fun r => r.Chooses names) (current : Action (Reader × φ) Reader) :=
  fun _ here => ⟨here, by rintro _ ⟨⟩; exact here⟩

theorem upholds_update {f : Reader → Reader} (kept : ∀ r, r.Chooses names → (f r).Chooses names) :
    Upholds (Choosing names) (fun _ => True) (update f : Action (Reader × φ) Unit) :=
  upholds_modifyState fun both here => kept both.1 here

theorem upholds_onFile {α : Type} (act : Action φ α) :
    Upholds (Choosing names) (fun _ => True) (onFile act : Action (Reader × φ) α) :=
  upholds_onPart (upholds_any act) (fun _ _ => trivial) fun _ _ here _ => here

theorem upholds_requireOpen :
    Upholds (Choosing names) (fun r => r.Chooses names)
      (requireOpen : Action (Reader × φ) Reader) := by
  refine upholds_bind upholds_current fun r chooses => ?_
  split
  · exact upholds_fail _
  · exact upholds_pure chooses

theorem footer_named (file : ByteFile φ) :
    Upholds (Choosing names) (fun _ => True) (footer file) := by
  refine upholds_bind upholds_requireOpen fun r _ => ?_
  split
  · exact upholds_ofExcept fun _ _ => trivial
  · refine upholds_bind (upholds_mapError _ (upholds_onFile _)) fun _ _ => ?_
    have decoded : Upholds (Choosing names) (fun _ => True)
        (ofExcept r.decoding : Action (Reader × φ) DecodedFile) :=
      upholds_ofExcept fun _ _ => trivial
    refine upholds_bind (upholds_mapError _ decoded) fun d _ => ?_
    refine upholds_bind (upholds_update fun r chooses => ⟨chooses.columns, chooses.schema⟩)
      fun _ _ => ?_
    exact upholds_bind (upholds_note _ _ _) fun _ _ => upholds_pure trivial

theorem readSchema_named (file : ByteFile φ) :
    Upholds (Choosing names) (fun schema => schema.names = names) (readSchema file) := by
  refine upholds_bind upholds_requireOpen fun r chooses => ?_
  split
  · next schema known => exact upholds_pure (chooses.schema schema known)
  · refine upholds_bind (footer_named file) fun d _ => ?_
    refine upholds_bind (upholds_ofExcept fun _ found => chooses.names_of_fieldsOf found)
      fun schema same => ?_
    have learned (r : Reader) (chooses : r.Chooses names) :
        ({ r with schema := some schema } : Reader).Chooses names :=
      ⟨chooses.columns, by rintro _ ⟨⟩; exact same⟩
    refine upholds_bind (upholds_update learned) fun _ _ => ?_
    exact upholds_bind (upholds_note _ _ _) fun _ _ => upholds_pure same

theorem nextRowGroup_named (file : ByteFile φ) :
    Upholds (Choosing names) (fun _ => True) (nextRowGroup file) := by
  have takes (index : Nat) (stored : StoredGroup) :
      Upholds (Choosing names) (fun _ => True)
        (takeGroup index stored : Action (Reader × φ) RowGroup) := by
    refine upholds_bind upholds_current fun r _ => ?_
    split
    · exact upholds_fail _
    · refine upholds_bind (upholds_update fun r chooses => ⟨chooses.columns, chooses.schema⟩)
        fun _ _ => ?_
      refine upholds_bind (upholds_ofExcept fun _ _ => trivial) fun g _ => ?_
      exact upholds_bind (upholds_note _ _ _) fun _ _ => upholds_pure trivial
  refine upholds_bind (footer_named file) fun d _ => ?_
  refine upholds_bind upholds_current fun r _ => ?_
  split
  · exact upholds_bind (upholds_note _ _ _) fun _ _ => upholds_pure trivial
  · refine upholds_bind (upholds_update fun r chooses => ⟨chooses.columns, chooses.schema⟩)
      fun _ _ => ?_
    exact upholds_bind (takes _ _) fun _ _ => upholds_pure trivial

theorem close_named (file : ByteFile φ) :
    Upholds (Choosing names) (fun _ => True) (close file) := by
  have tolerated (harmless : Fault → Bool) (warning : String) {act : Action (Reader × φ) Unit}
      (upholds : Upholds (Choosing names) (fun _ => True) act) :
      Upholds (Choosing names) (fun _ => True) (tolerate harmless warning act) := by
    refine upholds_rescue upholds fun e => ?_
    split
    · split
      · exact upholds_note _ _ _
      · exact upholds_fail _
    · exact upholds_fail _
  have decoder : Upholds (Choosing names) (fun _ => True)
      (closeDecoder : Action (Reader × φ) Unit) := by
    refine upholds_bind upholds_current fun r _ => ?_
    split
    · refine upholds_bind (upholds_update fun r chooses => ⟨chooses.columns, chooses.schema⟩)
        fun _ _ => ?_
      refine tolerated _ _ ?_
      split
      · exact upholds_fail _
      · exact upholds_pure trivial
    · exact upholds_pure trivial
  refine upholds_bind upholds_current fun r _ => ?_
  split
  · exact upholds_pure trivial
  · refine upholds_bind (upholds_update fun r chooses => ⟨chooses.columns, chooses.schema⟩)
      fun _ _ => ?_
    exact upholds_bind decoder fun _ _ => upholds_onFile _

/-- A reader that chooses fields is a source of rows under their names. -/
theorem source_named (file : ByteFile φ) : (source file).Named names (Choosing names) where
  readSchema := readSchema_named file
  nextRowGroup := nextRowGroup_named file
  assembleRow := by
    intro g schema i
    refine upholds_bind upholds_requireOpen fun r _ => ?_
    refine upholds_bind (upholds_ofExcept fun _ found => g.fields_prefix_of_assemble found)
      fun row begins => ?_
    exact upholds_pure begins
  close := close_named file

end Reader

/-! ## Row files -/

namespace RowFile

/-- The row file is to read the fields of these names, and a schema that it has kept has them. -/
structure Chooses (names : List String) (pf : RowFile) : Prop where
  columns : pf.options.columns = some names
  schema : ∀ schema ∈ pf.schema, schema.names = names

/-- Every reader that is opened is to read the fields of these names. -/
theorem openReader_named (srv : Server ω) {pf : RowFile} (columns : pf.options.columns = some names) :
    Upholds (fun _ => True) (fun both => both.1.Chooses names) (pf.openReader srv) := by
  have opened (handle : Handle) (decoding : Decoding) :
      Upholds (fun _ => True) (fun r => r.Chooses names)
        (Reader.openFile (Handle.file srv) pf.location.name pf.options decoding) := by
    refine upholds_bind (upholds_any _) fun size _ => ?_
    have fresh := Reader.chooses_fresh pf.location.name columns decoding
    exact upholds_bind (upholds_note _ _ _) fun _ _ => upholds_pure fresh
  refine upholds_bind (upholds_note _ _ _) fun _ _ => ?_
  refine upholds_bind (upholds_any _) fun both _ => ?_
  exact upholds_holding (opened both.1 both.2) (fun _ _ => trivial) fun _ _ => trivial

/-- A reader that was opened may be used in any way that keeps what it chooses. -/
theorem upholds_held {α : Type} {post : α → Prop} {reader : Reader} (fresh : reader.Chooses names)
    (handle : Handle) {act : Action (Reader × Handle × World ω) α}
    (upholds : Upholds (Reader.Choosing names) post act) :
    Upholds (fun _ => True) (fun held => post held.1.1)
      (Action.holding handle (Action.holding reader act)) := by
  have held : Upholds (fun _ => True) (fun both => post both.1) (Action.holding reader act) :=
    upholds_holding upholds (fun _ _ => fresh) fun _ _ => trivial
  exact upholds_holding held (fun _ _ => trivial) fun _ _ => trivial

theorem withReader_named (srv : Server ω) {pf : RowFile} (columns : pf.options.columns = some names)
    {α : Type} {post : α → Prop} {use : Action (Reader × Handle × World ω) α}
    (upholds : Upholds (Reader.Choosing names) post use) :
    Upholds (fun _ => True) post (pf.withReader srv use) := by
  refine upholds_bind (openReader_named srv columns) fun both fresh => ?_
  have closing : Upholds (Reader.Choosing names) post
      (use.andFinally (Reader.close (Handle.file srv))) :=
    upholds_andFinally upholds (Reader.close_named _)
  exact upholds_bind (upholds_held fresh both.2 closing) fun _ right => upholds_pure right

theorem readSchema_named (srv : Server ω) :
    Upholds (fun both => both.1.Chooses names) (fun schema => schema.names = names)
      (readSchema srv) := by
  refine upholds_bind upholds_getState fun both chooses => ?_
  rcases both with ⟨pf, w⟩
  dsimp only
  split
  · next schema kept => exact upholds_pure (chooses.schema schema kept)
  · have asked := withReader_named srv chooses.columns (Reader.readSchema_named (Handle.file srv))
    refine upholds_bind (upholds_onPart asked (fun _ _ => trivial) fun _ _ here _ => here)
      fun schema same => ?_
    refine upholds_bind (upholds_modifyState fun both chooses => ?_) fun _ _ => upholds_pure same
    exact ⟨chooses.columns, by rintro _ ⟨⟩; exact same⟩

theorem read_named (srv : Server ω) {pf : RowFile} (columns : pf.options.columns = some names) :
    Upholds (fun _ => True) (Dataset.Named names) (pf.read srv) := by
  refine upholds_bind (openReader_named srv columns) fun both fresh => ?_
  have pass : Upholds (Reader.Choosing names) (fun made => made.1.Named names)
      (Action.holding {} (Pass.materialize (RowStream.source srv))) :=
    upholds_holding (Pass.materialize_named (Reader.source_named (Handle.file srv)))
      (fun _ here => ⟨nofun, here⟩) fun _ here => here.2
  exact upholds_bind (upholds_held fresh both.2 pass) fun _ named => upholds_pure named

end RowFile

/-- An answer under these names, as far as it has any. -/
def Question.Named (names : List String) : (q : Question) → q.Answer → Prop
  | .schema => fun schema : Schema => schema.names = names
  | .dataset => Dataset.Named names
  | .numRows => fun _ => True
  | .numRowGroups => fun _ => True

theorem RowFile.ask_named (srv : Server ω) (q : Question) :
    Upholds (fun both => both.1.Chooses names) (q.Named names) (ask srv q) := by
  have alone {α : Type} {post : α → Prop} {act : RowFile → Action (World ω) α}
      (upholds : ∀ pf : RowFile, pf.options.columns = some names →
        Upholds (fun _ => True) post (act pf)) :
      Upholds (fun both : RowFile × World ω => both.1.Chooses names) post (unchanged act) := by
    intro both chooses
    have asked := upholds both.1 chooses.columns both.2 trivial
    exact asked.mapState fun _ _ => chooses
  cases q with
  | schema => exact readSchema_named srv
  | dataset => exact alone fun _ columns => read_named srv columns
  | numRows => exact alone fun _ _ => upholds_any _
  | numRowGroups => exact alone fun _ _ => upholds_any _

/-! ## Streams of a row file -/

/-- A stream that is open hands out rows under these names. -/
structure OpenStream.Named (names : List String) (s : OpenStream) : Prop where
  progress : ∀ schema place, s.progress = .running schema place → schema.names = names
  pass : s.pass.Named names
  reader : s.reader.Chooses names

namespace RowStream

/-- The stream hands out rows under these names, if it still hands out any. -/
def Named (names : List String) (stream : RowStream) : Prop :=
  ∀ s, stream = .running s → s.Named names

theorem named_ended : Named names .ended := by
  rintro s ⟨⟩

theorem pull_named (srv : Server ω) {s : OpenStream} (named : s.Named names) (w : World ω) :
    (pull srv s w).Upholds (fun both => both.1.Named names) (RowNamed names) := by
  have source : (source srv).Named names (Reader.Choosing names) := Reader.source_named _
  have pulled := Streaming.next_named source (s.streaming w)
    ⟨named.progress, named.pass, named.reader⟩
  -- A stream that has ended shows no row any more, whether closing it succeeds or fails.
  have finished {act : Action (Inner ω) (Option Row)} (st : Inner ω) (log : List LogLine)
      (here : st.Named names (Reader.Choosing names))
      (upholds : Upholds (Streaming.Named names (Reader.Choosing names)) (RowNamed names) act) :
      (finish ((thenClose srv act st).after log)).Upholds (fun both => both.1.Named names)
        (RowNamed names) := by
    have closed := upholds_andFinally upholds (Streaming.close_named source) st here
    exact (closed.after log).mapState fun _ _ => named_ended
  unfold pull
  generalize Streaming.next (RowStream.source srv) (s.streaming w) = out at pulled
  rcases out with ⟨answer, st, log⟩
  cases answer with
  | error e => exact finished st log pulled.state (upholds_fail e)
  | ok row? =>
    cases row? with
    | none => exact finished st log pulled.state (upholds_pure nofun)
    | some row =>
      refine ⟨?_, pulled.value⟩
      rintro _ ⟨⟩
      exact ⟨pulled.state.progress, pulled.state.pass, pulled.state.source⟩

theorem advance_named (srv : Server ω) {pf : RowFile} (columns : pf.options.columns = some names) :
    Upholds (fun both => both.1.Named names) (RowNamed names) (advance srv pf) := by
  rintro ⟨stream, w⟩ named
  cases stream with
  | ended => exact ⟨named_ended, by rintro _ ⟨⟩; exact nofun⟩
  | running s => exact pull_named srv (named s rfl) w
  | unopened =>
    have opened := RowFile.openReader_named srv columns w trivial
    unfold advance
    dsimp only
    generalize pf.openReader srv w = out at opened
    rcases out with ⟨answer, w', log⟩
    cases answer with
    | error e => exact ⟨named_ended, nofun⟩
    | ok both =>
      have fresh : (OpenStream.begin both.1 both.2).Named names :=
        ⟨nofun, nofun, opened.value both rfl⟩
      exact (pull_named srv fresh w').after log

theorem next_named (srv : Server ω) {pf : RowFile} (columns : pf.options.columns = some names) :
    Upholds (fun both => both.1.Named names) (RowNamed names) (next srv pf) :=
  upholds_mapError _ (advance_named srv columns)

theorem close_named (srv : Server ω) :
    Upholds (fun both => both.1.Named names) (fun _ => True)
      (close srv : Action (RowStream × World ω) Unit) := by
  rintro ⟨stream, w⟩ -
  cases stream with
  | ended => exact ⟨named_ended, fun _ _ => trivial⟩
  | unopened => exact ⟨named_ended, fun _ _ => trivial⟩
  | running s => exact ⟨named_ended, fun _ _ => trivial⟩

end RowStream

/-! ## Sessions -/

/-- Nothing that the event shows is under any other names. -/
def SessionEvent.Named (names : List String) : SessionEvent → Prop
  | .begun _ => True
  | .streamed _ _ answer => ∀ row?, answer = .ok row? → RowNamed names row?
  | .asked q answer => ∀ a, answer = .ok a → q.Named names a

namespace FileSession

/-- The file chooses fields by these names, and every stream hands out rows under them. -/
structure Named (names : List String) (s : FileSession ω) : Prop where
  file : s.file.Chooses names
  streams : ∀ entry ∈ s.streams, entry.2.Named names

theorem Named.put {s : FileSession ω} (named : s.Named names) (name : String) {stream : RowStream}
    (fresh : stream.Named names) : (s.put name stream).Named names := by
  refine ⟨named.file, fun entry member => ?_⟩
  rcases mem_put.mp member with ⟨old, -⟩ | rfl
  · exact named.streams entry old
  · exact fresh

theorem upholds_onStream {α : Type} {post : α → Prop} {name : String} {default : α}
    {act : Action (RowStream × World ω) α} (right : post default)
    (upholds : Upholds (fun both => both.1.Named names) post act) :
    Upholds (Named names) post (onStream name default act) := by
  intro s named
  unfold onStream
  cases found : s.stream? name with
  | none => exact ⟨named, by rintro _ ⟨⟩; exact right⟩
  | some stream =>
    have acted := upholds (stream, s.world) (named.streams _ (mem_of_stream? found))
    exact acted.mapState fun both there =>
      ⟨(named.put name there).file, (named.put name there).streams⟩

theorem next_named (srv : Server ω) (name : String) :
    Upholds (Named names) (RowNamed names) (next srv name) :=
  fun s named => upholds_onStream nofun (RowStream.next_named srv named.file.columns) s named

theorem close_named (srv : Server ω) (name : String) :
    Upholds (Named names) (fun _ => True) (close srv name) :=
  upholds_onStream trivial (RowStream.close_named srv)

theorem begin_named (srv : Server ω) (name : String) :
    Upholds (Named names) (fun _ => True) (beginStream srv name) := by
  have released : Upholds (Named names) (fun _ => True) (release srv name) :=
    upholds_onStream trivial
      (upholds_rescue (RowStream.close_named srv) fun _ => upholds_pure trivial)
  refine upholds_bind released fun _ _ => upholds_modifyState fun s named => named.put name ?_
  rintro _ ⟨⟩

theorem named_fresh {options : Options} (location : Location) (columns : options.columns = some names)
    (w : World ω) : ({ file := { location, options }, world := w } : FileSession ω).Named names :=
  ⟨⟨columns, nofun⟩, fun _ member => absurd member List.not_mem_nil⟩

/-- One call shows nothing under other names, and leaves the session so. -/
theorem perform_named (srv : Server ω) {s : FileSession ω} (named : s.Named names) (c : SessionCall) :
    (perform srv s c).1.Named names ∧ (perform srv s c).2.Named names := by
  cases c with
  | begin name => exact ⟨trivial, (begin_named srv name s named).state⟩
  | stream name c =>
    cases c with
    | next =>
      have pulled := next_named srv name s named
      exact ⟨pulled.value, pulled.state⟩
    | close =>
      refine ⟨fun row? shown => ?_, (close_named srv name s named).state⟩
      rcases ok_of_map shown with ⟨_, -, rfl⟩
      exact nofun
  | ask q =>
    have asked : Upholds (Named names) (q.Named names) (onFile (RowFile.ask srv q)) :=
      upholds_onPart (RowFile.ask_named srv q) (fun _ named => named.file)
        fun _ _ named kept => ⟨kept, named.streams⟩
    exact ⟨(asked s named).value, (asked s named).state⟩

/-- So no run of calls shows anything under other names. -/
theorem play_named (srv : Server ω) {s : FileSession ω} (named : s.Named names)
    (calls : List SessionCall) : ∀ event ∈ (play srv calls s).1, event.Named names := by
  induction calls generalizing s with
  | nil => exact fun _ member => absurd member List.not_mem_nil
  | cons c rest ih =>
    have step := perform_named srv named c
    exact List.forall_mem_cons.mpr ⟨step.1, ih step.2⟩

/-- Where everything else in the settings can be read, a list of columns is accepted exactly if it
names a field and repeats none, and is kept as it is.  If names are repeated, these are what the
problem tells: each of them once, in the order of their code points, and no others.  With columns that
are accepted, nothing is shown under other names than theirs, which are distinct: no schema, no
dataset, no row of either a dataset or a stream, over any server and any files, whatever is done with a
row file and its streams in whatever order.  The same holds of any reader with these options, and of
any pass over it. -/
theorem chosen_names_throughout {settings : Setting.Settings} {names : List String} {threads : Bool}
    {limit : Option Int}
    (given : Setting.find? settings "columns" = some (.list (names.map .text)))
    (switched : Setting.readOr settings "use_threads" true Setting.readBoolean = .ok threads)
    (limited : Setting.readOr settings "max_row_group_bytes" none Options.readLimit = .ok limit) :
    ((∃ options, Options.ofSettings settings = .ok options) ↔ names ≠ [] ∧ names.Nodup) ∧
    (¬ names.Nodup → Options.ofSettings settings = .error [⟨[], .rule
      ("columns contains duplicates: " ++ Text.nameList (Options.duplicates names))⟩]) ∧
    (∀ name, name ∈ Options.duplicates names ↔ 2 ≤ names.count name) ∧
    (Options.duplicates names).Pairwise (· < ·) ∧
    ∀ options, Options.ofSettings settings = .ok options →
      options.columns = some names ∧ names.Nodup ∧
      (∀ {ω : Type} (srv : Server ω) (location : Location) (w : World ω) (calls : List SessionCall),
        ∀ event ∈ (play srv calls { file := { location, options }, world := w }).1,
          event.Named names) ∧
      ∀ {φ : Type} (file : ByteFile φ) (name : String) (decoding : Decoding) (s : φ)
        (requests : List Session.Request),
        ∀ turn ∈ (Session.converse (Reader.source file) requests
            { source := ({ name, options, decoding }, s) }).1,
          ∀ answer, turn.2 = .ok answer → answer.Named names := by
  have repeated (twice : ¬ names.Nodup) : Options.columnsProblem? names = some (.rule
      ("columns contains duplicates: " ++ Text.nameList (Options.duplicates names))) := by
    have nonempty : names ≠ [] := by
      rintro rfl
      exact twice List.nodup_nil
    rw [Options.columnsProblem?, if_neg nonempty, if_neg twice]
  have sound_of_accepted {options : Options} (accepted : Options.ofSettings settings = .ok options) :
      names ≠ [] ∧ names.Nodup := by
    rw [← Options.columnsProblem?_eq_none_iff]
    cases found : Options.columnsProblem? names with
    | none => rfl
    | some problem =>
      have refused := Options.ofSettings_refused given switched limited found
      cases refused.symm.trans accepted
  have nonrepeating (accepted : ∃ options, Options.ofSettings settings = .ok options) :
      names ≠ [] ∧ names.Nodup := accepted.elim fun _ => sound_of_accepted
  refine ⟨⟨nonrepeating, fun sound => ?_⟩,
    fun twice => Options.ofSettings_refused given switched limited (repeated twice),
    fun _ => Options.mem_duplicates, Options.duplicates_increasing names, ?_⟩
  · rcases Options.ofSettings_accepted given switched limited sound with ⟨options, accepted, -⟩
    exact ⟨options, accepted⟩
  · intro options accepted
    have sound := sound_of_accepted accepted
    rcases Options.ofSettings_accepted given switched limited sound with ⟨same, also, columns, -⟩
    cases accepted.symm.trans also
    refine ⟨columns, sound.2, fun srv location w calls => ?_, ?_⟩
    · exact play_named srv (named_fresh location columns w) calls
    · intro φ file name decoding s requests
      have fresh := Reader.chooses_fresh name columns decoding
      exact Session.converse_named (Reader.source_named file) requests (Session.named_fresh fresh)

/-- Settings that choose both fields of the letters. -/
def lettersSettings : Setting.Settings := [("columns", .list (["letter", "id"].map .text))]

/-- The letters are read under the names of the settings, in their order.  Of five names the two that
are repeated are told, and the one that comes later in the list comes first. -/
theorem chosen_names_throughout_of_letters :
    Options.ofSettings lettersSettings = .ok RowFile.lettersFirst.options ∧
    (∃ ds : Dataset, (play Server.unreachable [.ask .dataset]
        { file := RowFile.lettersFirst, world := RowFile.lettersWorld }).1[0]? =
          some (.asked .dataset (.ok ds)) ∧
      ds.rows.length = 3 ∧ ds.Named ["letter", "id"]) ∧
    Options.ofSettings [("columns", .list (["b", "a", "b", "c", "a"].map .text))] =
      .error [⟨[], .rule ("columns contains duplicates: " ++ Text.nameList ["a", "b"])⟩] := by
  have accepted : Options.ofSettings lettersSettings = .ok RowFile.lettersFirst.options := by rfl
  refine ⟨accepted, ?_, ?_⟩
  · rcases RowFile.read_of_readable Server.unreachable RowFile.located_lettersFirst
      RowFile.readable_lettersFirst with ⟨ds, read, -, rows⟩
    have asked : (play Server.unreachable [.ask .dataset]
        { file := RowFile.lettersFirst, world := RowFile.lettersWorld }).1[0]? =
          some (.asked .dataset (.ok ds)) :=
      congrArg (fun answer => some (SessionEvent.asked .dataset answer)) read
    have all := chosen_names_throughout (by rfl : Setting.find? lettersSettings "columns" = _)
      (by rfl : _ = Except.ok true) (by rfl : _ = Except.ok none)
    have shown := (all.2.2.2.2 _ accepted).2.2.1 Server.unreachable RowFile.lettersFirst.location
      RowFile.lettersWorld [.ask .dataset] _ (List.mem_of_getElem? asked)
    refine ⟨ds, asked, ?_, shown ds rfl⟩
    have count := congrArg List.length rows
    rw [List.length_map] at count
    exact count
  · have all := chosen_names_throughout
      (by rfl : Setting.find? [("columns", .list (["b", "a", "b", "c", "a"].map .text))] "columns" = _)
      (by rfl : _ = Except.ok true) (by rfl : _ = Except.ok none)
    have told : Options.duplicates ["b", "a", "b", "c", "a"] = ["a", "b"] := by
      simp [Options.duplicates, List.mergeSort, List.eraseDups_cons]
    rw [all.2.1 (by decide), told]

end FileSession
end RowReader
