import RowReader.Proofs.Reader.Settled
import RowReader.Proofs.RowFile.Stream
import RowReader.Proofs.World.Stored
import RowReader.RowFile

/-!
# Calls of a row file

Each call opens the file, uses a reader and closes it.  `Leads` says that a location leads to an
honest file, and what it takes to open it then is a matter of the bytes.  The calls are described
by their three parts, whatever these result in.
-/

namespace RowReader

open RowReader.Action

variable {ω α : Type}

/-- The location leads to a file with this content, which is honest as long as it is open. -/
structure Leads (srv : Server ω) (location : Location) (w : World ω) (content : Content)
    (stands : Nat → Handle × World ω → Prop) : Prop where
  honest : (Handle.file srv).Honest content.bytes stands
  acquired : ∃ handle w', Yields (World.acquire srv location) w (.ok (handle, content.decoding)) w' ∧
    stands 0 (handle, w')

/-- A stored file stays honest, since it keeps the content that it had when it was opened. -/
theorem leads_local (srv : Server ω) {location : Location} {w : World ω} {content : Content}
    (isLocal : location.url? = none) (stored : w.files.read location.name = .ok content) :
    Leads srv location w content
      (Handle.At content.bytes { w with openFiles := w.openFiles + 1 }) where
  honest := Handle.honest srv content.bytes _
  acquired := ⟨_, _, World.acquire_stored srv isLocal stored, rfl⟩

namespace RowFile

variable {srv : Server ω} {pf : RowFile} {w : World ω} {content : Content}
  {stands : Nat → Handle × World ω → Prop}

/-- The reader that opening a row file makes. -/
def freshReader (pf : RowFile) (content : Content) : Reader :=
  { name := pf.location.name, options := pf.options, decoding := content.decoding }

/-- Opening succeeds if the bytes begin and end with the magic.  Otherwise the file is closed and
nothing is left but the world. -/
theorem openReader_yields (leads : Leads srv pf.location w content stands) :
    ∃ p handle w', stands p (handle, w') ∧
      match magicCheck content.bytes with
      | .ok _ => Yields (pf.openReader srv) w (.ok (pf.freshReader content, handle)) w'
      | .error e => Yields (pf.openReader srv) w (.error e)
          ((Handle.file srv).close (handle, w')).state.2 := by
  rcases leads.acquired with ⟨handle, w', acquired, front⟩
  rcases Reader.openFile_honest leads.honest front pf.location.name pf.options content.decoding
    with ⟨p, ⟨handle', w''⟩, there, ends⟩
  refine ⟨p, handle', w'', there, ?_⟩
  cases judged : magicCheck content.bytes with
  | ok size =>
    rw [judged] at ends
    exact (yields_note _ _ _ w).bind (acquired.bind ends.holding)
  | error e =>
    rw [judged] at ends
    exact (yields_note _ _ _ w).bind (acquired.bind (Yields.holding (k := _) ends))

/-! ## Using a reader -/

theorem withReader_unopened {use : Action (Reader × Handle × World ω) α} {w' : World ω} {e : Error}
    (failed : Yields (pf.openReader srv) w (.error e) w') :
    Yields (pf.withReader srv use) w (.error e) w' :=
  failed.bind_error

/-- A reader is used and then closed. -/
theorem withReader_opened {use : Action (Reader × Handle × World ω) α} {reader : Reader}
    {handle : Handle} {w' : World ω} {both last : Reader × Handle × World ω} {r : Except Error α}
    {q : Except Error Unit} (opened : Yields (pf.openReader srv) w (.ok (reader, handle)) w')
    (used : Yields use (reader, handle, w') r both)
    (closed : Yields (Reader.close (Handle.file srv)) both q last) :
    Yields (pf.withReader srv use) w (lastly r q) last.2.2 := by
  have whole := used.andFinally closed
  cases ends : lastly r q with
  | error e =>
    rw [ends] at whole
    exact opened.bind (Yields.holding (Yields.holding whole)).bind_error
  | ok a =>
    rw [ends] at whole
    exact opened.bind ((Yields.holding (Yields.holding whole)).bind (yields_pure a _))

theorem read_unopened {w' : World ω} {e : Error}
    (failed : Yields (pf.openReader srv) w (.error e) w') :
    Yields (pf.read srv) w (.error e) w' :=
  failed.bind_error

/-- Reading everything is a pass over the reader. -/
theorem read_opened {reader : Reader} {handle : Handle} {w' : World ω}
    {last : Pass × Reader × Handle × World ω} {r : Except Error Dataset}
    (opened : Yields (pf.openReader srv) w (.ok (reader, handle)) w')
    (pass : Yields (Pass.materialize (Reader.source (Handle.file srv))) ({}, reader, handle, w')
      r last) :
    Yields (pf.read srv) w r last.2.2.2 := by
  cases r with
  | error e => exact opened.bind (pass.holding.holding.holding.bind_error)
  | ok dataset => exact opened.bind (pass.holding.holding.holding.bind (yields_pure dataset _))

/-- A schema that is known is given again, and no file is opened. -/
theorem readSchema_known {schema : Schema} (known : pf.schema = some schema) (w : World ω) :
    Yields (readSchema srv) (pf, w) (.ok schema) (pf, w) := by
  apply (yields_getState (pf, w)).bind
  simp only [known]
  exact yields_pure schema (pf, w)

/-- The row file after it was asked for a schema that it did not know: it is kept if it was found. -/
def learned (pf : RowFile) : Except Error Schema → RowFile
  | .ok schema => { pf with schema := some schema }
  | .error _ => pf

/-- A schema that is not known yet is read through a reader. -/
theorem readSchema_learned {r : Except Error Schema} {w' : World ω} (unknown : pf.schema = none)
    (used : Yields (pf.withReader srv (Reader.readSchema (Handle.file srv))) w r w') :
    Yields (readSchema srv) (pf, w) r (pf.learned r, w') := by
  have through : Yields (Action.onPart Prod.snd (fun w (both : RowFile × World ω) => (both.1, w))
      (pf.withReader srv (Reader.readSchema (Handle.file srv)))) (pf, w) r (pf, w') := used.onPart
  apply (yields_getState (pf, w)).bind
  simp only [unknown]
  cases r with
  | error e => exact through.bind_error
  | ok schema => exact through.bind ((yields_modifyState _ _).bind (yields_pure schema _))

end RowFile
end RowReader
