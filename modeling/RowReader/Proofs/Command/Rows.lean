import Mathlib
import RowReader.Command
import RowReader.Proofs.Command.Invocation
import RowReader.Proofs.Report
import RowReader.Proofs.RowFile.Gather
import RowReader.Proofs.RowFile.Rows

/-!
# Printing rows

What the command for rows answers over a stored file.  Once the schema is known, the answer is a
matter of the rows that are pulled and of the way they end: rows in JSON are printed as they come, so
an error leaves those before it, and a table is printed after the last row or not at all.  The
command pulls no row beyond its limit, so nothing that lies behind can change the answer.
-/

namespace RowReader
namespace Command

open RowReader.Action

variable {ω : Type}

/-! ## What is shown -/

/-- The answer of a command that one of the reader's own errors stopped. -/
def Answer.stopped (printed : String) (e : Error) : Answer :=
  { exitCode := 1, printed, reported := Text.withoutSequences ("Error: " ++ e.message ++ "\n") }

/-- The row can be shown in this format: the integers that are written are short enough. -/
def Writable : RowFormat → Row → Prop
  | .json, row => row.Writable
  | .table, row => row.Short

/-- The text that stands for rows after which the printing ended, well or not.  It is freed of control
sequences for a terminal, of which JSON has none. -/
inductive Shows (schema : Schema) (rows : List Row) : (well : Bool) → RowFormat → String → Prop
  | lines {well : Bool} (lines : List String) (each : rows.map Report.jsonLine = lines.map .ok)
      (single : ∀ line ∈ lines, '\n' ∉ line.toList) :
      Shows schema rows well .json (String.join (lines.map fun line => line ++ "\n"))
  | table (text : String) (whole : Report.table schema rows = .ok text) :
      Shows schema rows true .table (Text.withoutSequences (text ++ "\n"))
  | nothing : Shows schema rows false .table ""

theorem Shows.unique {schema : Schema} {rows : List Row} {well : Bool} {format : RowFormat}
    {text other : String} (shows : Shows schema rows well format text)
    (also : Shows schema rows well format other) : other = text := by
  cases shows with
  | lines lines each single =>
    cases also with
    | lines lines' each' single' =>
      have same : (lines'.map .ok : List (Except DatasetError String)) = lines.map .ok :=
        each'.symm.trans each
      rw [List.map_inj_right (fun _ _ => Except.ok.inj)] at same
      rw [same]
  | table text whole =>
    cases also with
    | table text' whole' =>
      cases whole.symm.trans whole'
      rfl
  | nothing =>
    cases also with
    | nothing => rfl

/-- The crash over an integer that is too long to be written. -/
def overlongCrash : RowFormat → Crash
  | .json => .unwritable (.json (.overlong {}))
  | .table => .untabled (.overlong {})

/-- The answer over rows that ended like this, out of those that there are.  If one of them cannot be
shown, it is as if the rows ended before the first such, but for the crash. -/
inductive Answers (schema : Schema) (format : RowFormat) (ending : Ending) (rows : List Row) :
    Answer → Prop
  | stopped (e : Error) (text : String) (failed : ending = .failed e) (own : e.kind?.isSome)
      (writable : ∀ row ∈ rows, Writable format row) (shows : Shows schema rows false format text) :
      Answers schema format ending rows (.stopped text e)
  | done (text : String) (ended : ∀ e, ending ≠ .failed e)
      (writable : ∀ row ∈ rows, Writable format row) (shows : Shows schema rows true format text) :
      Answers schema format ending rows { exitCode := 0, printed := text }
  | crashed (front : List Row) (row : Row) (back : List Row) (text : String)
      (split : rows = front ++ row :: back) (writable : ∀ row ∈ front, Writable format row)
      (overlong : ¬ Writable format row) (shows : Shows schema front false format text) :
      Answers schema format ending rows
        { exitCode := 1, printed := text, crash := some (overlongCrash format) }

theorem Answers.unique {schema : Schema} {format : RowFormat} {ending : Ending} {rows : List Row}
    {answer other : Answer} (answers : Answers schema format ending rows answer)
    (also : Answers schema format ending rows other) : other = answer := by
  have unwritable {front back : List Row} {row : Row} (all : ∀ row ∈ rows, Writable format row)
      (split : rows = front ++ row :: back) : Writable format row :=
    all row (split ▸ List.mem_append_right front List.mem_cons_self)
  cases answers with
  | stopped e text failed own writable shows =>
    cases also with
    | stopped e' text' failed' own' writable' shows' =>
      cases failed.symm.trans failed'
      rw [shows.unique shows']
    | done text' ended => exact absurd failed (ended e)
    | crashed front row back text' split _ overlong => exact absurd (unwritable writable split) overlong
  | done text ended writable shows =>
    cases also with
    | stopped e' text' failed => exact absurd failed (ended e')
    | done text' ended' writable' shows' => rw [shows.unique shows']
    | crashed front row back text' split _ overlong => exact absurd (unwritable writable split) overlong
  | crashed front row back text split writable overlong shows =>
    cases also with
    | stopped e' text' _ _ all => exact absurd (unwritable all split) overlong
    | done text' _ all => exact absurd (unwritable all split) overlong
    | crashed front' row' back' text' split' writable' overlong' shows' =>
      rcases unique_first_failure (split.symm.trans split') writable overlong writable' overlong'
        with ⟨rfl, rfl, -⟩
      rw [shows.unique shows']

/-! ## What is printed -/

theorem shownLog_zero (log : List LogLine) : shownLog 0 log = "" := by
  have none_shown : log.filter (LogLine.shownAt 0) = [] := by
    rw [List.filter_eq_nil_iff]
    intro line _
    unfold LogLine.shownAt
    split <;> decide
  rw [shownLog, none_shown]
  rfl

/-- How a task ends with rows that end like this. -/
def endingOf : Ending → Except Crash Unit
  | .failed e => .error (.error e)
  | _ => .ok ()

theorem outcomeOf_of {ε : Type} (crash : ε → Crash) (ending : Ending) :
    outcomeOf crash (.of ending) = endingOf ending := by
  cases ending <;> rfl

/-- Rows that can be written have a line each. -/
theorem exists_lines {rows : List Row} (writable : ∀ row ∈ rows, row.Writable) :
    ∃ lines : List String, rows.map Report.jsonLine = lines.map .ok ∧
      ∀ line ∈ lines, PrintableAscii line.toList := by
  rcases exists_forall₂ fun row member => Report.jsonLine_of_writable (writable row member)
    with ⟨lines, each⟩
  refine ⟨lines, ?_, forall_mem_of_related each.flip fun _ _ found => found.2⟩
  exact map_eq_map_ok_iff.mpr (mapM_eq_ok_iff.mpr (each.imp fun _ _ => And.left))

/-- Rows whose integers are short have their cells. -/
theorem exists_cells {rows : List Row} (short : ∀ row ∈ rows, row.Short) :
    ∃ made, rows.mapM Report.cells = .ok made ∧ rows.map Report.cells = made.map .ok := by
  rcases Report.exists_mapM_cells_iff.mpr short with ⟨made, each⟩
  exact ⟨made, each, map_eq_map_ok_iff.mpr each⟩

theorem withoutSequences_empty : Text.withoutSequences "" = "" :=
  Text.withoutSequences_of_not_mem (by decide)

/-- Printable lines have no control sequence. -/
theorem withoutSequences_lines {lines : List String}
    (printable : ∀ line ∈ lines, PrintableAscii line.toList) :
    Text.withoutSequences (String.join (lines.map fun line => line ++ "\n")) =
      String.join (lines.map fun line => line ++ "\n") := by
  apply Text.withoutSequences_of_not_mem
  induction lines with
  | nil => decide
  | cons line rest ih =>
    rcases List.forall_mem_cons.mp printable with ⟨here, there⟩
    rw [List.map_cons, String.join_cons, String.toList_append, String.toList_append]
    simp only [List.mem_append, not_or]
    exact ⟨⟨here.not_mem (by decide), by decide⟩, ih there⟩

/-- What printing comes to: the text for these rows, freed of control sequences, how the printing ended,
and the state that it left. -/
structure Prints {σ : Type} (schema : Schema) (format : RowFormat) (rows : List Row)
    (ending : Except Crash Unit) (state : σ) (p : Product σ) : Prop where
  shows : Shows schema rows ending.isOk format (Text.withoutSequences p.printed)
  ending : p.ending = ending
  state : p.state = state

section

variable {srv : Server ω} {pf : RowFile} {limit : Option Nat} {count : Nat} {w : World ω}

theorem printJson_prints {schema : Schema} {rows : List Row} {ending : GatherEnd DatasetError}
    {both : RowStream × World ω} {lines : List String}
    (each : rows.map Report.jsonLine = lines.map .ok)
    (printable : ∀ line ∈ lines, PrintableAscii line.toList)
    (gathers : RowStream.Gathers srv pf Report.jsonLine limit (.unopened, w) lines ending both) :
    Prints schema .json rows (outcomeOf .unwritable ending) both (printJson srv pf limit w) := by
  refine ⟨?_, congrArg (outcomeOf .unwritable) gathers.ending, gathers.state⟩
  simp only [printJson, gathers.items]
  rw [withoutSequences_lines printable]
  exact .lines lines each fun line member => (printable line member).not_mem (by decide)

/-- A table that is not made leaves nothing printed. -/
theorem printTable_error {schema : Schema} {rows : List Row} {made : List (List (List Char))}
    {ending : GatherEnd Number.Overlong} {crash : Crash} {both : RowStream × World ω}
    (gathers : RowStream.Gathers srv pf Report.cells limit (.unopened, w) made ending both)
    (ended : outcomeOf (fun e => .untabled (.overlong e)) ending = .error crash) :
    Prints schema .table rows (.error crash) both (printTable srv pf schema limit w) := by
  unfold printTable
  simp only [gathers.ending, ended]
  refine ⟨?_, rfl, gathers.state⟩
  change Shows schema rows false .table (Text.withoutSequences "")
  rw [withoutSequences_empty]
  exact .nothing

theorem printTable_ok {schema : Schema} {rows : List Row} {made : List (List (List Char))}
    {text : String} {ending : GatherEnd Number.Overlong} {both : RowStream × World ω}
    (each : rows.mapM Report.cells = .ok made) (whole : Report.tableOf? schema made = some text)
    (gathers : RowStream.Gathers srv pf Report.cells limit (.unopened, w) made ending both)
    (ended : outcomeOf (fun e => .untabled (.overlong e)) ending = .ok ()) :
    Prints schema .table rows (.ok ()) both (printTable srv pf schema limit w) := by
  unfold printTable
  simp only [gathers.ending, ended, gathers.items, whole]
  exact ⟨.table text (Report.table_of_made each whole), rfl, gathers.state⟩

/-- Rows that can all be shown are printed, and the printing ends as they do. -/
theorem printAs_prints {schema : Schema} (format : RowFormat)
    (stops : RowStream.Stops limit count (takeRows (RowStream.next srv pf) count (.unopened, w)))
    (fit : ∀ row ∈ (takeRows (RowStream.next srv pf) count (.unopened, w)).rows,
      row.size ≤ schema.length)
    (writable : ∀ row ∈ (takeRows (RowStream.next srv pf) count (.unopened, w)).rows,
      Writable format row) :
    let taken := takeRows (RowStream.next srv pf) count (.unopened, w)
    Prints schema format taken.rows (endingOf taken.ending) taken.state
      (printAs srv pf schema limit format w) := by
  intro taken
  cases format with
  | json =>
    rcases exists_lines writable with ⟨lines, each, printable⟩
    rw [← outcomeOf_of .unwritable]
    exact printJson_prints each printable (RowStream.gathers_taken stops each)
  | table =>
    rcases exists_cells writable with ⟨made, each, cells⟩
    have gathers := RowStream.gathers_taken stops cells
    have within : ∀ texts ∈ made, texts.length ≤ schema.length :=
      Report.length_of_mapM_cells (P := (· ≤ schema.length)) each fit
    rcases Report.exists_widths within with ⟨widths, folded, -⟩
    cases last : endingOf taken.ending with
    | error crash => exact printTable_error gathers ((outcomeOf_of _ _).trans last)
    | ok _ =>
      exact printTable_ok each (Report.tableOf?_of_widths folded) gathers
        ((outcomeOf_of _ _).trans last)

/-- The first row that cannot be shown ends the printing.  No row is pulled after it. -/
theorem printAs_until {schema : Schema} (format : RowFormat) {front back : List Row} {row : Row}
    (stops : RowStream.Stops limit count (takeRows (RowStream.next srv pf) count (.unopened, w)))
    (split : (takeRows (RowStream.next srv pf) count (.unopened, w)).rows = front ++ row :: back)
    (reduce : ∀ v ∈ row.values, v.Reduces) (writable : ∀ row ∈ front, Writable format row)
    (overlong : ¬ Writable format row) :
    Prints schema format front (.error (overlongCrash format))
      (takeRows (RowStream.next srv pf) (front.length + 1) (.unopened, w)).state
      (printAs srv pf schema limit format w) := by
  cases format with
  | json =>
    rcases exists_lines writable with ⟨lines, each, printable⟩
    rcases Row.toPlain_of_reduces reduce with ⟨p, plain⟩
    have overlong := Report.jsonLine_overlong plain overlong
    exact printJson_prints each printable (RowStream.gathers_until stops split each overlong)
  | table =>
    rcases exists_cells writable with ⟨made, each, cells⟩
    have overlong := Report.cells_overlong overlong
    exact printTable_error (RowStream.gathers_until stops split cells overlong) rfl

/-- Closing the stream in the end changes nothing about what was printed. -/
theorem Prints.closeAfter {schema : Schema} {format : RowFormat} {rows : List Row}
    {ending : Except Crash Unit} {both : RowStream × World ω} {p : Product (RowStream × World ω)}
    (prints : Prints schema format rows ending both p)
    (closes : Yields (RowStream.close srv) both (.ok ()) (.ended, w)) :
    Prints schema format rows ending w (Command.closeAfter srv p) := by
  rw [← prints.state] at closes
  rcases closes.outcome with ⟨log, answer⟩
  simp only [Command.closeAfter, answer]
  exact ⟨prints.shows, prints.ending, rfl⟩

/-- A schema that cannot be read stops the command before the first row. -/
theorem printRows_unread {format : RowFormat} {pf' : RowFile} {e : Error}
    (failed : Yields (RowFile.readSchema srv) (pf, w) (.error e) (pf', w)) :
    let p := printRows srv pf limit format w
    p.printed = "" ∧ p.ending = .error (.error e) ∧ p.state = w := by
  rcases failed.outcome with ⟨log, answer⟩
  simp only [printRows, answer, and_self]

/-- The rows are printed under the schema that was read, and the file is closed again. -/
theorem printRows_read (format : RowFormat) {pf' : RowFile} {schema : Schema}
    (read : Yields (RowFile.readSchema srv) (pf, w) (.ok schema) (pf', w))
    (few : limit.getD 0 ≤ limitBound) {rows : List Row} {ending : Except Crash Unit}
    {both : RowStream × World ω}
    (prints : Prints schema format rows ending both (printAs srv pf schema limit format w))
    (closes : Yields (RowStream.close srv) both (.ok ()) (.ended, w)) :
    Prints schema format rows ending w (printRows srv pf limit format w) := by
  rcases read.outcome with ⟨log, answer⟩
  rcases prints.closeAfter closes with ⟨shows, ended, state⟩
  simp only [printRows, answer, if_neg (Nat.not_lt.mpr few)]
  exact ⟨shows, ended, state⟩

end

/-! ## The command -/

theorem endingAnswer_failed (printed : String) {e : Error} (own : e.kind?.isSome) :
    endingAnswer printed "" (.error (.error e)) = .stopped printed e := by
  simp only [endingAnswer, if_pos own, Answer.stopped, String.empty_append]

theorem answers_of_shows {schema : Schema} {rows : List Row} {ending : Ending}
    {format : RowFormat} {text : String} (writable : ∀ row ∈ rows, Writable format row)
    (shows : Shows schema rows (endingOf ending).isOk format text)
    (own : ∀ e, ending = .failed e → e.kind?.isSome) :
    Answers schema format ending rows (endingAnswer text "" (endingOf ending)) := by
  cases ending with
  | failed e =>
    rw [endingOf, endingAnswer_failed text (own e rfl)]
    exact .stopped e text rfl (own e rfl) writable shows
  | more => exact .done text (fun e => Ending.noConfusion) writable shows
  | exhausted => exact .done text (fun e => Ending.noConfusion) writable shows

theorem endingAnswer_overlong (printed : String) (format : RowFormat) :
    endingAnswer printed "" (.error (overlongCrash format)) =
      { exitCode := 1, printed, crash := some (overlongCrash format) } := by
  cases format <;> rfl

/-- A file that is read with these options, as the command line names it. -/
def fileAt (file : String) (options : Options) : RowFile :=
  { location := .ofPath file, options }

theorem read_fileAt {w : World ω} {file : String} {content : Content}
    (stored : w.files.look file = .ok (.file content)) (options : Options) :
    w.files.read (fileAt file options).location.name = .ok content :=
  FileSystem.read_writtenPath stored

section

variable (srv : Server ω) {w : World ω} {file : String} {content : Content}
  {columns : List String} {options : Options} {limit : Option Nat} (format : Option RowFormat)
  (stored : w.files.look file = .ok (.file content))
  (accepted : optionsOf columns = .ok options) (short : ∀ n, limit = some n → n < 2 ^ 63)

include stored accepted short

/-- The command line prints the rows of the file. -/
theorem run_rowsLine :
    let p := printRows srv (fileAt file options) limit (format.getD .table) w
    run srv (rowsLine file columns limit format) w =
      (endingAnswer (Text.withoutSequences p.printed) "" p.ending, p.state) := by
  intro p
  have readable : ∀ n, limit = some n → n < 10 ^ Number.digitLimit := by
    intro n given
    have most : 10 ^ 19 ≤ 10 ^ Number.digitLimit := Nat.pow_le_pow_right (by decide) (by decide)
    have small := short n given
    omega
  simp only [run, understand_rowsLine stored accepted format readable, perform, shownLog_zero]
  rfl

/-- A schema that cannot be read is reported, and nothing is printed. -/
theorem run_unread (tame : content.Tame) {e : Error}
    (failed : (fileAt file options).schemaOf content = .error e) :
    e.kind?.isSome ∧ run srv (rowsLine file columns limit format) w = (.stopped "" e, w) := by
  have own := RowFile.kind?_of_schemaOf tame failed
  rcases RowFile.readSchema_stored srv rfl (read_fileAt stored options) tame rfl
      with ⟨kept, asked⟩
  rw [failed] at asked
  rcases printRows_unread asked with ⟨printed, ending, state⟩
  rw [run_rowsLine srv format stored accepted short, printed, ending, state,
    withoutSequences_empty, endingAnswer_failed "" own]
  exact ⟨own, rfl⟩

/-- Otherwise the command answers over the rows that are pulled under its limit. -/
theorem run_read (tame : content.Tame) (reduces : content.Reduces) {schema : Schema}
    (found : (fileAt file options).schemaOf content = .ok schema) {count : Nat}
    (stops : RowStream.Stops limit count
      (takeRows (RowStream.next srv (fileAt file options)) count (.unopened, w))) :
    let taken := takeRows (RowStream.next srv (fileAt file options)) count (.unopened, w)
    ∃ answer, run srv (rowsLine file columns limit format) w = (answer, w) ∧
      Answers schema (format.getD .table) taken.ending taken.rows answer := by
  intro taken
  have here := read_fileAt stored options
  rcases RowFile.describes_of_schemaOf found with ⟨-, d, -, ⟨-, decoded⟩, -⟩
  have listed := (RowFile.rows_stored srv rfl here tame found decoded count).1.subset
  rcases RowFile.rows_closable srv rfl here tame count with ⟨closes, own⟩
  rcases RowFile.readSchema_stored srv rfl here tame rfl with ⟨kept, asked⟩
  rw [found] at asked
  have fit : ∀ row ∈ taken.rows, row.size ≤ schema.length := by
    intro row member
    rcases StoredGroup.exists_row?_of_rows listed row member with ⟨g, -, i, held⟩
    rw [← row.length_fields, StoredGroup.fields_of_row? held, Schema.names, List.length_map]
  have few : limit.getD 0 ≤ limitBound := by
    cases limit with
    | none => exact Nat.zero_le _
    | some n => exact Nat.le_pred_of_lt (short n rfl)
  have whole := run_rowsLine srv format stored accepted short
  dsimp only at whole
  by_cases writable : ∀ row ∈ taken.rows, Writable (format.getD .table) row
  · rcases printRows_read (format.getD .table) asked few (printAs_prints _ stops fit writable) closes
      with ⟨shows, ending, state⟩
    rw [state, ending] at whole
    exact ⟨_, whole, answers_of_shows writable shows own⟩
  · -- The stream is closed where the first row stands that cannot be shown.
    rcases exists_first_failure writable with ⟨front, row, back, split, before, overlong⟩
    have reduce := reduces.of_rows decoded listed row
      (split ▸ List.mem_append_right front List.mem_cons_self)
    have closes := (RowFile.rows_closable srv rfl here tame (front.length + 1)).1
    rcases printRows_read (format.getD .table) asked few
        (printAs_until _ stops split reduce before overlong) closes with ⟨shows, ending, state⟩
    rw [state, ending, endingAnswer_overlong] at whole
    exact ⟨_, whole, .crashed front row back _ split before overlong shows⟩

/-- If what follows the groups that declare the wanted rows is exchanged, the answer stays. -/
theorem run_regrouped (tame : content.Tame) (reduces : content.Reduces) {d : DecodedFile}
    (decoded : content.decoding = .ok d) {ahead behind other : List StoredGroup}
    (grouped : d.groups = ahead ++ behind) {n : Nat} (limited : limit = some n)
    (few : n ≤ StoredGroup.declaredRows ahead) {w' : World ω}
    (stored' : w'.files.look file = .ok (.file (content.regrouped d (ahead ++ other))))
    (tame' : (content.regrouped d (ahead ++ other)).Tame)
    (reduces' : (content.regrouped d (ahead ++ other)).Reduces) :
    (run srv (rowsLine file columns limit format) w').1 =
      (run srv (rowsLine file columns limit format) w).1 := by
  have same := RowFile.schemaOf_regrouped (fileAt file options) decoded (ahead ++ other)
  cases found : (fileAt file options).schemaOf content with
  | error e =>
    rw [(run_unread srv format stored accepted short tame found).2,
      (run_unread srv format stored' accepted short tame' (same.trans found)).2]
  | ok schema =>
    rcases run_read srv format stored accepted short tame reduces found (Or.inl limited)
      with ⟨answer, first, answers⟩
    rcases run_read srv format stored' accepted short tame' reduces' (same.trans found)
      (Or.inl limited) with ⟨answer', second, answers'⟩
    rcases RowFile.rows_of_same_beginning srv rfl (read_fileAt stored options) tame found n decoded
      grouped (read_fileAt stored' options) tame' few with ⟨rows, ending⟩
    rw [rows, ending] at answers'
    rw [first, second]
    exact answers.unique answers'

end

/-- The command for the rows of a stored file reports an error of the reader's own if the schema
cannot be read, or if a pull fails before there are as many rows as are wanted.  Nothing is printed
then but, in JSON, a line for each row that came before.  Otherwise it prints the first rows of the
file, up to the limit.  With a limit, no group is asked for that begins after the last of them, so
whatever lies behind the groups that hold them never changes the answer. -/
theorem rows_up_to_limit (srv : Server ω) {w : World ω} {file : String} {content : Content}
    {columns : List String} {options : Options} {limit : Option Nat} (format : Option RowFormat)
    (stored : w.files.look file = .ok (.file content)) (tame : content.Tame)
    (reduces : content.Reduces) (accepted : optionsOf columns = .ok options)
    (short : ∀ n, limit = some n → n < 2 ^ 63) :
    let pf := fileAt file options
    let line := rowsLine file columns limit format
    let answered := run srv line w
    let schema? := (RowFile.readSchema srv (pf, w)).result
    answered.2 = w ∧
    (∀ e, schema? = .error e → e.kind?.isSome ∧ answered.1 = .stopped "" e) ∧
    ∀ schema, schema? = .ok schema →
      ∃ d count, content.decoding = .ok d ∧
        let taken := takeRows (RowStream.next srv pf) count (.unopened, w)
        let all := d.groups.flatMap (·.rowsUnder schema.names)
        RowStream.Stops limit count taken ∧
        Answers schema (format.getD .table) taken.ending taken.rows answered.1 ∧
        taken.rows.map some <+: all ∧
        (taken.ending ≠ .more → taken.rows.length < count) ∧
        ((∀ e, taken.ending ≠ .failed e) → taken.rows.map some = limit.elim all all.take) ∧
        ∀ n, limit = some n →
          (∀ i ∈ pf.groupsAsked srv w n, d.rowsBefore i < n) ∧
          ∀ ahead behind other (w' : World ω), d.groups = ahead ++ behind →
            n ≤ StoredGroup.declaredRows ahead →
            w'.files.look file = .ok (.file (content.regrouped d (ahead ++ other))) →
            (content.regrouped d (ahead ++ other)).Tame →
            (content.regrouped d (ahead ++ other)).Reduces →
            (run srv line w').1 = answered.1 := by
  intro pf line answered schema?
  have here := read_fileAt stored options
  rcases RowFile.readSchema_stored srv rfl here tame rfl with ⟨kept, asked⟩
  have schema_eq : schema? = pf.schemaOf content := asked.result
  rw [schema_eq]
  cases found : pf.schemaOf content with
  | error e =>
    rcases run_unread srv format stored accepted short tame found with ⟨own, whole⟩
    have stopped : answered = (.stopped "" e, w) := whole
    rw [stopped]
    refine ⟨rfl, ?_, ?_⟩
    · rintro _ ⟨⟩
      exact ⟨own, rfl⟩
    · rintro schema ⟨⟩
  | ok schema =>
    rcases RowFile.describes_of_schemaOf found with ⟨-, d, -, ⟨-, decoded⟩, -⟩
    -- The rows come from pulling up to the limit, or to the end if there is none.
    obtain ⟨count, stops⟩ : ∃ count, RowStream.Stops limit count
        (takeRows (RowStream.next srv pf) count (.unopened, w)) := by
      cases limit with
      | some n => exact ⟨n, Or.inl rfl⟩
      | none =>
        rcases RowStream.takeRows_ends srv pf w with ⟨count, ended⟩
        exact ⟨count, Or.inr ⟨rfl, ended⟩⟩
    rcases run_read srv format stored accepted short tame reduces found stops
      with ⟨answer, whole, answers⟩
    have given : answered = (answer, w) := whole
    rw [given]
    refine ⟨rfl, ?_, ?_⟩
    · rintro e ⟨⟩
    rintro _ ⟨⟩
    rcases RowFile.rows_stored srv rfl here tame found decoded count
      with ⟨begins, filled, fewer, exhausted⟩
    refine ⟨d, count, decoded, stops, answers, begins, fewer,
      stops.rows_eq filled fewer exhausted, ?_⟩
    intro n limited
    refine ⟨RowFile.groupsAsked_before srv rfl here found decoded n, ?_⟩
    intro ahead behind other w' grouped few stored' tame' reduces'
    rw [run_regrouped srv format stored accepted short tame reduces decoded grouped limited few
      stored' tame' reduces', whole]

/-! ## A torn file and a coloured one -/

/-- A group with one value in one column. -/
def single (name : String) (v : Value) : StoredGroup where
  rows := 1
  bytes := 10
  table := .ok ⟨1, [⟨name, .ok #[v]⟩]⟩

theorem single_delivers (name : String) (v : Value) :
    (single name v).Delivers .standard [name] := by
  refine ⟨⟨nofun, _, rfl, rfl⟩, ?_⟩
  intro i inside
  have first : i = 0 := by
    have below : (i : Int) < 1 := inside
    omega
  subst first
  simp [single, StoredGroup.row?, Table.row?, Table.column?, Table.named, Except.toOption]

theorem single_sized (name : String) (v : Value) : (single name v).Sized := by
  simp [single, StoredGroup.Sized, Table.Sized]

/-- The pages of the second group are broken. -/
def torn : DecodedFile where
  leaves := .ok [⟨"n", "INT64", "None", 0, 0⟩]
  fields := [⟨"n", "int64", false⟩]
  rows := 2
  groups := [single "n" (.int 7),
    { rows := 1, bytes := 10, table := .error (.fault ⟨.value, "bad page"⟩) }]

/-- A cell is coloured for a terminal. -/
def coloured : DecodedFile where
  leaves := .ok [⟨"v", "BYTE_ARRAY", "String", 1, 0⟩]
  fields := [⟨"v", "string", true⟩]
  rows := 1
  groups := [single "v" (.text "\x1b[31mred\x1b[0m")]

/-- A file with this decoded view. -/
def framing (d : DecodedFile) : Content where
  bytes := magic ++ [0] ++ littleEndianBytes 4 1 ++ magic
  decoding := .ok d

/-- A world that holds this file alone. -/
def storing (name : String) (d : DecodedFile) : World Unit where
  files := { entries := [([name], .file (framing d))] }
  server := ()
  remote := .error .notAUrl

theorem framing_tame {d : DecodedFile} (tame : d.Tame) : (framing d).Tame where
  parsing := by
    intro e failed
    cases failed
  decoded := by
    rintro _ ⟨⟩
    exact tame

theorem torn_tame : torn.Tame where
  leaves := by simp [torn]
  tables := by
    simp only [torn, single, List.forall_mem_cons, List.not_mem_nil, false_implies, implies_true,
      and_true, reduceCtorEq, Except.error.injEq, true_and]
    rintro _ rfl
    exact ⟨_, rfl, rfl⟩
  columns := by simp [torn, single, Table.Tame]
  sized := List.forall_mem_cons.mpr ⟨single_sized _ _, by simp [StoredGroup.Sized]⟩
  closes := by simp [torn]

theorem coloured_tame : coloured.Tame where
  leaves := by simp [coloured]
  tables := by simp [coloured, single]
  columns := by simp [coloured, single, Table.Tame]
  sized := by simp [coloured, single_sized]
  closes := by simp [coloured]

theorem torn_reduces : (framing torn).Reduces := by
  rintro _ ⟨⟩
  simp [torn, single, Table.Reduces, Value.Reduces, Value.toPlain]

theorem coloured_reduces : (framing coloured).Reduces := by
  rintro _ ⟨⟩
  simp [coloured, single, Table.Reduces, Value.Reduces, Value.toPlain]

def numbers : Schema :=
  [{ name := "n", typeName := "int64", physical := some .int64, repetition := .required }]

def words : Schema :=
  [{ name := "v", typeName := "string", physical := some .byteArray, logical := some "String" }]

theorem schemaOf_torn : (fileAt "torn" .standard).schemaOf (framing torn) = .ok numbers := by
  rfl

theorem schemaOf_coloured : (fileAt "red" .standard).schemaOf (framing coloured) = .ok words := by
  rfl

theorem look_storing_torn :
    (storing "torn" torn).files.look "torn" = .ok (.file (framing torn)) := by
  rfl

theorem look_storing_coloured :
    (storing "red" coloured).files.look "red" = .ok (.file (framing coloured)) := by
  rfl

/-- One pull brings the first row of a file that begins with a single value. -/
theorem takeRows_single {file name : String} {v : Value} {d : DecodedFile} {schema : Schema}
    {rest : List StoredGroup} (tame : d.Tame)
    (stored : (storing file d).files.look file = .ok (.file (framing d)))
    (found : (fileAt file .standard).schemaOf (framing d) = .ok schema)
    (named : schema.names = [name]) (grouped : d.groups = single name v :: rest) :
    let taken := takeRows (RowStream.next Server.unreachable (fileAt file .standard)) 1
      (.unopened, storing file d)
    taken.rows = [⟨[(name, v)]⟩] ∧ taken.ending = .more := by
  intro taken
  have here := read_fileAt stored .standard
  have delivers : ∀ g ∈ [single name v], g.Delivers .standard schema.names := by
    rw [named]
    exact List.forall_mem_singleton.mpr (single_delivers name v)
  have begins : d.groups = [single name v] ++ rest := grouped
  have ending : taken.ending = .more :=
    RowFile.rows_delivered Server.unreachable rfl here (framing_tame tame) found rfl begins delivers
      (Nat.le_refl 1)
  have rows := (RowFile.rows_stored Server.unreachable rfl here (framing_tame tame) found rfl
    1).2.1 ending
  have first : (d.groups.flatMap (·.rowsUnder schema.names)).take 1 =
      [(⟨[(name, v)]⟩ : Row)].map some := by
    rw [grouped, named]
    simp [single, StoredGroup.rowsUnder, StoredGroup.row?, Table.row?, Table.column?, Table.named,
      Except.toOption]
  rw [first, List.map_inj_right fun _ _ => Option.some.inj] at rows
  exact ⟨rows, ending⟩

theorem jsonLine_seven : Report.jsonLine ⟨[("n", .int 7)]⟩ = .ok "\x7b\"n\": 7\x7d" := by
  cbv

/-- The row before the broken pages is printed if no more are wanted: their group is not asked for,
and a file without it gives the same answer.  Without a limit the command fails. -/
theorem rows_up_to_limit_of_torn :
    let asks := fun limit => rowsLine "torn" [] limit (some .json)
    let alone := (framing torn).regrouped torn [single "n" (.int 7)]
    let cut : World Unit :=
      { storing "torn" torn with files := { entries := [(["torn"], .file alone)] } }
    let answered := run Server.unreachable (asks (some 1)) (storing "torn" torn)
    answered = ({ exitCode := 0, printed := "\x7b\"n\": 7\x7d\n" }, storing "torn" torn) ∧
      (∀ i ∈ (fileAt "torn" .standard).groupsAsked Server.unreachable (storing "torn" torn) 1,
        torn.rowsBefore i < 1) ∧
      (run Server.unreachable (asks (some 1)) cut).1 = answered.1 ∧
      (run Server.unreachable (asks none) (storing "torn" torn)).1.exitCode = 1 := by
  intro asks alone cut answered
  have tame := framing_tame torn_tame
  have accepted : optionsOf [] = .ok Options.standard := by rfl
  have known : (RowFile.readSchema Server.unreachable
      (fileAt "torn" .standard, storing "torn" torn)).result = .ok numbers := by rfl
  have short : ∀ n, some 1 = some n → n < 2 ^ 63 := by
    rintro _ ⟨⟩
    decide
  have unlimited : ∀ n, none = some n → n < 2 ^ 63 := by
    rintro _ ⟨⟩
  have first := takeRows_single torn_tame look_storing_torn schemaOf_torn rfl rfl
  rcases rows_up_to_limit Server.unreachable (some .json) look_storing_torn tame torn_reduces accepted
    short with ⟨state, -, limited⟩
  rcases limited numbers known with ⟨d, count, decoded, stops, answers, -, -, -, before⟩
  cases decoded
  rcases before 1 rfl with ⟨asked, regrouped⟩
  rcases stops with ⟨⟨⟩⟩ | ⟨⟨⟩, -⟩
  rw [first.1, first.2] at answers
  have line : Answers numbers .json .more [⟨[("n", .int 7)]⟩]
      { exitCode := 0, printed := "\x7b\"n\": 7\x7d\n" } := by
    have written : Row.Writable _ := Report.exists_jsonLine_iff.mp ⟨_, jsonLine_seven⟩
    refine .done _ (fun e => Ending.noConfusion) (List.forall_mem_singleton.mpr written)
      (.lines ["\x7b\"n\": 7\x7d"] ?_ (by decide))
    rw [List.map_singleton, jsonLine_seven, List.map_singleton]
  refine ⟨Prod.ext (line.unique answers) state, asked, ?_, ?_⟩
  · have reduces : alone.Reduces := by
      rintro _ ⟨⟩
      simp [single, Table.Reduces, Value.Reduces, Value.toPlain]
    have milder : alone.Tame := by
      refine ⟨fun e failed => (by cases failed), ?_⟩
      rintro _ ⟨⟩
      exact { torn_tame with
        tables := by simp [single]
        columns := by simp [single, Table.Tame]
        sized := by simp [single_sized] }
    exact regrouped [single "n" (.int 7)] _ [] cut rfl (Nat.le_refl 1) rfl milder reduces
  · rcases rows_up_to_limit Server.unreachable (some .json) look_storing_torn tame torn_reduces
      accepted unlimited with ⟨-, -, whole⟩
    rcases whole numbers known with ⟨d, count, decoded, -, answers, -, -, all, -⟩
    cases decoded
    generalize (run Server.unreachable (asks none) (storing "torn" torn)).1 = answer at answers ⊢
    cases answers with
    | stopped e text failed own writable shows => rfl
    | crashed front row back text split writable overlong shows => rfl
    | done text ended writable shows =>
      have missing : none ∈ torn.groups.flatMap (·.rowsUnder numbers.names) := by
        simp [torn, single, StoredGroup.rowsUnder, StoredGroup.row?, Except.toOption]
      have rows := all ended
      rw [Option.elim_none] at rows
      rw [← rows] at missing
      simp at missing

theorem table_coloured :
    Report.table words [⟨[("v", .text "\x1b[31mred\x1b[0m")]⟩] =
      .ok "v\n------------\n\x1b[31mred\x1b[0m\n(1 rows)" := by
  cbv

theorem withoutSequences_coloured :
    Text.withoutSequences ("v\n------------\n\x1b[31mred\x1b[0m\n(1 rows)" ++ "\n") =
      "v\n------------\nred\n(1 rows)\n" := by
  cbv

/-- The colour of a cell is in the table of the rows that are pulled, and not in what is printed. -/
theorem coloured_cell_printed_plain :
    let table := "v\n------------\n\x1b[31mred\x1b[0m\n(1 rows)"
    let pf := fileAt "red" .standard
    let taken := takeRows (RowStream.next Server.unreachable pf) 1 (.unopened, storing "red" coloured)
    let answered := run Server.unreachable (rowsLine "red" [] (some 1) none) (storing "red" coloured)
    (RowFile.readSchema Server.unreachable (pf, storing "red" coloured)).result = .ok words ∧
      taken.rows = [⟨[("v", .text "\x1b[31mred\x1b[0m")]⟩] ∧ taken.ending = .more ∧
      Report.table words taken.rows = .ok table ∧
      answered.1 = { exitCode := 0, printed := "v\n------------\nred\n(1 rows)\n" } ∧
      answered.1.printed ≠ table ++ "\n" := by
  intro table pf taken answered
  have tame := framing_tame coloured_tame
  have accepted : optionsOf [] = .ok Options.standard := by rfl
  have here := read_fileAt look_storing_coloured Options.standard
  rcases RowFile.readSchema_stored Server.unreachable rfl here tame rfl with ⟨kept, asked⟩
  have known := asked.result.trans schemaOf_coloured
  have short : ∀ n, some 1 = some n → n < 2 ^ 63 := by
    rintro _ ⟨⟩
    decide
  rcases takeRows_single coloured_tame look_storing_coloured schemaOf_coloured rfl rfl
    with ⟨rows, ending⟩
  have rows : taken.rows = _ := rows
  have ending : taken.ending = .more := ending
  rcases run_read Server.unreachable none look_storing_coloured accepted short tame coloured_reduces
    schemaOf_coloured (Or.inl rfl) with ⟨answer, whole, answers⟩
  have answers : Answers words .table taken.ending taken.rows answer := answers
  have plain : Answers words .table .more taken.rows
      { exitCode := 0, printed := "v\n------------\nred\n(1 rows)\n" } := by
    have shows : Shows words taken.rows true .table _ := .table table (rows ▸ table_coloured)
    rw [withoutSequences_coloured] at shows
    have short : Row.Short ⟨[("v", .text "\x1b[31mred\x1b[0m")]⟩ :=
      List.forall_mem_singleton.mpr Value.short_text
    refine .done _ (fun e => Ending.noConfusion) ?_ shows
    rw [rows]
    exact List.forall_mem_singleton.mpr short
  rw [ending] at answers
  have printed : answered.1 = _ := (congrArg Prod.fst whole).trans (plain.unique answers)
  refine ⟨known, rows, ending, rows ▸ table_coloured, printed, ?_⟩
  rw [printed]
  decide

end Command
end RowReader
