import Mathlib.Algebra.Group.Nat.Defs
import RowReader.Command.Invocation
import RowReader.Proofs.Number.Numeral

/-!
# Asking for rows

The command line that asks for the rows of a file is understood as that task, with the columns, the
limit and the format that it gives.
-/

namespace RowReader
namespace Command

def RowFormat.word : RowFormat → String
  | table => "table"
  | json => "json"

/-- The arguments of the command for rows. -/
def rowsArgs (limit : Option Nat) (format : Option RowFormat) : List String :=
  (limit.elim [] fun n => ["--limit", toString n]) ++ format.elim [] fun f => ["--format", f.word]

/-- The command line that asks for the rows of a file. -/
def rowsLine (file : String) (columns : List String) (limit : Option Nat)
    (format : Option RowFormat) : List String :=
  "read" :: "-f" :: file :: (columns.flatMap (fun column => ["-c", column]) ++
    "rows" :: rowsArgs limit format)

/-- The options of reading that columns on a command line come to, if they are accepted. -/
def optionsOf (columns : List String) : Except SettingError Options :=
  Options.join (if columns = [] then none else some columns) true none

/-! ## Reading arguments -/

/-- An option whose value is the next argument. -/
theorem readLine_waiting {topic : Topic} {arg name : String} {s : Switch} (value : String)
    (rest : List String) (marked : arg.toList.head? = some '-' ∧ 1 < arg.toList.length)
    (other : arg ≠ "--")
    (read : readOption (Switch.ofTopic topic) arg.toList = .ok { waiting := some (name, s) }) :
    readLine topic (arg :: value :: rest) =
      (readLine topic rest).map (Line.behind [⟨s, value⟩]) := by
  rw [readLine]
  dsimp only
  rw [if_neg other, if_pos marked, read]
  rfl

theorem readLine_file (file : String) (rest : List String) :
    readLine .read ("-f" :: file :: rest) =
      (readLine .read rest).map (Line.behind [⟨.file, file⟩]) :=
  readLine_waiting file rest (by decide) (by decide) (by rfl)

theorem readLine_columns (columns : List String) {rest : List String} {l : Line}
    (read : readLine .read rest = .ok l) :
    readLine .read (columns.flatMap (fun column => ["-c", column]) ++ rest) =
      .ok (l.behind (columns.map fun column => ⟨.column, column⟩)) := by
  induction columns with
  | nil => exact read
  | cons column columns ih =>
    let others := columns.flatMap fun column => ["-c", column]
    have step : readLine .read ("-c" :: column :: (others ++ rest)) =
        (readLine .read (others ++ rest)).map (Line.behind [⟨.column, column⟩]) :=
      readLine_waiting column (others ++ rest) (by decide) (by decide) (by rfl)
    rw [ih] at step
    exact step

theorem readLine_limit (n : Nat) (rest : List String) :
    readLine .rows ("--limit" :: toString n :: rest) =
      (readLine .rows rest).map (Line.behind [⟨.limit, toString n⟩]) :=
  readLine_waiting _ rest (by decide) (by decide) (by rfl)

theorem readLine_format (f : RowFormat) (rest : List String) :
    readLine .rows ("--format" :: f.word :: rest) =
      (readLine .rows rest).map (Line.behind [⟨.format, f.word⟩]) :=
  readLine_waiting _ rest (by decide) (by decide) (by rfl)

/-- What is read of the arguments of the command for rows. -/
def limitsGiven (limit : Option Nat) (format : Option RowFormat) : Line where
  given := (limit.toList.map fun n => ⟨.limit, toString n⟩) ++
    format.toList.map fun f => ⟨.format, f.word⟩

theorem readLine_limits (limit : Option Nat) (format : Option RowFormat) :
    readLine .rows (rowsArgs limit format) = .ok (limitsGiven limit format) := by
  have ended : readLine .rows (rowsArgs none format) = .ok (limitsGiven none format) := by
    cases format with
    | none => rfl
    | some f => exact readLine_format f []
  cases limit with
  | none => exact ended
  | some n =>
    have step := readLine_limit n (rowsArgs none format)
    rw [ended] at step
    exact step

/-! ## What the arguments mean together -/

section

variable {limit : Option Nat} {format : Option RowFormat}

theorem limitGiven_limitsGiven (short : ∀ n, limit = some n → n < 10 ^ Number.digitLimit) :
    limitGiven (limitsGiven limit format) = .ok limit := by
  have value : (limitsGiven limit format).value? .limit = limit.map toString := by
    cases limit <;> cases format <;> rfl
  rw [limitGiven, value]
  cases limit with
  | none => rfl
  | some n =>
    rw [Option.map_some]
    dsimp only
    rw [Number.readInteger_toString (short n rfl)]
    dsimp only
    rw [if_neg (by simp)]
    rfl

theorem formatGiven_limitsGiven :
    formatGiven (limitsGiven limit format) = .ok (format.getD .table) := by
  have value : (limitsGiven limit format).value? .format = format.map RowFormat.word := by
    cases limit <;> cases format <;> rfl
  rw [formatGiven, value]
  cases format with
  | none => rfl
  | some f => cases f <;> rfl

theorem readTask_limits (short : ∀ n, limit = some n → n < 10 ^ Number.digitLimit) :
    readTask .rows (rowsArgs limit format) = .ok (.rows limit (format.getD .table)) := by
  have asked : checkAsked .rows (limitsGiven limit format) = .ok () := by
    cases limit <;> cases format <;> rfl
  have task : rowsTask (limitsGiven limit format) = .ok (.rows limit (format.getD .table)) := by
    simp only [rowsTask, limitGiven_limitsGiven short, formatGiven_limitsGiven]
    split
    · split <;> rfl
    · rfl
  have line : leafLine .rows (rowsArgs limit format) = .ok (limitsGiven limit format) := by
    rw [leafLine, readLine_limits]
    change (do checkAsked .rows (limitsGiven limit format); return limitsGiven limit format) = _
    rw [asked]
    rfl
  rw [readTask, line]
  change (do
    let task ← (rowsTask (limitsGiven limit format)).mapError (Stop.refused .rows)
    noOperands .rows (limitsGiven limit format)
    return task) = _
  rw [task]
  rfl

end

/-- What is read of the arguments of the reading group. -/
def groupLine (file : String) (columns rest : List String) : Line where
  given := ⟨.file, file⟩ :: columns.map fun column => ⟨.column, column⟩
  operands := "rows" :: rest

section

variable {fs : FileSystem} {file : String} {columns rest : List String}

theorem readLine_group :
    readLine .read ("-f" :: file :: (columns.flatMap (fun column => ["-c", column]) ++
      "rows" :: rest)) = .ok (groupLine file columns rest) := by
  have ended : readLine .read ("rows" :: rest) = .ok { operands := "rows" :: rest } := by
    rw [readLine]
    rfl
  rw [readLine_file, readLine_columns columns ended]
  exact congrArg Except.ok (by simp [groupLine, Line.behind])

theorem values_file : (groupLine file columns rest).values .file = [file] := by
  simp [Line.values, groupLine]

theorem values_url : (groupLine file columns rest).values .url = [] := by
  simp [Line.values, groupLine]

theorem values_column : (groupLine file columns rest).values .column = columns := by
  simp [Line.values, groupLine, List.filter_map, Function.comp_def]

theorem useThreads_groupLine : (groupLine file columns rest).useThreads = true := by
  rw [Line.useThreads, groupLine, List.foldl_cons]
  induction columns with
  | nil => rfl
  | cons column columns ih => exact ih

theorem checkAsked_groupLine : checkAsked .read (groupLine file columns rest) = .ok () := by
  have none : (groupLine file columns rest).given.find? (fun g =>
      g.switch == .version || g.switch == .help) = none := by
    simp [groupLine]
  rw [checkAsked, none]

variable {content : Content} {options : Options}

theorem locationGiven_groupLine (stored : fs.look file = .ok (.file content)) :
    locationGiven fs (groupLine file columns rest) = .ok (.ofPath file) := by
  have source : sourceGiven (groupLine file columns rest) = .ok (some file, none) := by
    simp [sourceGiven, Line.value?, values_file, values_url]
  have existing : existingFile fs file = .ok (.ofPath file) := by
    rw [existingFile, stored]
  rw [locationGiven, checkAsked_groupLine, source]
  exact existing

theorem optionsGiven_groupLine (accepted : optionsOf columns = .ok options) :
    optionsGiven (groupLine file columns rest) = .ok options := by
  unfold optionsGiven
  rw [values_column, useThreads_groupLine]
  change (optionsOf columns).mapError _ = _
  rw [accepted]
  rfl

theorem understandRead_rows (stored : fs.look file = .ok (.file content))
    (accepted : optionsOf columns = .ok options) {limit : Option Nat} (format : Option RowFormat)
    (short : ∀ n, limit = some n → n < 10 ^ Number.digitLimit) :
    understandRead fs ("-f" :: file :: (columns.flatMap (fun column => ["-c", column]) ++
      "rows" :: rowsArgs limit format)) =
      .ok (.read { location := .ofPath file, options } (.rows limit (format.getD .table))) := by
  have group : readGroup fs ("-f" :: file :: (columns.flatMap (fun column => ["-c", column]) ++
      "rows" :: rowsArgs limit format)) =
      .ok (groupLine file columns (rowsArgs limit format), .ofPath file) := by
    rw [readGroup, readLine_group]
    change (do return (_, ← locationGiven fs (groupLine file columns _))) = _
    rw [locationGiven_groupLine stored]
    rfl
  have named (again : List String → Understood Unit) :
      commandNamed .read (groupLine file columns (rowsArgs limit format)).operands again =
        .ok (.rows, rowsArgs limit format) := rfl
  simp only [understandRead, reduceCtorEq, if_false, group, bind, Except.bind, named,
    optionsGiven_groupLine accepted, readTask_limits short]
  rfl

/-- The command line for rows asks for the rows of the file under the options that it gives. -/
theorem understand_rowsLine (stored : fs.look file = .ok (.file content))
    (accepted : optionsOf columns = .ok options) {limit : Option Nat} (format : Option RowFormat)
    (short : ∀ n, limit = some n → n < 10 ^ Number.digitLimit) :
    understand fs (rowsLine file columns limit format) = .ok {
      verbosity := 0
      task := .read { location := .ofPath file, options } (.rows limit (format.getD .table)) } := by
  have root (rest : List String) :
      rootLine ("read" :: rest) = .ok { operands := "read" :: rest } := by
    rw [rootLine, readLine]
    rfl
  have named (rest : List String) (again : List String → Understood Unit) :
      commandNamed .root ("read" :: rest) again = .ok (.read, rest) := rfl
  simp only [understand, rowsLine, reduceCtorEq, if_false, bind, Except.bind, root, named,
    understandRead_rows stored accepted format short]
  rfl

end

end Command
end RowReader
