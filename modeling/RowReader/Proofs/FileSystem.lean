import Mathlib.Data.String.Basic
import RowReader.FileSystem

/-!
# Written paths

A path is written without what leads nowhere: doubled and trailing slashes, and parts that stay
where they are.  The file that is found at a path is found at the written path too.
-/

namespace RowReader

/-! ## The parts of a path -/

theorem splitSlashes_eq_splitOn (text : List Char) : splitSlashes text = text.splitOn '/' := by
  induction text with
  | nil => rfl
  | cons c rest ih =>
    rw [splitSlashes] at ih ⊢
    rw [List.foldr_cons, List.splitOn_cons_eq_if_modifyHead, ih]
    simp only [beq_iff_eq]
    split
    · rfl
    · cases parts : rest.splitOn '/' with
      | nil => exact absurd parts (List.splitOn_ne_nil _ _)
      | cons part others => rfl

theorem not_mem_of_mem_splitSlashes {text part : List Char} (member : part ∈ splitSlashes text) :
    '/' ∉ part := by
  rw [splitSlashes_eq_splitOn] at member
  induction text generalizing part with
  | nil =>
    rw [List.splitOn_nil, List.mem_singleton] at member
    simp [member]
  | cons c rest ih =>
    rw [List.splitOn_cons_eq_if_modifyHead] at member
    cases parts : rest.splitOn '/' with
    | nil => exact absurd parts (List.splitOn_ne_nil _ _)
    | cons first others =>
      rw [parts] at ih member
      rcases List.forall_mem_cons.mp fun _ inside => ih inside with ⟨plain, others_plain⟩
      split at member
      · rcases List.mem_cons.mp member with rfl | inside
        · exact List.not_mem_nil
        · exact ih inside
      · next other =>
        rcases List.mem_cons.mp member with rfl | inside
        · simp only [List.mem_cons, not_or]
          exact ⟨fun same => other (beq_iff_eq.mpr same.symm), plain⟩
        · exact others_plain part inside

/-- Slashes at the front are parts without a name. -/
theorem splitSlashes_replicate_append (count : Nat) (text : List Char) :
    splitSlashes (List.replicate count '/' ++ text) =
      List.replicate count [] ++ splitSlashes text := by
  induction count with
  | zero => rfl
  | succ count ih =>
    rw [List.replicate_succ, List.cons_append, List.replicate_succ, List.cons_append, ← ih]
    rfl

theorem sublist_intercalate {α : Type} {sep : List α} {few many : List (List α)}
    (fewer : few.Sublist many) : (sep.intercalate few).Sublist (sep.intercalate many) := by
  induction fewer with
  | slnil => exact List.Sublist.refl _
  | @cons few many part fewer ih =>
    cases many with
    | nil =>
      rw [List.sublist_nil.mp fewer]
      exact List.nil_sublist _
    | cons next others =>
      rw [List.intercalate_cons_cons]
      exact ih.trans (List.sublist_append_right _ _)
  | @cons_cons few many part fewer ih =>
    cases few with
    | nil =>
      cases many with
      | nil => exact List.Sublist.refl _
      | cons next others =>
        rw [List.intercalate_singleton, List.intercalate_cons_cons, List.append_assoc]
        exact List.sublist_append_left _ _
    | cons first rest =>
      cases many with
      | nil => cases fewer
      | cons next others =>
        rw [List.intercalate_cons_cons, List.intercalate_cons_cons]
        exact (List.Sublist.refl _).append ih

namespace Location

/-- The parts of a path that lead on. -/
def steps (path : List Char) : List (List Char) :=
  (splitSlashes path).filter fun part => part ≠ [] ∧ part ≠ ['.']

/-- The characters of a written path that has parts. -/
def written (path : List Char) : List Char :=
  List.replicate (leadingSlashes path) '/' ++ List.intercalate ['/'] (steps path)

theorem steps_named {path part : List Char} (member : part ∈ steps path) :
    part ≠ [] ∧ '/' ∉ part := by
  rcases List.mem_filter.mp member with ⟨listed, leads⟩
  exact ⟨(of_decide_eq_true leads).1, not_mem_of_mem_splitSlashes listed⟩

/-- A path begins with at least as many slashes as it is written with, and with one at least if it is
written with any. -/
theorem exists_slashes (path : List Char) :
    ∃ count rest, path = List.replicate count '/' ++ rest ∧ rest.head? ≠ some '/' ∧
      leadingSlashes path ≤ count ∧ (leadingSlashes path = 0 → count = 0) := by
  let front := path.takeWhile fun c => c = '/'
  have all : ∀ c ∈ front, c = '/' := by
    intro c member
    exact of_decide_eq_true (List.all_eq_true.mp List.all_takeWhile c member)
  refine ⟨front.length, path.dropWhile fun c => c = '/', ?_, ?_, ?_, ?_⟩
  · rw [← List.eq_replicate_of_mem all, List.takeWhile_append_dropWhile]
  · intro further
    have here := List.head?_dropWhile_not (fun c => decide (c = '/')) path
    rw [further] at here
    exact absurd here (by decide)
  · unfold leadingSlashes
    generalize front.length = count
    rcases count with _ | _ | _ | n <;> simp
  · unfold leadingSlashes
    generalize front.length = count
    rcases count with _ | _ | _ | n <;> simp

theorem written_sublist (path : List Char) : (written path).Sublist path := by
  rcases exists_slashes path with ⟨count, rest, whole, -, fewer, -⟩
  have same : steps path = steps rest := by
    simp only [steps, whole, splitSlashes_replicate_append, List.filter_append]
    simp
  rw [written, same]
  conv => rhs; rw [whole]
  apply List.Sublist.append
  · exact List.replicate_sublist_replicate '/' |>.mpr fewer
  · have parts : (List.intercalate ['/'] (steps rest)).Sublist _ :=
      sublist_intercalate List.filter_sublist
    rwa [splitSlashes_eq_splitOn, List.intercalate_splitOn] at parts

/-- A written path begins at the root exactly if the path does. -/
theorem head?_written {path : List Char} (named : steps path ≠ []) :
    (written path).head? = some '/' ↔ path.head? = some '/' := by
  rcases exists_slashes path with ⟨count, rest, whole, further, fewer, none⟩
  cases slashes : leadingSlashes path with
  | succ more =>
    have some : 0 < count := by omega
    rcases Nat.exists_eq_succ_of_ne_zero some.ne' with ⟨fewer, rfl⟩
    rw [written, slashes, whole, List.replicate_succ, List.replicate_succ]
    simp
  | zero =>
    rw [none slashes, List.replicate_zero, List.nil_append] at whole
    rw [← whole] at further
    simp only [further, iff_false]
    cases parts : steps path with
    | nil => exact absurd parts named
    | cons part others =>
      rcases steps_named (parts ▸ List.mem_cons_self : part ∈ steps path) with ⟨filled, plain⟩
      rcases List.exists_cons_of_ne_nil filled with ⟨c, letters, rfl⟩
      rw [written, slashes, parts, List.intercalate_cons_cons_left]
      intro front
      simp at front
      exact plain (front ▸ List.mem_cons_self)

theorem splitSlashes_written {path : List Char} (named : steps path ≠ []) :
    splitSlashes (written path) = List.replicate (leadingSlashes path) [] ++ steps path := by
  rw [written, splitSlashes_replicate_append, splitSlashes_eq_splitOn (List.intercalate _ _),
    List.splitOn_intercalate '/' (fun part member => (steps_named member).2) named]

theorem written_ne_nil {path : List Char} (named : steps path ≠ []) : written path ≠ [] := by
  intro empty
  have parts := splitSlashes_written named
  rw [empty] at parts
  have member : [] ∈ steps path := by
    cases slashes : leadingSlashes path with
    | zero =>
      rw [slashes, List.replicate_zero, List.nil_append] at parts
      rw [← parts]
      exact List.mem_singleton_self []
    | succ more =>
      rw [written, slashes] at empty
      simp at empty
  exact (steps_named member).1 rfl

theorem writtenPath_eq {path : String} (named : steps path.toList ≠ []) :
    writtenPath path = String.ofList (written path.toList) := by
  have filled : (written path.toList).isEmpty = false :=
    List.isEmpty_eq_false_iff.mpr (written_ne_nil named)
  change (if (written path.toList).isEmpty then "." else String.ofList (written path.toList)) = _
  rw [filled]
  rfl

end Location

/-! ## What is found at a path -/

namespace FileSystem

variable {fs : FileSystem} {content : Content}

/-- Where following a path begins. -/
def start (fs : FileSystem) (path : List Char) : Spot :=
  .directory (if path.head? = some '/' then [] else fs.workingDirectory)

theorem look_eq_file_iff {path : String} :
    fs.look path = .ok (.file content) ↔
      '\x00' ∉ path.toList ∧ path.toList ≠ [] ∧ path.utf8ByteSize ≤ pathLimit ∧
        ((splitSlashes path.toList).map String.ofList).foldlM (fs.follow path)
          (fs.start path.toList) = .ok (.file content) := by
  unfold look
  by_cases null : path.toList.contains '\x00' = true
  · have present : '\x00' ∈ path.toList := List.contains_iff_mem.mp null
    simp only [null, present, if_true, not_true_eq_false, false_and, iff_false]
    rintro ⟨⟩
  have readable : '\x00' ∉ path.toList := fun present => null (List.contains_iff_mem.mpr present)
  by_cases empty : path.toList = []
  · simp only [empty, if_true, ne_eq, not_true_eq_false, false_and, and_false, iff_false]
    rintro ⟨⟩
  by_cases long : pathLimit < path.utf8ByteSize
  · simp only [null, empty, long, if_true, Nat.not_le.mpr long, false_and, and_false, iff_false]
    rintro ⟨⟩
  simp only [null, empty, long, readable, Nat.not_lt.mp long, not_false_eq_true, ne_eq, true_and]
  change bind (List.foldlM (fs.follow path) (fs.start path.toList) _) _ = _ ↔ _
  cases List.foldlM (fs.follow path) (fs.start path.toList) _ with
  | error e => constructor <;> rintro ⟨⟩
  | ok spot =>
    cases spot with
    | directory steps => constructor <;> rintro ⟨⟩
    | file other =>
      constructor
      · rintro ⟨⟩
        rfl
      · rintro ⟨⟩
        rfl

/-- How a path is called in messages makes no difference to where it leads. -/
theorem follow_renamed {whole part : String} {spot next : Spot} (other : String)
    (followed : fs.follow whole spot part = .ok next) : fs.follow other spot part = .ok next := by
  cases spot with
  | file content => cases followed
  | directory path =>
    unfold follow at followed ⊢
    dsimp only at followed ⊢
    split
    · next still => rwa [if_pos still] at followed
    · next moves =>
      rw [if_neg moves] at followed
      split
      · next up => rwa [if_pos up] at followed
      · next down =>
        rw [if_neg down] at followed
        split
        · next long =>
          rw [if_pos long] at followed
          cases followed
        · next short =>
          rw [if_neg short] at followed
          cases found : fs.entry? (path ++ [part]) with
          | some entry =>
            rw [found] at followed
            cases entry <;> exact followed
          | none =>
            rw [found] at followed
            dsimp only at followed ⊢
            split
            · next on => rwa [if_pos on] at followed
            · next off =>
              rw [if_neg off] at followed
              cases followed

theorem follow_still {whole part : String} {spot next : Spot} (still : part = "" ∨ part = ".")
    (followed : fs.follow whole spot part = .ok next) : next = spot := by
  cases spot with
  | file content => cases followed
  | directory path =>
    unfold follow at followed
    dsimp only at followed
    rw [if_pos still] at followed
    cases followed
    rfl

/-- Parts that lead nowhere can be left out. -/
theorem foldlM_follow_filter {whole : String} {parts : List (List Char)} {spot last : Spot}
    (other : String)
    (followed : (parts.map String.ofList).foldlM (fs.follow whole) spot = .ok last) :
    ((parts.filter fun part => part ≠ [] ∧ part ≠ ['.']).map String.ofList).foldlM
      (fs.follow other) spot = .ok last := by
  induction parts generalizing spot with
  | nil =>
    rw [List.map_nil, List.foldlM_nil] at followed
    rwa [List.filter_nil, List.map_nil, List.foldlM_nil]
  | cons part rest ih =>
    rw [List.map_cons, List.foldlM_cons] at followed
    cases step : fs.follow whole spot (String.ofList part) with
    | error e =>
      rw [step] at followed
      cases followed
    | ok next =>
      rw [step] at followed
      by_cases leads : part ≠ [] ∧ part ≠ ['.']
      · rw [List.filter_cons_of_pos (by simpa using leads), List.map_cons, List.foldlM_cons,
          follow_renamed other step]
        exact ih followed
      · rw [List.filter_cons_of_neg (by simpa using leads)]
        have still : String.ofList part = "" ∨ String.ofList part = "." := by
          rcases Classical.em (part = []) with rfl | filled
          · exact Or.inl String.ofList_nil
          · have dot : part = ['.'] := Classical.byContradiction fun other => leads ⟨filled, other⟩
            exact Or.inr (by rw [dot])
        rw [← follow_still still step]
        exact ih followed

/-- Slashes at the front lead nowhere. -/
theorem foldlM_follow_slashes {whole : String} {parts : List String} {path : List String}
    (count : Nat) :
    (List.replicate count "" ++ parts).foldlM (fs.follow whole) (.directory path) =
      parts.foldlM (fs.follow whole) (.directory path) := by
  induction count with
  | zero => rfl
  | succ count ih =>
    rw [List.replicate_succ, List.cons_append, List.foldlM_cons, ← ih]
    rfl

/-- A file is found at the written path if it is found at the path that was given. -/
theorem look_writtenPath {path : String} (found : fs.look path = .ok (.file content)) :
    fs.look (Location.writtenPath path) = .ok (.file content) := by
  rcases look_eq_file_iff.mp found with ⟨readable, filled, short, followed⟩
  have shortened := Location.written_sublist path.toList
  have named : Location.steps path.toList ≠ [] := by
    intro none
    have nowhere := foldlM_follow_filter path followed
    have same : (splitSlashes path.toList).filter _ = [] := none
    rw [same] at nowhere
    cases nowhere
  rw [Location.writtenPath_eq named, look_eq_file_iff, String.toList_ofList]
  refine ⟨fun null => readable (shortened.subset null), Location.written_ne_nil named, ?_, ?_⟩
  · refine Nat.le_trans ?_ short
    rw [String.utf8ByteSize_ofList, ← String.utf8Len_toList]
    exact String.utf8Len_le_of_sublist shortened
  · have begins : fs.start (Location.written path.toList) = fs.start path.toList := by
      simp only [start, Location.head?_written named]
    rw [Location.splitSlashes_written named, begins, List.map_append, List.map_replicate,
      String.ofList_nil, start, foldlM_follow_slashes]
    exact foldlM_follow_filter _ followed

theorem read_eq_ok_iff {path : String} :
    fs.read path = .ok content ↔ fs.look path = .ok (.file content) := by
  cases found : fs.look path with
  | error e =>
    rw [read, found]
    constructor <;> rintro ⟨⟩
  | ok entry =>
    rw [read, found]
    cases entry with
    | directory => constructor <;> rintro ⟨⟩
    | file other => simp [bind, Except.bind, pure, Except.pure]

/-- A path with a null character in it names no file. -/
theorem readable_of_read {path : String} (found : fs.read path = .ok content) :
    '\x00' ∉ path.toList :=
  (look_eq_file_iff.mp (read_eq_ok_iff.mp found)).1

theorem read_writtenPath {path : String} (found : fs.look path = .ok (.file content)) :
    fs.read (Location.writtenPath path) = .ok content :=
  read_eq_ok_iff.mpr (look_writtenPath found)

end FileSystem
end RowReader
