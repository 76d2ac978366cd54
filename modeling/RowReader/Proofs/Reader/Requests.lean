import RowReader.ByteFile.Memory
import RowReader.Proofs.Reader.Groups

/-!
# Requests to an open reader

A reader can be asked for its schema, its counts, single rows and the next row group, in any order
and as often as one likes.  The footer is read by whichever request comes first, and some requests
may fail.  None of this shows in the row groups: the answers to the requests for a group are those
of the stored groups in file order, each settled by the stored group and the options alone.
-/

namespace RowReader

open RowReader.Action

namespace Reader

variable {φ : Type}

/-- What an open reader can be asked for. -/
inductive Request where
  | readSchema
  | numRows
  | numRowGroups
  | assembleRow (g : RowGroup) (schema : Schema) (i : Int)
  | nextRowGroup

namespace Request

def asksGroup : Request → Bool
  | nextRowGroup => true
  | _ => false

end Request

/-- What a request was answered with. -/
inductive Reply where
  | schema (answer : Except Error Schema)
  | rows (answer : Except Error Int)
  | groups (answer : Except Error Nat)
  | row (answer : Except Error (Row × RowGroup))
  | group (answer : Except Error (Option RowGroup))

namespace Reply

def group? : Reply → Option (Except Error (Option RowGroup))
  | group answer => some answer
  | _ => none

end Reply

/-- Answers one request; the reader and its file are left as the request leaves them. -/
def respond (file : ByteFile φ) (both : Reader × φ) : Request → Reply × Reader × φ
  | .readSchema => (.schema (readSchema file both).result, (readSchema file both).state)
  | .numRows => (.rows (numRows file both).result, (numRows file both).state)
  | .numRowGroups => (.groups (numRowGroups file both).result, (numRowGroups file both).state)
  | .assembleRow g schema i =>
    (.row (assembleRow g schema i both).result, (assembleRow g schema i both).state)
  | .nextRowGroup => (.group (nextRowGroup file both).result, (nextRowGroup file both).state)

/-- The replies to a sequence of requests. -/
def replies (file : ByteFile φ) : List Request → Reader × φ → List Reply
  | [], _ => []
  | request :: rest, both =>
    (respond file both request).1 :: replies file rest (respond file both request).2

/-- The answers to the requests for a row group, in order. -/
def groupAnswers (file : ByteFile φ) (requests : List Request) (both : Reader × φ) :
    List (Except Error (Option RowGroup)) :=
  (replies file requests both).filterMap Reply.group?

/-- The group is within the size limit, if there is one. -/
def Fits (options : Options) (stored : StoredGroup) : Prop :=
  ∀ limit, options.maxRowGroupBytes = some limit → stored.bytes ≤ limit

/-- What comes of asking for the stored group at an index. -/
inductive Handed (options : Options) (name : String) (index : Nat) (stored : StoredGroup) :
    Except Error (Option RowGroup) → Prop where
  | tooLarge (limit : Int) (limited : options.maxRowGroupBytes = some limit)
      (exceeds : limit < stored.bytes) :
      Handed options name index stored (.error (.rowGroupTooLarge index name stored.bytes limit))
  | undecodable (f : Fault) (fits : Fits options stored) (fails : stored.table = .error (.fault f))
      (known : f.isDecoder || f.isSystem || f.isValue) :
      Handed options name index stored (.error (.undecodable index name f))
  | raised (e : Error) (fits : Fits options stored) (fails : stored.table = .error e)
      (other : ∀ f, e = .fault f → ¬ (f.isDecoder || f.isSystem || f.isValue)) :
      Handed options name index stored (.error e)
  | miscounted (t : Table) (fits : Fits options stored) (decodes : stored.table = .ok t)
      (differs : t.rows ≠ stored.rows) :
      Handed options name index stored (.error (.rowCountMismatch index stored.rows t.rows))
  | group (t : Table) (fits : Fits options stored) (decodes : stored.table = .ok t)
      (counted : t.rows = stored.rows) :
      Handed options name index stored (.ok (some
        { index := Int.ofNat index, table := stored.selection.project options.columns t, converted := none }))

/-! ## One stored group -/

theorem groupError_of_known (index : Nat) (name : String) {f : Fault}
    (known : f.isDecoder || f.isSystem || f.isValue) :
    groupError index name (.fault f) = .undecodable index name f :=
  if_pos known

theorem groupError_of_other (index : Nat) (name : String) {e : Error}
    (other : ∀ f, e = .fault f → ¬ (f.isDecoder || f.isSystem || f.isValue)) :
    groupError index name e = e := by
  cases e with
  | fault f => exact if_neg (other f rfl)
  | _ => rfl

/-- What comes of a stored group is one thing, and it is what the reader makes of it. -/
theorem handed_iff (r : Reader) (index : Nat) (stored : StoredGroup)
    (answer : Except Error (Option RowGroup)) :
    Handed r.options r.name index stored answer ↔
      answer = (r.grouping index stored).map some := by
  have decoding (fits : Fits r.options stored) :
      r.grouping index stored = r.decodeGroup index stored := by
    rw [grouping, limitExceeded?_eq_none_iff.mpr fits]
  constructor
  · intro handed
    cases handed with
    | tooLarge limit limited exceeds =>
      have exceeded : limitExceeded? r.options stored = some limit :=
        Option.filter_eq_some_iff.mpr ⟨limited, decide_eq_true exceeds⟩
      rw [grouping, exceeded]
      rfl
    | undecodable f fits fails known =>
      rw [decoding fits, decodeGroup_of_error r index fails, groupError_of_known _ _ known]
      rfl
    | raised e fits fails other =>
      rw [decoding fits, decodeGroup_of_error r index fails, groupError_of_other _ _ other]
      rfl
    | miscounted t fits decodes differs =>
      rw [decoding fits, decodeGroup_of_table r index decodes, if_neg differs]
      rfl
    | group t fits decodes counted =>
      rw [decoding fits, decodeGroup_of_table r index decodes, if_pos counted]
      rfl
  · rintro rfl
    cases exceeded : limitExceeded? r.options stored with
    | some limit =>
      rcases Option.filter_eq_some_iff.mp exceeded with ⟨limited, exceeds⟩
      rw [grouping, exceeded]
      exact .tooLarge limit limited (of_decide_eq_true exceeds)
    | none =>
      have fits : Fits r.options stored := limitExceeded?_eq_none_iff.mp exceeded
      rw [decoding fits]
      cases decoded : stored.table with
      | error e =>
        rw [decodeGroup_of_error r index decoded]
        by_cases known : ∃ f, e = .fault f ∧ (f.isDecoder || f.isSystem || f.isValue) = true
        · rcases known with ⟨f, rfl, known⟩
          rw [groupError_of_known _ _ known]
          exact .undecodable f fits decoded known
        · have other : ∀ f, e = .fault f → ¬ (f.isDecoder || f.isSystem || f.isValue) :=
            fun f same listed => known ⟨f, same, listed⟩
          rw [groupError_of_other _ _ other]
          exact .raised e fits decoded other
      | ok t =>
        rw [decodeGroup_of_table r index decoded]
        by_cases counted : t.rows = stored.rows
        · rw [if_pos counted]
          exact .group t fits decoded counted
        · rw [if_neg counted]
          exact .miscounted t fits decoded counted

/-- A group that is handed out has the index it was asked for at and its declared row count. -/
theorem Handed.group_spec {options : Options} {name : String} {index : Nat} {stored : StoredGroup}
    {g : RowGroup} (handed : Handed options name index stored (.ok (some g))) :
    g.index = index ∧ g.numRows = stored.rows := by
  cases handed with
  | group t fits decodes counted => exact ⟨rfl, (Selection.rows_project t).trans counted⟩

/-- The answer to a request for the group at an index. -/
def answerAt (r : Reader) (d : DecodedFile) (index : Nat) : Except Error (Option RowGroup) :=
  match d.groups[index]? with
  | none => .ok none
  | some stored => (r.grouping index stored).map some

theorem answerAt_past (r : Reader) {d : DecodedFile} {index : Nat}
    (past : d.groups.length ≤ index) : r.answerAt d index = .ok none := by
  rw [answerAt, List.getElem?_eq_none past]

/-! ## One request -/

/-- The reader has the name, the options and the position it had. -/
structure Unmoved (r r' : Reader) : Prop where
  options : r'.options = r.options
  name : r'.name = r.name
  cursor : r'.cursor = r.cursor

/-- Groups depend on the name and the options alone. -/
theorem answerAt_congr {r r' : Reader} (options : r'.options = r.options) (name : r'.name = r.name)
    (d : DecodedFile) : r'.answerAt d = r.answerAt d := by
  funext index
  unfold answerAt grouping decodeGroup
  simp only [options, name]

section

variable {file : ByteFile φ} {d : DecodedFile} {r : Reader} {s : φ}

/-- A reader whose footer was read parses from then on. -/
theorem Parses.read (parses : Parses file d (r, s)) {r' : Reader} (t : φ)
    (isOpen : r'.closed = r.closed) (decoded : r'.decoding = r.decoding)
    (known : r'.footerRead = true) : Parses file d (r', t) :=
  ⟨isOpen.trans parses.isOpen, decoded.trans parses.decoded, Or.inl known⟩

theorem readSchema_unmoved (parses : Parses file d (r, s)) :
    ∃ r' t, (readSchema file (r, s)).state = (r', t) ∧ Parses file d (r', t) ∧ Unmoved r r' := by
  have found := footer_parsed parses
  cases known : r.schema with
  | some schema =>
    exact ⟨r, s, (readSchema_known parses.isOpen known).state, parses, rfl, rfl, rfl⟩
  | none =>
    cases fields : r.fieldsOf d with
    | error e =>
      exact ⟨_, _, (readSchema_undescribed parses.isOpen known found fields).state,
        parses.read _ rfl rfl rfl, rfl, rfl, rfl⟩
    | ok schema =>
      exact ⟨_, _, (readSchema_described parses.isOpen known found fields).state,
        parses.read _ rfl rfl rfl, rfl, rfl, rfl⟩

/-- A request for anything but a group leaves the reader where it stands, whether it fails or not. -/
theorem respond_other (parses : Parses file d (r, s)) {request : Request}
    (other : request.asksGroup = false) :
    ∃ r' t, (respond file (r, s) request).2 = (r', t) ∧ Parses file d (r', t) ∧ Unmoved r r' ∧
      (respond file (r, s) request).1.group? = none := by
  have found := footer_parsed parses
  cases request with
  | readSchema =>
    rcases readSchema_unmoved parses with ⟨r', t, left, still, unmoved⟩
    exact ⟨r', t, left, still, unmoved, rfl⟩
  | numRows =>
    exact ⟨{ r with footerRead := true }, _, (found.bind (yields_pure d.rows _)).state,
      parses.read _ rfl rfl rfl, ⟨rfl, rfl, rfl⟩, rfl⟩
  | numRowGroups =>
    exact ⟨{ r with footerRead := true }, _, (found.bind (yields_pure d.groups.length _)).state,
      parses.read _ rfl rfl rfl, ⟨rfl, rfl, rfl⟩, rfl⟩
  | assembleRow g schema i =>
    exact ⟨r, s, (assembleRow_yields parses.isOpen g schema i).state, parses, ⟨rfl, rfl, rfl⟩, rfl⟩
  | nextRowGroup => cases other

/-- A request for a group is answered with the group at the reader's position, which it moves on. -/
theorem respond_group (parses : Parses file d (r, s)) :
    ∃ r' t, respond file (r, s) .nextRowGroup = (.group (r.answerAt d r.cursor), r', t) ∧
      Parses file d (r', t) ∧ r'.options = r.options ∧ r'.name = r.name ∧
      (r'.cursor = r.cursor + 1 ∨ d.groups.length ≤ r.cursor ∧ r'.cursor = r.cursor) := by
  cases next : d.groups[r.cursor]? with
  | none =>
    have ended := nextRowGroup_past parses next
    refine ⟨{ r with footerRead := true }, fileAfterFooter file (r, s), ?_,
      parses.read _ rfl rfl rfl, rfl, rfl, Or.inr ⟨List.getElem?_eq_none_iff.mp next, rfl⟩⟩
    simp only [respond, ended.result, ended.state, answerAt, next]
  | some stored =>
    rcases nextRowGroup_inside parses next with ⟨used, -, taken⟩
    refine ⟨{ r with footerRead := true, cursor := r.cursor + 1, used }, fileAfterFooter file (r, s),
      ?_, parses.read _ rfl rfl rfl, rfl, rfl, Or.inl rfl⟩
    simp only [respond, taken.result, taken.state, answerAt, next]

/-! ## Sequences of requests -/

/-- The answers to the requests for a group are those at the positions from the reader's on. -/
theorem groupAnswers_eq (requests : List Request) (parses : Parses file d (r, s)) :
    groupAnswers file requests (r, s) =
      (List.range (requests.countP Request.asksGroup)).map fun k => r.answerAt d (r.cursor + k) := by
  induction requests generalizing r s with
  | nil => rfl
  | cons request rest ih =>
    cases asks : request.asksGroup with
    | false =>
      rcases respond_other parses asks with ⟨r', t, left, still, unmoved, reply⟩
      have later := ih still
      rw [answerAt_congr unmoved.options unmoved.name, unmoved.cursor, groupAnswers] at later
      rw [List.countP_cons_of_neg (by rw [asks]; decide), ← later, groupAnswers, replies, left,
        List.filterMap_cons_none reply]
    | true =>
      cases request with
      | nextRowGroup =>
        rcases respond_group parses with ⟨r', t, responded, still, options, name, moved⟩
        have later := ih still
        rw [answerAt_congr options name, groupAnswers] at later
        have answered : (respond file (r, s) .nextRowGroup).1.group? =
            some (r.answerAt d r.cursor) := by
          rw [responded]
          rfl
        rw [List.countP_cons_of_pos asks, List.range_succ_eq_map, List.map_cons, List.map_map,
          groupAnswers, replies, List.filterMap_cons_some answered, responded, later]
        congr 1
        apply List.map_congr_left
        intro k _
        rcases moved with further | ⟨past, stays⟩
        · rw [further, Function.comp_apply, Nat.succ_eq_add_one, Nat.add_assoc, Nat.add_comm 1]
        · rw [stays, Function.comp_apply, answerAt_past r (Nat.le_add_right_of_le past),
            answerAt_past r (Nat.le_add_right_of_le past)]
      | _ => cases asks

/-- However requests are mixed and whatever becomes of them, each request for a group has one
answer.  The answer at each position is settled by the stored group there: if there is none, there
is no group, and otherwise what is handed out is the group at that index with its declared rows, or
the error of this group.  So no group comes twice, and none is passed over but for its own error. -/
theorem groups_in_file_order (file : ByteFile φ) {d : DecodedFile} {r : Reader} {s : φ}
    (parses : Parses file d (r, s)) (requests : List Request) :
    let answers := groupAnswers file requests (r, s)
    answers.length = requests.countP Request.asksGroup ∧
    ∀ k answer, answers[k]? = some answer →
      match d.groups[r.cursor + k]? with
      | none => answer = .ok none
      | some stored =>
        (∀ other, Handed r.options r.name (r.cursor + k) stored other ↔ other = answer) ∧
        ∀ g, answer = .ok (some g) → g.index = Int.ofNat (r.cursor + k) ∧ g.numRows = stored.rows := by
  intro answers
  have whole : answers = _ := groupAnswers_eq requests parses
  refine ⟨by rw [whole, List.length_map, List.length_range], ?_⟩
  intro k answer found
  rw [whole, List.getElem?_map, Option.map_eq_some_iff] at found
  rcases found with ⟨position, listed, rfl⟩
  rcases List.getElem?_eq_some_iff.mp listed with ⟨inside, same⟩
  rw [List.getElem_range] at same
  subst same
  unfold answerAt
  cases d.groups[r.cursor + k]? with
  | none => rfl
  | some stored =>
    have settled := handed_iff r (r.cursor + k) stored
    refine ⟨settled, fun g handed => ?_⟩
    exact ((settled _).mpr handed.symm).group_spec

end

/-! ## Five groups of which one is sound -/

/-- The first group is too large, the pages of the second and the third cannot be read, those of the
fourth are miscounted, and the columns are not described. -/
def mixedDecoded : DecodedFile where
  leaves := .error (.fault ⟨.decoder .general, "no columns"⟩)
  fields := []
  rows := 6
  groups := [
    { rows := 1, bytes := 200, table := .ok ⟨1, []⟩ },
    { rows := 1, bytes := 10, table := .error (.fault ⟨.system .general, "short page"⟩) },
    { rows := 1, bytes := 10, table := .error (.fault ⟨.runtime, "stopped"⟩) },
    { rows := 2, bytes := 10, table := .ok ⟨1, []⟩ },
    { rows := 1, bytes := 100, table := .ok ⟨1, [⟨"id", .ok #[.int 7]⟩]⟩ }]

def mixedReader : Reader :=
  { name := "mixed", decoding := .ok mixedDecoded,
    options := { Options.standard with
      maxRowGroupBytes := some 100, limit_pos := by rintro _ ⟨⟩; decide } }

def mixedFile : MemoryFile :=
  { bytes := magic ++ [0] ++ littleEndianBytes 4 1 ++ magic }

def soundGroup : RowGroup := ⟨4, ⟨1, [⟨"id", .ok #[.int 7]⟩]⟩, none⟩

/-- The schema cannot be read and rows are asked for that are not there, but every group is met in
its turn. -/
theorem groups_in_file_order_of_mixed :
    let requests := [.nextRowGroup, .readSchema, .nextRowGroup, .numRows, .nextRowGroup,
      .assembleRow soundGroup [] 9, .nextRowGroup, .nextRowGroup, .numRowGroups, .nextRowGroup]
    let answers := groupAnswers MemoryFile.file requests (mixedReader, mixedFile)
    Parses MemoryFile.file mixedDecoded (mixedReader, mixedFile) ∧
    answers.length = 6 ∧
    answers[0]? = some (.error (.rowGroupTooLarge 0 "mixed" 200 100)) ∧
    answers[1]? = some (.error (.undecodable 1 "mixed" ⟨.system .general, "short page"⟩)) ∧
    answers[2]? = some (.error (.fault ⟨.runtime, "stopped"⟩)) ∧
    answers[3]? = some (.error (.rowCountMismatch 3 2 1)) ∧
    answers[4]? = some (.ok (some soundGroup)) ∧
    answers[5]? = some (.ok none) := by
  intro requests answers
  have parses : Parses MemoryFile.file mixedDecoded (mixedReader, mixedFile) :=
    ⟨rfl, rfl, Or.inr ⟨1, rfl⟩⟩
  rcases groups_in_file_order MemoryFile.file parses requests with ⟨length, settled⟩
  have count : answers.length = 6 := length
  have fits {stored : StoredGroup} (small : stored.bytes ≤ 100) :
      Fits mixedReader.options stored := by
    intro limit same
    cases same
    exact small
  have met {k : Nat} {stored : StoredGroup} {answer : Except Error (Option RowGroup)} (below : k < 6)
      (there : mixedDecoded.groups[mixedReader.cursor + k]? = some stored)
      (handed : Handed mixedReader.options "mixed" (mixedReader.cursor + k) stored answer) :
      answers[k]? = some answer := by
    have found : answers[k]? = some (answers.get ⟨k, count ▸ below⟩) := List.getElem?_eq_getElem _
    have turn := settled k _ found
    rw [there] at turn
    rw [found, (turn.1 answer).mp handed]
  refine ⟨parses, count, ?_, ?_, ?_, ?_, ?_, ?_⟩
  · exact met (by decide) rfl (.tooLarge 100 rfl (by decide))
  · exact met (by decide) rfl (.undecodable _ (fits (by decide)) rfl rfl)
  · exact met (by decide) rfl (.raised _ (fits (by decide)) rfl (by rintro f ⟨⟩; decide))
  · refine met (by decide) rfl (.miscounted ⟨1, []⟩ (fits ?_) rfl ?_)
    · decide
    · decide
  · exact met (by decide) rfl (.group _ (fits (by decide)) rfl rfl)
  · have found : answers[5]? = some (answers.get ⟨5, count ▸ by decide⟩) := List.getElem?_eq_getElem _
    exact found.trans (congrArg some (settled 5 _ found))

end Reader
end RowReader
