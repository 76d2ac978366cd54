import Mathlib.Data.List.Forall2
import Mathlib.Data.List.Nodup
import RowReader.Decoded.Fields
import RowReader.Proofs.Action.Collect

/-!
# Fields of a schema tree

A stored schema is a tree whose leaves are the stored columns.  The decoder shows it as the list of
its leaves, depth first, each with its path and its levels, beside the nodes at the top.

A field at the top is described by a leaf that is found by text: the field's name is looked up among
the paths.  For a leaf in a group that text is the names on the way down, joined by dots, and nothing
keeps a name at the top from being that very text.  So a field has its own description unless its
name is such a text, which takes a dot in the name; and otherwise a leaf of another field may stand in.
-/

namespace RowReader

/-- What a step down the schema adds to the largest definition level. -/
def Repetition.definitionStep : Repetition → Int
  | .required => 0
  | .optional | .repeated => 1

/-- What a step down the schema adds to the largest repetition level. -/
def Repetition.repetitionStep : Repetition → Int
  | .repeated => 1
  | _ => 0

/-- The levels of a leaf at the top tell its repetition. -/
theorem Repetition.ofLevels_steps (r : Repetition) :
    ofLevels r.definitionStep r.repetitionStep = r := by
  cases r <;> decide

/-- A node of a stored schema.  The logical type of a leaf is the text by which it is shown. -/
inductive SchemaNode where
  | leaf (name : String) (repetition : Repetition) (physical : PhysicalType) (logicalName : String)
  | group (name : String) (repetition : Repetition) (children : List SchemaNode)

namespace SchemaNode

def name : SchemaNode → String
  | leaf name _ _ _ => name
  | group name _ _ => name

def isLeaf : SchemaNode → Bool
  | leaf _ _ _ _ => true
  | group _ _ _ => false

mutual

/-- The leaves of a node, depth first, below nodes with these names and levels. -/
def leaves (above : List String) (definition repetition : Int) : SchemaNode → List Leaf
  | leaf name step physical logicalName =>
    [{ path := ".".intercalate (above ++ [name]), physicalName := physical.name, logicalName
       maxDefinition := definition + step.definitionStep
       maxRepetition := repetition + step.repetitionStep }]
  | group name step children =>
    leavesOf (above ++ [name]) (definition + step.definitionStep)
      (repetition + step.repetitionStep) children

def leavesOf (above : List String) (definition repetition : Int) : List SchemaNode → List Leaf
  | [] => []
  | node :: rest =>
    leaves above definition repetition node ++ leavesOf above definition repetition rest

end

mutual

/-- Every physical type of a tree is known by its name. -/
theorem known_of_leaves (above : List String) (definition repetition : Int) (node : SchemaNode) :
    ∀ leaf ∈ node.leaves above definition repetition,
      (PhysicalType.ofName? leaf.physicalName).isSome := by
  cases node with
  | leaf name step physical logicalName => simp [leaves, PhysicalType.ofName?_name]
  | group name step children =>
    rw [leaves]
    exact known_of_leavesOf _ _ _ children

theorem known_of_leavesOf (above : List String) (definition repetition : Int)
    (nodes : List SchemaNode) : ∀ leaf ∈ leavesOf above definition repetition nodes,
      (PhysicalType.ofName? leaf.physicalName).isSome := by
  cases nodes with
  | nil => simp [leavesOf]
  | cons node rest =>
    rw [leavesOf]
    exact List.forall_mem_append.mpr ⟨known_of_leaves _ _ _ node, known_of_leavesOf _ _ _ rest⟩

end

/-- Names that are joined below another have a dot between them. -/
theorem dot_mem_intercalate {above : List String} (below : above ≠ []) (name : String) :
    '.' ∈ (".".intercalate (above ++ [name])).toList := by
  rcases List.exists_cons_of_ne_nil below with ⟨top, rest, rfl⟩
  have more : rest ++ [name] ≠ [] := by simp
  rcases List.exists_cons_of_ne_nil more with ⟨next, others, same⟩
  rw [List.cons_append, same, String.intercalate_cons_cons]
  simp

mutual

/-- The path of a leaf below another node has a dot. -/
theorem dotted_of_leaves {above : List String} (below : above ≠ []) (definition repetition : Int)
    (node : SchemaNode) : ∀ leaf ∈ node.leaves above definition repetition,
      '.' ∈ leaf.path.toList := by
  cases node with
  | leaf name step physical logicalName =>
    simp only [leaves, List.mem_singleton, forall_eq]
    exact dot_mem_intercalate below name
  | group name step children =>
    rw [leaves]
    exact dotted_of_leavesOf (by simp) _ _ children

theorem dotted_of_leavesOf {above : List String} (below : above ≠ []) (definition repetition : Int)
    (nodes : List SchemaNode) : ∀ leaf ∈ leavesOf above definition repetition nodes,
      '.' ∈ leaf.path.toList := by
  cases nodes with
  | nil => simp [leavesOf]
  | cons node rest =>
    rw [leavesOf]
    exact List.forall_mem_append.mpr
      ⟨dotted_of_leaves below _ _ node, dotted_of_leavesOf below _ _ rest⟩

end

end SchemaNode

/-- A node at the top of a schema, with the type its values have in memory and whether they may be
missing there. -/
structure TopNode where
  node : SchemaNode
  typeName : String
  nullable : Bool

namespace TopNode

def name (top : TopNode) : String := top.node.name

def leaves (top : TopNode) : List Leaf := top.node.leaves [] 0 0

/-- The leaves that lie in a group. -/
def inner (top : TopNode) : List Leaf :=
  if top.node.isLeaf then [] else top.leaves

def field (top : TopNode) : TopField := ⟨top.name, top.typeName, top.nullable⟩

/-- The field as the node has it: a leaf with its own types and repetition, or a group. -/
def own (top : TopNode) : Field :=
  match top.node with
  | .leaf name repetition physical logicalName =>
    { name, typeName := top.typeName, physical := some physical
      logical := DecodedFile.logicalNamed? logicalName, repetition }
  | .group name _ _ =>
    { name, typeName := top.typeName
      repetition := if top.nullable then .optional else .required }

/-- A name at the top that is also the path of a leaf in a group. -/
def Misleading (tops : List TopNode) (name : String) : Prop :=
  ∃ top ∈ tops, ∃ leaf ∈ top.inner, leaf.path = name

/-- The leaf that is found under a name: the last with that path. -/
def Finds (tops : List TopNode) (name : String) (leaf : Leaf) : Prop :=
  ∃ before after, tops.flatMap leaves = before ++ leaf :: after ∧ leaf.path = name ∧
    ∀ later ∈ after, later.path ≠ name

/-- How the field of a node comes out. -/
structure Describes (tops : List TopNode) (top : TopNode) (field : Field) : Prop where
  name : field.name = top.name
  typeName : field.typeName = top.typeName
  own : ¬ Misleading tops top.name → field = top.own
  misled : Misleading tops top.name → ∃ leaf, Finds tops top.name leaf ∧
    field.physical = PhysicalType.ofName? leaf.physicalName ∧ field.isGroup = false ∧
    field.logical = DecodedFile.logicalNamed? leaf.logicalName ∧
    field.repetition = .ofLevels leaf.maxDefinition leaf.maxRepetition

end TopNode

/-- A decoded file with this schema tree. -/
structure DecodedFile.ShowsTree (d : DecodedFile) (tops : List TopNode) : Prop where
  leaves : d.leaves = .ok (tops.flatMap TopNode.leaves)
  fields : d.fields = tops.map TopNode.field

namespace DecodedFile

/-- The leaf that is found is the last with its path. -/
theorem leafAt?_eq_some_iff {leaves : List Leaf} {path : String} {leaf : Leaf} :
    leafAt? leaves path = some leaf ↔ ∃ before after, leaves = before ++ leaf :: after ∧
      leaf.path = path ∧ ∀ later ∈ after, later.path ≠ path := by
  unfold leafAt?
  rw [List.find?_eq_some_iff_append]
  constructor
  · rintro ⟨here, after, before, split, others⟩
    refine ⟨before.reverse, after.reverse, ?_, eq_of_beq here, ?_⟩
    · simpa using congrArg List.reverse split
    · intro later member
      simpa using others later (List.mem_reverse.mp member)
  · rintro ⟨before, after, rfl, here, others⟩
    refine ⟨beq_iff_eq.mpr here, after.reverse, before.reverse, by simp, ?_⟩
    intro later member
    simpa using others later (List.mem_reverse.mp member)

theorem leafAt?_eq_none_iff {leaves : List Leaf} {path : String} :
    leafAt? leaves path = none ↔ ∀ leaf ∈ leaves, leaf.path ≠ path := by
  simp [leafAt?]

/-- A leaf that is the only one with its path is found. -/
theorem leafAt?_of_sole {leaves : List Leaf} {leaf : Leaf} (member : leaf ∈ leaves)
    (sole : ∀ other ∈ leaves, other.path = leaf.path → other = leaf) :
    leafAt? leaves leaf.path = some leaf := by
  cases found : leafAt? leaves leaf.path with
  | none => exact absurd rfl (leafAt?_eq_none_iff.mp found leaf member)
  | some other =>
    rcases leafAt?_eq_some_iff.mp found with ⟨before, after, split, same, -⟩
    have inside : other ∈ leaves := by
      rw [split]
      simp
    rw [sole other inside same]

end DecodedFile

namespace TopNode

open DecodedFile

variable {tops : List TopNode}

/-- A leaf of a tree lies in a group or is a node at the top. -/
theorem mem_leaves {top : TopNode} {leaf : Leaf} (member : leaf ∈ top.leaves) :
    leaf ∈ top.inner ∨ top.node.isLeaf = true ∧ leaf.path = top.name ∧ top.leaves = [leaf] := by
  rcases top with ⟨_ | ⟨name, step, children⟩, typeName, nullable⟩
  · have sole := member
    simp only [leaves, SchemaNode.leaves, List.mem_singleton] at sole
    subst sole
    refine Or.inr ⟨rfl, ?_, rfl⟩
    rw [List.nil_append, String.intercalate_singleton]
    rfl
  · exact Or.inl member

theorem mem_leaves_of_inner {top : TopNode} {leaf : Leaf} (member : leaf ∈ top.inner) :
    leaf ∈ top.leaves := by
  unfold inner at member
  split at member
  · cases member
  · exact member

/-- The path of a leaf in a group has a dot. -/
theorem dotted_of_inner {top : TopNode} {leaf : Leaf} (member : leaf ∈ top.inner) :
    '.' ∈ leaf.path.toList := by
  rcases top with ⟨_ | ⟨name, step, children⟩, typeName, nullable⟩
  · cases member
  · have below : leaf ∈ SchemaNode.leavesOf [name] (0 + step.definitionStep)
        (0 + step.repetitionStep) children := member
    exact SchemaNode.dotted_of_leavesOf (by simp) _ _ children leaf below

theorem own_name (top : TopNode) : top.own.name = top.name := by
  rcases top with ⟨_ | _, typeName, nullable⟩ <;> rfl

theorem own_typeName (top : TopNode) : top.own.typeName = top.typeName := by
  rcases top with ⟨_ | _, typeName, nullable⟩ <;> rfl

/-- Unless the name of a node misleads, only the node itself is a leaf spelled so. -/
theorem spelled_alike (distinct : (tops.map name).Nodup) {top : TopNode} (member : top ∈ tops)
    (plain : ¬ Misleading tops top.name) {leaf : Leaf} (inside : leaf ∈ tops.flatMap leaves)
    (spelled : leaf.path = top.name) : top.node.isLeaf = true ∧ top.leaves = [leaf] := by
  rcases List.mem_flatMap.mp inside with ⟨other, among, leaf_of⟩
  rcases mem_leaves leaf_of with inner | ⟨isLeaf, path, sole⟩
  · exact absurd ⟨other, among, leaf, inner, spelled⟩ plain
  · have same : other = top :=
      List.inj_on_of_nodup_map distinct among member (path.symm.trans spelled)
    exact same ▸ ⟨isLeaf, sole⟩

/-- Unless its name misleads, a node's field is its own. -/
theorem fieldFrom_own (distinct : (tops.map name).Nodup) {top : TopNode} (member : top ∈ tops)
    (plain : ¬ Misleading tops top.name) :
    fieldFrom (tops.flatMap leaves) top.field = .ok top.own := by
  have alike : ∀ leaf ∈ tops.flatMap leaves, leaf.path = top.name →
      top.node.isLeaf = true ∧ top.leaves = [leaf] :=
    fun leaf inside spelled => spelled_alike distinct member plain inside spelled
  rcases top with ⟨⟨name, step, physical, logicalName⟩ | ⟨name, step, children⟩, typeName, nullable⟩
  · let own : Leaf :=
      { path := ".".intercalate ([] ++ [name]), physicalName := physical.name, logicalName
        maxDefinition := 0 + step.definitionStep, maxRepetition := 0 + step.repetitionStep }
    have path : own.path = name := by
      change ".".intercalate [name] = name
      exact String.intercalate_singleton
    have inside : own ∈ tops.flatMap leaves :=
      List.mem_flatMap.mpr ⟨_, member, List.mem_singleton_self own⟩
    have sole : ∀ other ∈ tops.flatMap leaves, other.path = own.path → other = own := by
      intro other among spelled
      have only := (alike other among (spelled.trans path)).2
      exact (List.singleton_inj.mp only).symm
    have found := leafAt?_of_sole inside sole
    rw [path] at found
    simp only [fieldFrom, field, TopNode.name, SchemaNode.name, found, columnField, own,
      PhysicalType.ofName?_name, Int.zero_add, Repetition.ofLevels_steps]
    rfl
  · have absent : leafAt? (tops.flatMap leaves) name = none := by
      apply leafAt?_eq_none_iff.mpr
      intro leaf inside spelled
      have isLeaf := (alike leaf inside spelled).1
      cases isLeaf
    simp only [fieldFrom, field, TopNode.name, SchemaNode.name, absent]
    rfl

/-- A name that misleads finds a leaf, which describes the field. -/
theorem fieldFrom_misled {top : TopNode} (misled : Misleading tops top.name) :
    ∃ field leaf, fieldFrom (tops.flatMap leaves) top.field = .ok field ∧
      field.name = top.name ∧ field.typeName = top.typeName ∧ Finds tops top.name leaf ∧
      field.physical = PhysicalType.ofName? leaf.physicalName ∧ field.isGroup = false ∧
      field.logical = logicalNamed? leaf.logicalName ∧
      field.repetition = .ofLevels leaf.maxDefinition leaf.maxRepetition := by
  rcases misled with ⟨other, among, rival, inner, spelled⟩
  have inside : rival ∈ tops.flatMap leaves :=
    List.mem_flatMap.mpr ⟨other, among, mem_leaves_of_inner inner⟩
  cases found : leafAt? (tops.flatMap leaves) top.name with
  | none => exact absurd spelled (leafAt?_eq_none_iff.mp found rival inside)
  | some leaf =>
    have finds : Finds tops top.name leaf := leafAt?_eq_some_iff.mp found
    have among' : leaf ∈ tops.flatMap leaves := by
      rcases finds with ⟨before, after, split, -, -⟩
      rw [split]
      simp
    rcases List.mem_flatMap.mp among' with ⟨owner, -, leaf_of⟩
    rcases Option.isSome_iff_exists.mp (SchemaNode.known_of_leaves [] 0 0 owner.node leaf leaf_of)
      with ⟨physical, known⟩
    refine ⟨{ name := top.name, typeName := top.typeName, physical := some physical
              logical := logicalNamed? leaf.logicalName
              repetition := .ofLevels leaf.maxDefinition leaf.maxRepetition },
      leaf, ?_, rfl, rfl, finds, known.symm, rfl, rfl, rfl⟩
    change leafAt? (tops.flatMap leaves) top.field.name = some leaf at found
    simp only [fieldFrom, found, columnField, known]
    rfl

/-- Every tree whose nodes at the top have names of their own is described field by field, in order,
with the name and the type of each node.  Unless the name of a node is also the path of a leaf in a
group, its field is the node's own: it has a physical type exactly if the node is a leaf, with the
types and the repetition of that leaf, and is a group otherwise, with the repetition its nullability
tells.  If it is such a path, the last leaf of that path describes the field, even of a group.  No
name without a dot is such a path. -/
theorem fields_of_tree (tops : List TopNode) (distinct : (tops.map name).Nodup) (d : DecodedFile)
    (shows : d.ShowsTree tops) :
    (∃ schema : Schema, d.allFields = .ok schema ∧ List.Forall₂ (Describes tops) tops schema) ∧
    ∀ top ∈ tops, '.' ∉ top.name.toList → ¬ Misleading tops top.name := by
  constructor
  · have each : ∀ top ∈ tops, ∃ field,
        fieldFrom (tops.flatMap leaves) top.field = .ok field ∧ Describes tops top field := by
      intro top member
      by_cases misled : Misleading tops top.name
      · rcases fieldFrom_misled misled with ⟨field, leaf, described, name, type, details⟩
        exact ⟨field, described, name, type, fun plain => absurd misled plain,
          fun _ => ⟨leaf, details⟩⟩
      · exact ⟨top.own, fieldFrom_own distinct member misled, own_name top, own_typeName top,
          fun _ => rfl, fun other => absurd other misled⟩
    rcases exists_forall₂ each with ⟨schema, related⟩
    refine ⟨schema, ?_, related.imp fun top field both => both.2⟩
    have collected : (tops.map TopNode.field).mapM (fieldFrom (tops.flatMap leaves)) = .ok schema := by
      rw [mapM_eq_ok_iff, List.forall₂_map_left_iff]
      exact related.imp fun top field both => both.1
    rw [allFields, shows.leaves, shows.fields]
    exact collected
  · rintro top member undotted ⟨other, among, leaf, inner, spelled⟩
    apply undotted
    rw [← spelled]
    exact dotted_of_inner inner

/-- A number, a point of two numbers, and a list of texts. -/
def points : List TopNode :=
  [⟨.leaf "id" .required .int32 "None", "int32", false⟩,
    ⟨.group "point" .optional
      [.leaf "x" .required .double "None", .leaf "y" .required .double "None"],
      "struct<x: double not null, y: double not null>", true⟩,
    ⟨.group "tags" .optional [.group "list" .repeated [.leaf "item" .optional .byteArray "String"]],
      "list<item: string>", true⟩]

def pointFile : DecodedFile where
  leaves := .ok (points.flatMap leaves)
  fields := points.map field
  rows := 0
  groups := []

theorem fields_of_tree_of_points :
    (points.map name).Nodup ∧ pointFile.ShowsTree points ∧
    (∃ schema : Schema, pointFile.allFields = .ok schema ∧
      List.Forall₂ (Describes points) points schema) ∧
    ∀ top ∈ points, ¬ Misleading points top.name := by
  have distinct : (points.map name).Nodup := by decide
  have shows : pointFile.ShowsTree points := ⟨rfl, rfl⟩
  rcases fields_of_tree points distinct pointFile shows with ⟨described, undotted⟩
  have plain : ∀ top ∈ points, '.' ∉ top.name.toList := by decide
  exact ⟨distinct, shows, described, fun top member => undotted top member (plain top member)⟩

/-- A number by the name of a path, beside the group that has the path. -/
def dotted : List TopNode :=
  [⟨.leaf "a.b" .required .double "None", "double", false⟩,
    ⟨.group "a" .optional [.leaf "b" .optional .int64 "None"], "struct<b: int64>", true⟩]

def dottedFile : DecodedFile where
  leaves := .ok (dotted.flatMap leaves)
  fields := dotted.map field
  rows := 0
  groups := []

/-- The field of the number is described by the column in the group: it is said to hold other numbers
than it holds, and to lack some. -/
theorem dotted_name_takes_leaf_of_group :
    (dotted.map name).Nodup ∧ dottedFile.ShowsTree dotted ∧
    dottedFile.allFields = .ok
      [{ name := "a.b", typeName := "double", physical := some .int64, repetition := .optional },
        { name := "a", typeName := "struct<b: int64>", repetition := .optional }] ∧
    dotted.map own =
      [{ name := "a.b", typeName := "double", physical := some .double, repetition := .required },
        { name := "a", typeName := "struct<b: int64>", repetition := .optional }] := by
  refine ⟨by decide, ⟨rfl, rfl⟩, ?_, rfl⟩
  decide

end TopNode
end RowReader
