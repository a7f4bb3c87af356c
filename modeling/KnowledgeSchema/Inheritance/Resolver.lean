import KnowledgeSchema.Definition.Entity
import KnowledgeSchema.Inheritance.Warning

/-!
# Inheritance of fields

The fields that an entity type has are its own and those of its ancestors, where the nearest
definition of a name counts. Types are resolved one after another. What was worked out for a type
is kept only if its ancestors were followed to their end, so that no result depends on the types
resolved before.
-/

namespace KnowledgeSchema

/-- The types of a version, the fields that each of them defines, and the number of ancestors that
a type may inherit from. -/
structure Hierarchy where
  types : List EntityType
  own : String → List Field
  maxDepth : UInt64

def defaultMaxDepth : UInt64 :=
  10

/-- Fields by name, and the ancestors they come from, nearest first. -/
structure Resolution where
  merged : List Field
  lineage : List String

/-- The fields of a type in the order they are shown, and its lineage. -/
structure ResolvedFields where
  fields : List Field
  lineage : List String

/-- Puts a field where the order of names wants it, in the place of one with the same name. -/
def insertField (field : Field) : List Field → List Field
  | [] => [field]
  | other :: rest =>
    if field.name < other.name then field :: other :: rest
    else if field.name = other.name then field :: rest
    else other :: insertField field rest

/-- Lays fields over others, of equal names the last. -/
def overlay (own merged : List Field) : List Field :=
  own.foldl (fun merged field => insertField field merged) merged

def Field.showsBefore (first second : Field) : Bool :=
  first.order < second.order || (first.order == second.order && first.name ≤ second.name)

namespace Resolution

def empty : Resolution :=
  ⟨[], []⟩

def toResolved (resolution : Resolution) : ResolvedFields :=
  ⟨resolution.merged.mergeSort Field.showsBefore, resolution.lineage⟩

/-- What the children of a type inherit. -/
def extend (resolution : Resolution) (id : String) : Resolution :=
  { resolution with lineage := id :: resolution.lineage }

end Resolution

namespace Hierarchy

/-- The type with an id, of several the last. -/
def type? (hierarchy : Hierarchy) (id : String) : Option EntityType :=
  hierarchy.types.reverse.find? (·.id == id)

/-- The parent of a type: a type of the same version. -/
def parent? (hierarchy : Hierarchy) (type : EntityType) : Option EntityType :=
  type.parentId.bind fun parentId =>
    (hierarchy.type? parentId).filter (·.versionId == type.versionId)

def overlayOwn (hierarchy : Hierarchy) (resolution : Resolution) (id : String) : Resolution :=
  { resolution with merged := overlay (hierarchy.own id) resolution.merged }

/-- The number of types that are not on a path. -/
def unvisited (hierarchy : Hierarchy) (path : List EntityType) : Nat :=
  (hierarchy.types.filter fun type => !path.any (·.id == type.id)).length

end Hierarchy

/-- The resolutions kept, each under the id of its type. -/
abbrev Memo :=
  List (String × Resolution)

def Memo.insert (memo : Memo) (id : String) (resolution : Resolution) : Memo :=
  (id, resolution) :: memo.filter (·.1 != id)

/-- Where the walk from a type through its ancestors ends. -/
inductive WalkEnd where
  | root
  | dangling (child : EntityType) (parentId : String)
  | cycle (ids : List String)
  | tooDeep
  | memoized (id : String) (resolution : Resolution)

namespace WalkEnd

/-- Whether the ancestors were followed to their end. -/
def isComplete : WalkEnd → Bool
  | root => true
  | dangling _ _ => true
  | memoized _ _ => true
  | cycle _ => false
  | tooDeep => false

/-- What is inherited from beyond the types walked. -/
def base : WalkEnd → Resolution
  | memoized id resolution => resolution.extend id
  | _ => .empty

def warning? (target : EntityType) (maxDepth : UInt64) : WalkEnd → Option Warning
  | dangling child parentId => some (.danglingParent child.id parentId)
  | cycle ids => some (.inheritanceCycle target.id ids)
  | tooDeep => some (.depthExceeded target.id maxDepth)
  | _ => none

end WalkEnd

/-- The types walked, the last one first, and why there is no more. -/
structure Walk where
  path : List EntityType
  ending : WalkEnd

namespace Hierarchy

/-- The ids from a type on the path to the end of it, and back to the type. -/
def cycleIds (path : List EntityType) (parent : EntityType) : List String :=
  (path.reverse.dropWhile (·.id != parent.id)).map (·.id) ++ [parent.id]

theorem mem_types_of_parent? {hierarchy : Hierarchy} {type parent : EntityType}
    (found : hierarchy.parent? type = some parent) : parent ∈ hierarchy.types := by
  simp only [parent?, Option.bind_eq_some_iff, Option.filter_eq_some_iff, type?] at found
  obtain ⟨_, _, found, _⟩ := found
  exact List.mem_reverse.mp (List.mem_of_find?_eq_some found)

theorem unvisited_lt {hierarchy : Hierarchy} {path : List EntityType} {parent : EntityType}
    (known : parent ∈ hierarchy.types) (fresh : path.any (·.id == parent.id) = false) :
    hierarchy.unvisited (parent :: path) < hierarchy.unvisited path := by
  have split : hierarchy.types.filter (fun type => !(parent :: path).any (·.id == type.id)) =
      (hierarchy.types.filter fun type => !path.any (·.id == type.id)).filter
        fun type => !(parent.id == type.id) := by
    rw [List.filter_filter]
    congr 1
    funext type
    simp [List.any_cons]
  unfold unvisited
  rw [split]
  refine List.length_filter_lt_length_iff_exists.mpr ⟨parent, ?_, by simp⟩
  simp [known, fresh]

/-- What was kept for an ancestor, where all that it inherits is within reach. -/
def reuse? (hierarchy : Hierarchy) (memo : Memo) (distance : Nat) (id : String) :
    Option Resolution :=
  (memo.lookup id).filter fun kept =>
    distance + kept.lineage.length ≤ hierarchy.maxDepth.toNat

/-- Goes on from `current`, the head of the path, to its ancestors. -/
def walkFrom (hierarchy : Hierarchy) (memo : Memo) (current : EntityType)
    (path : List EntityType) : Walk :=
  match current.parentId with
  | none => ⟨path, .root⟩
  | some parentId =>
    match found : hierarchy.parent? current with
    | none => ⟨path, .dangling current parentId⟩
    | some parent =>
      if onPath : path.any (·.id == parent.id) then ⟨path, .cycle (cycleIds path parent)⟩
      else
        match hierarchy.reuse? memo path.length parent.id with
        | some kept => ⟨path, .memoized parent.id kept⟩
        | none =>
          if hierarchy.maxDepth.toNat < path.length then ⟨path, .tooDeep⟩
          else
            have : hierarchy.unvisited (parent :: path) < hierarchy.unvisited path :=
              unvisited_lt (mem_types_of_parent? found) (Bool.eq_false_iff.mpr onPath)
            hierarchy.walkFrom memo parent (parent :: path)
termination_by hierarchy.unvisited path

def walk (hierarchy : Hierarchy) (memo : Memo) (target : EntityType) : Walk :=
  hierarchy.walkFrom memo target [target]

/-- Lays the fields of the types of a path over what is inherited, and keeps each result on the way
when the path is complete. -/
def fold (hierarchy : Hierarchy) (complete : Bool) :
    List EntityType → Resolution → Memo → Resolution × Memo
  | [], resolution, memo => (resolution, memo)
  | type :: rest, resolution, memo =>
    let resolution := hierarchy.overlayOwn resolution type.id
    let memo := if complete then memo.insert type.id resolution else memo
    if rest.isEmpty then (resolution, memo)
    else hierarchy.fold complete rest (resolution.extend type.id) memo

end Hierarchy

/-- What has been worked out and found out of order so far. -/
structure Resolver where
  memo : Memo := []
  warnings : List Warning := []

namespace Resolver

/-- Adds a warning, each of them once. -/
def record (resolver : Resolver) (warning : Warning) : Resolver :=
  if resolver.warnings.contains warning then resolver
  else { resolver with warnings := resolver.warnings ++ [warning] }

/-- The fields of the type with an id. A type that is not known has only its own. -/
def resolve (hierarchy : Hierarchy) (resolver : Resolver) (id : String) :
    ResolvedFields × Resolver :=
  match resolver.memo.lookup id with
  | some kept => (kept.toResolved, resolver)
  | none =>
    match hierarchy.type? id with
    | none => ((hierarchy.overlayOwn .empty id).toResolved, resolver)
    | some target =>
      let walk := hierarchy.walk resolver.memo target
      let (resolution, memo) :=
        hierarchy.fold walk.ending.isComplete walk.path walk.ending.base resolver.memo
      let resolver := { resolver with memo }
      let resolver :=
        match walk.ending.warning? target hierarchy.maxDepth with
        | some warning => resolver.record warning
        | none => resolver
      (resolution.toResolved, resolver)

end Resolver

end KnowledgeSchema
