import KnowledgeSchema.Artifact.Basic

/-!
# Navigation between types

The positions of parents and children among the entity types of an artifact, worked out from the
parents' ids.
-/

namespace KnowledgeSchema

/-- The position of the last type with an id. -/
def lastPosition? (id : String) (types : List EffectiveType) : Option Nat :=
  types.zipIdx.foldl (fun found (type, position) =>
    if type.id = id then some position else found) none

/-- The position of the parent of the type at `position`. A type is no parent of itself. -/
def parentPosition? (types : List EffectiveType) (position : Nat) (type : EffectiveType) :
    Option Nat :=
  type.definition.parentId.bind fun parentId =>
    (lastPosition? parentId types).filter (· != position)

/-- The type without positions of other types, as it is read from a document. -/
def EffectiveType.detached (type : EffectiveType) : EffectiveType :=
  { type with parent := none, children := [] }

namespace Artifact

/-- Links the type at `child` with its parent, if it has one: the child gets the position of the
parent, and the parent lists the child after those it has. -/
def link (types : List EffectiveType) (child : Nat) : Option Nat → List EffectiveType
  | none => types
  | some parent =>
    (types.modify child fun type => { type with parent := some parent }).modify parent
      fun type => { type with children := type.children ++ [child] }

/-- The artifact with the positions that follow from the parents' ids, whatever they were: all are
taken away, and then one type after another is linked with its parent. -/
def rebuildNavigation (artifact : Artifact) : Artifact :=
  let types := artifact.entityTypes
  { artifact with
    entityTypes := types.zipIdx.foldl
      (fun linked (type, child) => link linked child (parentPosition? types child type))
      (types.map EffectiveType.detached) }

def parentOf? (artifact : Artifact) (position : Nat) : Option EffectiveType := do
  let type ← artifact.entityTypes[position]?
  artifact.entityTypes[← type.parent]?

def childrenOf (artifact : Artifact) (position : Nat) : List EffectiveType :=
  match artifact.entityTypes[position]? with
  | some type => type.children.filterMap (artifact.entityTypes[·]?)
  | none => []

end Artifact

end KnowledgeSchema
