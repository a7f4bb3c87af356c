import KnowledgeSchema.Artifact.Fingerprint
import KnowledgeSchema.Artifact.Navigation
import KnowledgeSchema.Inheritance.Resolver
import KnowledgeSchema.Operation.Content

/-!
# Compiling a version

The artifact of a version, worked out from its content. Only a version or a blueprint that is not
there keeps a version from being compiled. Everything else that is out of order is told as a
diagnostic.
-/

namespace KnowledgeSchema

namespace Content

def types (content : Content) : List EntityType :=
  content.entityTypes.map (·.1)

/-- The fields read for a type, of several with its id the last. -/
def fieldsOf (content : Content) (id : String) : List Field :=
  match content.entityTypes.reverse.find? (·.1.id == id) with
  | some (_, fields) => fields
  | none => []

def hierarchy (content : Content) (maxDepth : UInt64) : Hierarchy where
  types := content.types
  own := content.fieldsOf
  maxDepth := maxDepth

/-- Resolves types one after another. -/
def resolveTypes (hierarchy : Hierarchy) :
    Resolver → List EntityType → List EffectiveType × Resolver
  | resolver, [] => ([], resolver)
  | resolver, type :: rest =>
    let (resolved, resolver) := resolver.resolve hierarchy type.id
    let (effective, resolver) := resolveTypes hierarchy resolver rest
    ({ definition := type, fields := resolved.fields, lineage := resolved.lineage } :: effective,
      resolver)

/-- The relationship type with the attributes that are its own. -/
def effectiveRelationship (relationship : RelationshipType)
    (attributes : List RelationshipAttribute) : EffectiveRelationship where
  definition := relationship
  attributes := attributes.filter (·.relationshipTypeId == relationship.id)

/-- The kinds that a relationship type joins, each of them once. -/
def endpoints (relationship : RelationshipType) : List EntityKind :=
  if relationship.target = relationship.source then [relationship.source]
  else [relationship.source, relationship.target]

/-- Attributes of others, then kinds that no type has. -/
def relationshipWarnings (kinds : List EntityKind) (relationship : RelationshipType)
    (attributes : List RelationshipAttribute) : List Warning :=
  (attributes.filter (·.relationshipTypeId != relationship.id)).map
      (fun attr => .orphanedAttribute attr.id relationship.id) ++
    ((endpoints relationship).filter (!kinds.contains ·)).map (.unknownEndpoint relationship.id)

/-- The artifact of a version with some content. -/
def assemble (content : Content) (blueprint : Blueprint) (version : Version)
    (maxDepth : UInt64) : Artifact :=
  let (entityTypes, resolver) := resolveTypes (content.hierarchy maxDepth) {} content.types
  let kinds := content.types.map (·.kind)
  let artifact : Artifact :=
    { blueprint, version, entityTypes
      relationshipTypes := content.relationships.map fun (relationship, attributes) =>
        effectiveRelationship relationship attributes
      viewTemplates := content.viewTemplates
      mapsOfContent := content.mapsOfContent
      profile := content.profile
      fingerprint := ""
      diagnostics := resolver.warnings ++
        content.relationships.flatMap fun (relationship, attributes) =>
          relationshipWarnings kinds relationship attributes }
  artifact.rebuildNavigation.fingerprinted

end Content

namespace Operation

/-- Compiles a version, each call of the store within a limit. -/
def compile (maxDepth : UInt64) (limit : Option Nat) (versionId : String) : Operation Artifact := do
  let some version ← callWithin limit (.getVersion versionId)
    | throw (.versionNotFound versionId)
  let some blueprint ← callWithin limit (.getBlueprint version.blueprintId)
    | throw (.blueprintNotFound version.blueprintId)
  let content ← readContent limit version.id
  return content.assemble blueprint version maxDepth

end Operation

end KnowledgeSchema
