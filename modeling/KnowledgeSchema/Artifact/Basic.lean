import KnowledgeSchema.Blueprint.Basic
import KnowledgeSchema.Blueprint.Version
import KnowledgeSchema.Definition.Set
import KnowledgeSchema.Inheritance.Warning

/-!
# Artifacts

A version of a blueprint with inheritance worked out and everything in its place.
-/

namespace KnowledgeSchema

/-- An entity type with all the fields that it has, and the ancestors they come from, nearest
first. The positions of its parent and its children among the types of the artifact are not part of
the document. -/
structure EffectiveType where
  definition : EntityType
  fields : List Field
  lineage : List String
  parent : Option Nat := none
  children : List Nat := []

namespace EffectiveType

def id (type : EffectiveType) : String :=
  type.definition.id

def kind (type : EffectiveType) : EntityKind :=
  type.definition.kind

def field? (type : EffectiveType) (name : String) : Option Field :=
  type.fields.find? (·.name == name)

def isInherited (type : EffectiveType) (name : String) : Bool :=
  (type.field? name).any (·.entityTypeId != type.id)

def ownFields (type : EffectiveType) : List Field :=
  type.fields.filter (·.entityTypeId == type.id)

def ownMembers :=
  (.field "fields" (.list Field.codec) fields none <|
    .field "lineage" (.list .text) lineage none .done
    : Fields EffectiveType (EntityType → EffectiveType) _)

def codec : Codec EffectiveType :=
  .extended "CompiledEntityType" EntityType.fields EntityType.mk ownMembers
    (fun fields lineage definition => { definition, fields, lineage }) definition

end EffectiveType

structure EffectiveRelationship where
  definition : RelationshipType
  attributes : List RelationshipAttribute

namespace EffectiveRelationship

def ownMembers :=
  (.field "attributes" (.list RelationshipAttribute.codec) attributes none .done
    : Fields EffectiveRelationship (RelationshipType → EffectiveRelationship) _)

def codec : Codec EffectiveRelationship :=
  .extended "CompiledRelationshipType" RelationshipType.fields RelationshipType.mk ownMembers
    (fun attributes definition => { definition, attributes }) definition

end EffectiveRelationship

structure EffectiveProfile where
  definition : ExtractionProfile
  labelMappings : List LabelMapping
  ignoreEntries : List IgnoreEntry

namespace EffectiveProfile

def ownMembers :=
  (.field "label_mappings" (.list LabelMapping.codec) labelMappings none <|
    .field "ignore_list" (.list IgnoreEntry.codec) ignoreEntries none .done
    : Fields EffectiveProfile (ExtractionProfile → EffectiveProfile) _)

def codec : Codec EffectiveProfile :=
  .extended "CompiledExtractionProfile" ExtractionProfile.fields ExtractionProfile.mk ownMembers
    (fun labelMappings ignoreEntries definition => { definition, labelMappings, ignoreEntries })
    definition

end EffectiveProfile

structure Artifact where
  blueprint : Blueprint
  version : Version
  entityTypes : List EffectiveType
  relationshipTypes : List EffectiveRelationship
  viewTemplates : List ViewTemplate
  mapsOfContent : List MapOfContent
  profile : Option EffectiveProfile
  fingerprint : String
  diagnostics : List Warning

namespace Artifact

def fields :=
  (.field "meta" Blueprint.codec blueprint none <|
    .field "version" Version.codec version none <|
    .field "entity_types" (.list EffectiveType.codec) entityTypes none <|
    .field "relationship_types" (.list EffectiveRelationship.codec) relationshipTypes none <|
    .field "view_templates" (.list ViewTemplate.codec) viewTemplates none <|
    .field "mocs" (.list MapOfContent.codec) mapsOfContent none <|
    .field "extraction_profile" (.optional EffectiveProfile.codec) profile none <|
    .field "fingerprint" .text fingerprint none <|
    .field "diagnostics" (.list Warning.codec) diagnostics none .done : Fields Artifact Artifact _)

def codec : Codec Artifact :=
  .record "CompiledBlueprint" false fields mk

/-! ## Looking things up -/

def entityType? (artifact : Artifact) (id : String) : Option EffectiveType :=
  artifact.entityTypes.find? (·.id == id)

/-- The first entity type of a kind. -/
def entityTypeOf? (artifact : Artifact) (kind : EntityKind) : Option EffectiveType :=
  artifact.entityTypes.find? (·.kind == kind)

/-- The relationship types with a kind at either end. -/
def relationshipTypesOf (artifact : Artifact) (kind : EntityKind) : List EffectiveRelationship :=
  artifact.relationshipTypes.filter fun relationship =>
    relationship.definition.source == kind || relationship.definition.target == kind

/-- The entity types that entities may be of. -/
def concreteTypes (artifact : Artifact) : List EffectiveType :=
  artifact.entityTypes.filter (!·.definition.isAbstract)

end Artifact

end KnowledgeSchema
