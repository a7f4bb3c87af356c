import KnowledgeSchema.Program

/-!
# The content of a version

All definitions of a version as they are read from a store, each under its owner, and a copy of
them for another version.
-/

namespace KnowledgeSchema

structure Content where
  entityTypes : List (EntityType × List Field)
  relationships : List (RelationshipType × List RelationshipAttribute)
  viewTemplates : List ViewTemplate
  mapsOfContent : List MapOfContent
  profile : Option EffectiveProfile

namespace Operation

def withFields (limit : Option Nat) (type : EntityType) : Operation (EntityType × List Field) := do
  return (type, ← callWithin limit (.listFields type.id))

def withAttributes (limit : Option Nat) (relationship : RelationshipType) :
    Operation (RelationshipType × List RelationshipAttribute) := do
  return (relationship, ← callWithin limit (.listAttributes relationship.id))

def withLists (limit : Option Nat) (profile : ExtractionProfile) : Operation EffectiveProfile := do
  let labelMappings ← callWithin limit (.listLabelMappings profile.id)
  let ignoreEntries ← callWithin limit (.listIgnoreEntries profile.id)
  return { definition := profile, labelMappings, ignoreEntries }

/-- Reads the content of a version, each call within a limit. -/
def readContent (limit : Option Nat) (versionId : String) : Operation Content := do
  let types ← callWithin limit (.listEntityTypes versionId)
  let entityTypes ← types.mapM (withFields limit)
  let relationshipTypes ← callWithin limit (.listRelationshipTypes versionId)
  let relationships ← relationshipTypes.mapM (withAttributes limit)
  let viewTemplates ← callWithin limit (.listViewTemplates versionId)
  let mapsOfContent ← callWithin limit (.listMapsOfContent versionId)
  let profile ← callWithin limit (.getProfile versionId)
  let profile ← profile.mapM (withLists limit)
  return { entityTypes, relationships, viewTemplates, mapsOfContent, profile }

end Operation

/-! ## Copies -/

namespace Content

def typeSize : EntityType × List Field → Nat
  | (_, fields) => 1 + fields.length

def relationshipSize : RelationshipType × List RelationshipAttribute → Nat
  | (_, attributes) => 1 + attributes.length

def profileSize (profile : EffectiveProfile) : Nat :=
  1 + profile.labelMappings.length + profile.ignoreEntries.length

def placedTypes (content : Content) : List (Nat × EntityType × List Field) :=
  withOffsets typeSize 0 content.entityTypes

def relationshipStart (content : Content) : Nat :=
  totalSize typeSize content.entityTypes

def placedRelationships (content : Content) :
    List (Nat × RelationshipType × List RelationshipAttribute) :=
  withOffsets relationshipSize content.relationshipStart content.relationships

def viewStart (content : Content) : Nat :=
  content.relationshipStart + totalSize relationshipSize content.relationships

def mapStart (content : Content) : Nat :=
  content.viewStart + content.viewTemplates.length

def profileStart (content : Content) : Nat :=
  content.mapStart + content.mapsOfContent.length

/-- The number of ids that a copy takes. -/
def idCount (content : Content) : Nat :=
  content.profileStart + (content.profile.map profileSize).getD 0

/-- The id that the copy of a type has. An id that is no type of the content stays as it is. -/
def copiedTypeId (content : Content) (ids : Ids) (id : String) : String :=
  match content.placedTypes.find? (·.2.1.id == id) with
  | some (position, _) => ids position
  | none => id

def copiedTypes (content : Content) (ids : Ids) (versionId : String) : List EntityType :=
  content.placedTypes.map fun (position, type, _) =>
    { type with
      id := ids position, versionId, parentId := type.parentId.map (content.copiedTypeId ids) }

def copiedFields (content : Content) (ids : Ids) : List Field :=
  content.placedTypes.flatMap fun (position, _, fields) =>
    fields.zipIdx.map fun (field, place) =>
      { field with id := ids (position + 1 + place), entityTypeId := ids position }

def copiedRelationships (content : Content) (ids : Ids) (versionId : String) :
    List RelationshipType :=
  content.placedRelationships.map fun (position, relationship, _) =>
    { relationship with id := ids position, versionId }

def copiedAttributes (content : Content) (ids : Ids) : List RelationshipAttribute :=
  content.placedRelationships.flatMap fun (position, _, attributes) =>
    attributes.zipIdx.map fun (attr, place) =>
      { attr with id := ids (position + 1 + place), relationshipTypeId := ids position }

def copiedViews (content : Content) (ids : Ids) (versionId : String) : List ViewTemplate :=
  content.viewTemplates.zipIdx.map fun (view, place) =>
    { view with id := ids (content.viewStart + place), versionId }

def copiedMaps (content : Content) (ids : Ids) (versionId : String) : List MapOfContent :=
  content.mapsOfContent.zipIdx.map fun (map, place) =>
    { map with id := ids (content.mapStart + place), versionId }

def copiedMappings (content : Content) (ids : Ids) : List LabelMapping :=
  content.profile.toList.flatMap fun profile =>
    profile.labelMappings.zipIdx.map fun (mapping, place) =>
      { mapping with
        id := ids (content.profileStart + 1 + place), profileId := ids content.profileStart }

def copiedEntries (content : Content) (ids : Ids) : List IgnoreEntry :=
  content.profile.toList.flatMap fun profile =>
    profile.ignoreEntries.zipIdx.map fun (entry, place) =>
      { entry with
        id := ids (content.profileStart + 1 + profile.labelMappings.length + place)
        profileId := ids content.profileStart }

/-- The same definitions for another version, under ids of their own. -/
def copy (content : Content) (ids : Ids) (versionId : String) : DefinitionSet where
  entityTypes := content.copiedTypes ids versionId
  fields := content.copiedFields ids
  relationshipTypes := content.copiedRelationships ids versionId
  attributes := content.copiedAttributes ids
  viewTemplates := content.copiedViews ids versionId
  mapsOfContent := content.copiedMaps ids versionId
  profile := content.profile.map fun profile =>
    { profile.definition with id := ids content.profileStart, versionId }
  labelMappings := content.copiedMappings ids
  ignoreEntries := content.copiedEntries ids

end Content

end KnowledgeSchema
