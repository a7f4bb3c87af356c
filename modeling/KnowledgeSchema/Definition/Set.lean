import KnowledgeSchema.Definition.Entity
import KnowledgeSchema.Definition.Extraction
import KnowledgeSchema.Definition.Relationship
import KnowledgeSchema.Definition.View

/-!
# Sets of definitions

The definitions of a version as one unit, and as a list in which every owner comes before what it
owns.
-/

namespace KnowledgeSchema

/-- A definition of any sort. -/
inductive Definition where
  | entityType (definition : EntityType)
  | field (definition : Field)
  | relationshipType (definition : RelationshipType)
  | relationshipAttribute (definition : RelationshipAttribute)
  | viewTemplate (definition : ViewTemplate)
  | mapOfContent (definition : MapOfContent)
  | profile (definition : ExtractionProfile)
  | labelMapping (definition : LabelMapping)
  | ignoreEntry (definition : IgnoreEntry)

structure DefinitionSet where
  entityTypes : List EntityType := []
  fields : List Field := []
  relationshipTypes : List RelationshipType := []
  attributes : List RelationshipAttribute := []
  viewTemplates : List ViewTemplate := []
  mapsOfContent : List MapOfContent := []
  profile : Option ExtractionProfile := none
  labelMappings : List LabelMapping := []
  ignoreEntries : List IgnoreEntry := []

namespace DefinitionSet

/-- All definitions, owners first. -/
def definitions (set : DefinitionSet) : List Definition :=
  set.entityTypes.map .entityType ++ set.fields.map .field ++
    set.relationshipTypes.map .relationshipType ++ set.attributes.map .relationshipAttribute ++
    set.viewTemplates.map .viewTemplate ++ set.mapsOfContent.map .mapOfContent ++
    set.profile.toList.map .profile ++ set.labelMappings.map .labelMapping ++
    set.ignoreEntries.map .ignoreEntry

end DefinitionSet

end KnowledgeSchema
