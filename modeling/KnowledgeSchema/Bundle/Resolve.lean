import KnowledgeSchema.Bundle.Basic
import KnowledgeSchema.Failure

/-!
# Definitions of a bundle

The definitions that a bundle stands for in a version. Each item takes the next of a sequence of
ids, in the order of the bundle, and what is nested under it refers to it by that id.
-/

namespace KnowledgeSchema

/-- The ids that are given out, by position. -/
abbrev Ids :=
  Nat → String

/-- Each item with the number of ids taken before it, when it takes `size` of them itself. -/
def withOffsets {α : Type} (size : α → Nat) : Nat → List α → List (Nat × α)
  | _, [] => []
  | start, item :: rest => (start, item) :: withOffsets size (start + size item) rest

/-- The number of ids that a list takes. -/
def totalSize {α : Type} (size : α → Nat) (items : List α) : Nat :=
  items.foldr (fun item total => size item + total) 0

namespace BundledType

/-- One for the type and one for each of its fields. -/
def idCount (type : BundledType) : Nat :=
  1 + type.members.length

def toDefinition (type : BundledType) (id versionId : String) (parentId : Option String) :
    EntityType :=
  { EntityType.new id versionId type.kind with
    displayName := type.displayName.getD type.kind.text
    description := type.description
    parentId := parentId
    isAbstract := type.isAbstract }

end BundledType

namespace BundledField

/-- A field without an order stands where it stands in its list. -/
def toDefinition (field : BundledField) (id entityTypeId : String) (position : Nat) : Field :=
  { Field.new id entityTypeId field.name field.dataType with
    label := field.label.getD field.name
    isRequired := field.isRequired
    order := field.order.getD (Int64.ofNat position)
    default := field.default
    validation := field.validation }

end BundledField

namespace BundledRelationship

def idCount (relationship : BundledRelationship) : Nat :=
  1 + relationship.attributes.length

def toDefinition (relationship : BundledRelationship) (id versionId : String) : RelationshipType :=
  { RelationshipType.new id versionId relationship.name relationship.source relationship.target with
    label := relationship.label.getD relationship.name
    direction := relationship.direction
    cardinality := relationship.cardinality
    reverseLabel := relationship.reverseLabel }

end BundledRelationship

def BundledAttribute.toDefinition (attr : BundledAttribute) (id relationshipTypeId : String) :
    RelationshipAttribute :=
  { RelationshipAttribute.new id relationshipTypeId attr.name attr.dataType with
    isRequired := attr.isRequired }

namespace BundledProfile

def idCount (profile : BundledProfile) : Nat :=
  1 + profile.mappings.length + profile.ignored.length

def toDefinition (profile : BundledProfile) (id versionId : String) : ExtractionProfile :=
  { (ExtractionProfile.new id versionId profile.name).withThreshold profile.threshold with
    enabled := profile.enabled }

end BundledProfile

namespace Bundle

/-- The first kind that an earlier type of the bundle has too. -/
def repeatedKind? : List EntityKind → List EntityKind → Option EntityKind
  | _, [] => none
  | seen, kind :: rest => if kind ∈ seen then some kind else repeatedKind? (kind :: seen) rest

def kinds (bundle : Bundle) : List EntityKind :=
  bundle.entityTypes.map (·.kind)

/-- The first type whose parent is no type of the bundle, and that parent. -/
def unknownParent? (bundle : Bundle) : Option (EntityKind × EntityKind) :=
  bundle.entityTypes.findSome? fun type =>
    (type.parent.filter (!bundle.kinds.contains ·)).map fun parent => (type.kind, parent)

/-- A bundle has a meaning when its kinds are distinct and its parents are among them. -/
def check (bundle : Bundle) : Except Failure Unit :=
  match repeatedKind? [] bundle.kinds with
  | some kind => .error (.invalidInput (.repeatedKind kind.text))
  | none =>
    match bundle.unknownParent? with
    | some (kind, parent) => .error (.invalidInput (.unknownParent kind.text parent.text))
    | none => .ok ()

/-! ## Positions of ids -/

def placedTypes (bundle : Bundle) : List (Nat × BundledType) :=
  withOffsets BundledType.idCount 0 bundle.entityTypes

def relationshipStart (bundle : Bundle) : Nat :=
  totalSize BundledType.idCount bundle.entityTypes

def placedRelationships (bundle : Bundle) : List (Nat × BundledRelationship) :=
  withOffsets BundledRelationship.idCount bundle.relationshipStart bundle.relationships

def viewStart (bundle : Bundle) : Nat :=
  bundle.relationshipStart + totalSize BundledRelationship.idCount bundle.relationships

def mapStart (bundle : Bundle) : Nat :=
  bundle.viewStart + bundle.views.length

def profileStart (bundle : Bundle) : Nat :=
  bundle.mapStart + bundle.maps.length

/-- The number of ids that the definitions take. -/
def idCount (bundle : Bundle) : Nat :=
  bundle.profileStart + (bundle.profile.map BundledProfile.idCount).getD 0

/-- The id of the type of a kind. -/
def idOfKind? (bundle : Bundle) (ids : Ids) (kind : EntityKind) : Option String :=
  (bundle.placedTypes.find? (·.2.kind == kind)).map fun (position, _) => ids position

/-! ## Definitions -/

def resolvedTypes (bundle : Bundle) (ids : Ids) (versionId : String) : List EntityType :=
  bundle.placedTypes.map fun (position, type) =>
    type.toDefinition (ids position) versionId (type.parent.bind (bundle.idOfKind? ids))

def resolvedFields (bundle : Bundle) (ids : Ids) : List Field :=
  bundle.placedTypes.flatMap fun (position, type) =>
    type.members.zipIdx.map fun (field, place) =>
      field.toDefinition (ids (position + 1 + place)) (ids position) place

def resolvedRelationships (bundle : Bundle) (ids : Ids) (versionId : String) :
    List RelationshipType :=
  bundle.placedRelationships.map fun (position, relationship) =>
    relationship.toDefinition (ids position) versionId

def resolvedAttributes (bundle : Bundle) (ids : Ids) : List RelationshipAttribute :=
  bundle.placedRelationships.flatMap fun (position, relationship) =>
    relationship.attributes.zipIdx.map fun (attr, place) =>
      attr.toDefinition (ids (position + 1 + place)) (ids position)

def resolvedViews (bundle : Bundle) (ids : Ids) (versionId : String) : List ViewTemplate :=
  bundle.views.zipIdx.map fun (view, place) =>
    { id := ids (bundle.viewStart + place), versionId, name := view.name, kind := view.kind,
      config := view.config }

def resolvedMaps (bundle : Bundle) (ids : Ids) (versionId : String) : List MapOfContent :=
  bundle.maps.zipIdx.map fun (map, place) =>
    { id := ids (bundle.mapStart + place), versionId, name := map.name, kinds := map.kinds,
      config := map.config }

def resolvedMappings (bundle : Bundle) (ids : Ids) : List LabelMapping :=
  bundle.profile.toList.flatMap fun profile =>
    profile.mappings.zipIdx.map fun (mapping, place) =>
      { id := ids (bundle.profileStart + 1 + place), profileId := ids bundle.profileStart,
        label := mapping.label, kind := mapping.kind, priority := mapping.priority }

def resolvedTerms (bundle : Bundle) (ids : Ids) : List IgnoreEntry :=
  bundle.profile.toList.flatMap fun profile =>
    profile.ignored.zipIdx.map fun (term, place) =>
      { id := ids (bundle.profileStart + 1 + profile.mappings.length + place),
        profileId := ids bundle.profileStart, term := term.term,
        caseSensitive := term.caseSensitive }

def definitions (bundle : Bundle) (ids : Ids) (versionId : String) : DefinitionSet where
  entityTypes := bundle.resolvedTypes ids versionId
  fields := bundle.resolvedFields ids
  relationshipTypes := bundle.resolvedRelationships ids versionId
  attributes := bundle.resolvedAttributes ids
  viewTemplates := bundle.resolvedViews ids versionId
  mapsOfContent := bundle.resolvedMaps ids versionId
  profile := bundle.profile.map (·.toDefinition (ids bundle.profileStart) versionId)
  labelMappings := bundle.resolvedMappings ids
  ignoreEntries := bundle.resolvedTerms ids

/-- The definitions of a bundle that has a meaning. -/
def resolve (bundle : Bundle) (ids : Ids) (versionId : String) : Except Failure DefinitionSet := do
  bundle.check
  .ok (bundle.definitions ids versionId)

end Bundle

/-- How many definitions of each sort an import wrote. -/
structure ImportSummary where
  entityTypes : Nat
  fields : Nat
  relationshipTypes : Nat
  attributes : Nat
  viewTemplates : Nat
  mapsOfContent : Nat
  hasProfile : Bool
  labelMappings : Nat
  ignoreEntries : Nat

namespace ImportSummary

def of (set : DefinitionSet) : ImportSummary where
  entityTypes := set.entityTypes.length
  fields := set.fields.length
  relationshipTypes := set.relationshipTypes.length
  attributes := set.attributes.length
  viewTemplates := set.viewTemplates.length
  mapsOfContent := set.mapsOfContent.length
  hasProfile := set.profile.isSome
  labelMappings := set.labelMappings.length
  ignoreEntries := set.ignoreEntries.length

def toJson (summary : ImportSummary) : Json :=
  .obj [("entity_types", .int summary.entityTypes), ("fields", .int summary.fields),
    ("relationship_types", .int summary.relationshipTypes),
    ("attributes", .int summary.attributes), ("view_templates", .int summary.viewTemplates),
    ("mocs", .int summary.mapsOfContent), ("extraction_profile", .bool summary.hasProfile),
    ("label_mappings", .int summary.labelMappings),
    ("ignore_entries", .int summary.ignoreEntries)]

end ImportSummary

end KnowledgeSchema
