import KnowledgeSchema.Blueprint.Basic
import KnowledgeSchema.Blueprint.Version
import KnowledgeSchema.Definition.Set

/-!
# Stored rows

Blueprints, versions and definitions as a store keeps them. Kinds, data types, timestamps and JSON
are kept as texts and read again whenever a row is read, so a row may hold a text that has no
meaning.
-/

namespace KnowledgeSchema

structure BlueprintRow where
  id : String
  name : String
  description : Option String
  tags : String
  isSystem : Bool
  createdAt : String
  updatedAt : String

structure VersionRow where
  id : String
  blueprintId : String
  number : Int64
  status : Status
  notes : Option String
  createdAt : String
  publishedAt : Option String

structure EntityTypeRow where
  id : String
  versionId : String
  kind : String
  displayName : String
  description : Option String
  parentId : Option String
  isAbstract : Bool

structure FieldRow where
  id : String
  entityTypeId : String
  name : String
  label : String
  dataType : String
  isRequired : Bool
  order : Int64
  default : Option String
  validation : Option String

structure RelationshipTypeRow where
  id : String
  versionId : String
  name : String
  label : String
  source : String
  target : String
  direction : Direction
  cardinality : Cardinality
  reverseLabel : Option String

structure AttributeRow where
  id : String
  relationshipTypeId : String
  name : String
  dataType : String
  isRequired : Bool

structure ViewTemplateRow where
  id : String
  versionId : String
  name : String
  kind : Option String
  config : String

structure MapOfContentRow where
  id : String
  versionId : String
  name : String
  kinds : String
  config : String

structure ProfileRow where
  id : String
  versionId : String
  name : String
  enabled : Bool
  threshold : Double

structure LabelMappingRow where
  id : String
  profileId : String
  label : String
  kind : String
  priority : Int64

structure IgnoreEntryRow where
  id : String
  profileId : String
  term : String
  caseSensitive : Bool

/-! ## Rows of values -/

def Blueprint.toRow (blueprint : Blueprint) : BlueprintRow where
  id := blueprint.id
  name := blueprint.name
  description := blueprint.description
  tags := Codec.textSet.write blueprint.tags
  isSystem := blueprint.isSystem
  createdAt := blueprint.createdAt.storedText
  updatedAt := blueprint.updatedAt.storedText

def Version.toRow (version : Version) : VersionRow where
  id := version.id
  blueprintId := version.blueprintId
  number := version.number
  status := version.status
  notes := version.notes
  createdAt := version.createdAt.storedText
  publishedAt := version.publishedAt.map Timestamp.storedText

def EntityType.toRow (type : EntityType) : EntityTypeRow where
  id := type.id
  versionId := type.versionId
  kind := type.kind.text
  displayName := type.displayName
  description := type.description
  parentId := type.parentId
  isAbstract := type.isAbstract

def Field.toRow (field : Field) : FieldRow where
  id := field.id
  entityTypeId := field.entityTypeId
  name := field.name
  label := field.label
  dataType := field.dataType.name
  isRequired := field.isRequired
  order := field.order
  default := field.default
  validation := field.validation.map Json.text

def RelationshipType.toRow (type : RelationshipType) : RelationshipTypeRow where
  id := type.id
  versionId := type.versionId
  name := type.name
  label := type.label
  source := type.source.text
  target := type.target.text
  direction := type.direction
  cardinality := type.cardinality
  reverseLabel := type.reverseLabel

def RelationshipAttribute.toRow (attr : RelationshipAttribute) : AttributeRow where
  id := attr.id
  relationshipTypeId := attr.relationshipTypeId
  name := attr.name
  dataType := attr.dataType.name
  isRequired := attr.isRequired

def ViewTemplate.toRow (view : ViewTemplate) : ViewTemplateRow where
  id := view.id
  versionId := view.versionId
  name := view.name
  kind := view.kind.map EntityKind.text
  config := view.config.text

def MapOfContent.toRow (map : MapOfContent) : MapOfContentRow where
  id := map.id
  versionId := map.versionId
  name := map.name
  kinds := (Codec.list EntityKind.codec).write map.kinds
  config := map.config.text

/-- A store keeps a threshold of zero without its sign. -/
def ExtractionProfile.toRow (profile : ExtractionProfile) : ProfileRow where
  id := profile.id
  versionId := profile.versionId
  name := profile.name
  enabled := profile.enabled
  threshold := profile.threshold.dropZeroSign

def LabelMapping.toRow (mapping : LabelMapping) : LabelMappingRow where
  id := mapping.id
  profileId := mapping.profileId
  label := mapping.label
  kind := mapping.kind.text
  priority := mapping.priority

def IgnoreEntry.toRow (entry : IgnoreEntry) : IgnoreEntryRow where
  id := entry.id
  profileId := entry.profileId
  term := entry.term
  caseSensitive := entry.caseSensitive

/-! ## Values of rows -/

def readTime (column : TimeColumn) (text : String) : Except Failure Timestamp :=
  match Timestamp.ofStoredText? text with
  | some time => .ok time
  | none => .error (.other (.invalidTime column text))

def readJson {α : Type} (codec : Codec α) (text : String) : Except Failure α :=
  match codec.parse text with
  | .ok value => .ok value
  | .error flaw => .error (.serialization flaw)

def readOptional {α : Type} (read : String → Except Failure α) :
    Option String → Except Failure (Option α)
  | none => .ok none
  | some text => some <$> read text

def BlueprintRow.toBlueprint (row : BlueprintRow) : Except Failure Blueprint := do
  let tags ← readJson .textSet row.tags
  let createdAt ← readTime .createdAt row.createdAt
  let updatedAt ← readTime .updatedAt row.updatedAt
  .ok
    { id := row.id, name := row.name, description := row.description, tags,
      isSystem := row.isSystem, createdAt, updatedAt }

def VersionRow.toVersion (row : VersionRow) : Except Failure Version := do
  let publishedAt ← readOptional (readTime .publishedAt) row.publishedAt
  let createdAt ← readTime .createdAt row.createdAt
  .ok
    { id := row.id, blueprintId := row.blueprintId, number := row.number, status := row.status,
      notes := row.notes, createdAt, publishedAt }

def EntityTypeRow.toDefinition (row : EntityTypeRow) : EntityType where
  id := row.id
  versionId := row.versionId
  kind := EntityKind.parse row.kind
  displayName := row.displayName
  description := row.description
  parentId := row.parentId
  isAbstract := row.isAbstract

def FieldRow.toDefinition (row : FieldRow) : Except Failure Field := do
  let validation ← readOptional (readJson .free) row.validation
  .ok
    { id := row.id, entityTypeId := row.entityTypeId, name := row.name, label := row.label,
      dataType := DataType.parse row.dataType, isRequired := row.isRequired, order := row.order,
      default := row.default, validation }

def RelationshipTypeRow.toDefinition (row : RelationshipTypeRow) : RelationshipType where
  id := row.id
  versionId := row.versionId
  name := row.name
  label := row.label
  source := EntityKind.parse row.source
  target := EntityKind.parse row.target
  direction := row.direction
  cardinality := row.cardinality
  reverseLabel := row.reverseLabel

def AttributeRow.toDefinition (row : AttributeRow) : RelationshipAttribute where
  id := row.id
  relationshipTypeId := row.relationshipTypeId
  name := row.name
  dataType := DataType.parse row.dataType
  isRequired := row.isRequired

def ViewTemplateRow.toDefinition (row : ViewTemplateRow) : Except Failure ViewTemplate := do
  let config ← readJson .free row.config
  .ok
    { id := row.id, versionId := row.versionId, name := row.name,
      kind := row.kind.map EntityKind.parse, config }

def MapOfContentRow.toDefinition (row : MapOfContentRow) : Except Failure MapOfContent := do
  let kinds ← readJson (.list EntityKind.codec) row.kinds
  let config ← readJson .free row.config
  .ok { id := row.id, versionId := row.versionId, name := row.name, kinds, config }

def ProfileRow.toDefinition (row : ProfileRow) : ExtractionProfile where
  id := row.id
  versionId := row.versionId
  name := row.name
  enabled := row.enabled
  threshold := row.threshold

def LabelMappingRow.toDefinition (row : LabelMappingRow) : LabelMapping where
  id := row.id
  profileId := row.profileId
  label := row.label
  kind := EntityKind.parse row.kind
  priority := row.priority

def IgnoreEntryRow.toDefinition (row : IgnoreEntryRow) : IgnoreEntry where
  id := row.id
  profileId := row.profileId
  term := row.term
  caseSensitive := row.caseSensitive

end KnowledgeSchema
