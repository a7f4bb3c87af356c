import KnowledgeSchema.Definition.DataType
import KnowledgeSchema.Definition.Kind
import KnowledgeSchema.Json.Record

/-!
# Entity types and their fields

An entity type belongs to a version and may have one parent in the same version. Its fields are
told apart by name: a field takes the place of an inherited one of the same name.
-/

namespace KnowledgeSchema

structure EntityType where
  id : String
  versionId : String
  kind : EntityKind
  displayName : String
  description : Option String
  parentId : Option String
  isAbstract : Bool

namespace EntityType

/-- A concrete type without a parent, shown under its kind. -/
def new (id versionId : String) (kind : EntityKind) : EntityType where
  id := id
  versionId := versionId
  kind := kind
  displayName := kind.text
  description := none
  parentId := none
  isAbstract := false

def fields :=
  (.field "id" .text id none <|
    .field "version_id" .text versionId none <|
    .field "entity_kind" EntityKind.codec kind none <|
    .field "display_name" .text displayName none <|
    .field "description" (.optional .text) description none <|
    .field "parent_type_id" (.optional .text) parentId none <|
    .field "is_abstract" .flag isAbstract none .done : Fields EntityType EntityType _)

def codec : Codec EntityType :=
  .record "EntityTypeDef" false fields mk

end EntityType

structure Field where
  id : String
  entityTypeId : String
  name : String
  label : String
  dataType : DataType
  isRequired : Bool
  order : Int64
  default : Option String
  validation : Option Json

namespace Field

/-- An optional field without rules, labelled by its name. -/
def new (id entityTypeId name : String) (dataType : DataType) : Field where
  id := id
  entityTypeId := entityTypeId
  name := name
  label := name
  dataType := dataType
  isRequired := false
  order := 0
  default := none
  validation := none

def fields :=
  (.field "id" .text id none <|
    .field "entity_type_id" .text entityTypeId none <|
    .field "field_name" .text name none <|
    .field "display_label" .text label none <|
    .field "data_type" DataType.codec dataType none <|
    .field "is_required" .flag isRequired none <|
    .field "display_order" .signed order none <|
    .field "default_value" (.optional .text) default none <|
    .field "validation" (.optional .free) validation none .done : Fields Field Field _)

def codec : Codec Field :=
  .record "FieldDef" false fields mk

end Field

end KnowledgeSchema
