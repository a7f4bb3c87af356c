import KnowledgeSchema.Database.Basic
import KnowledgeSchema.Json.Record

/-!
# Images of databases

The JSON document that a database is kept in while nobody uses it: what was set up for it, and its
rows column by column.
-/

namespace KnowledgeSchema

namespace BlueprintRow

def fields :=
  (.field "id" .text id none <|
    .field "name" .text name none <|
    .field "description" (.optional .text) description none <|
    .field "tags" .text tags none <|
    .field "is_system" .flag isSystem none <|
    .field "created_at" .text createdAt none <|
    .field "updated_at" .text updatedAt none .done : Fields BlueprintRow BlueprintRow _)

def codec : Codec BlueprintRow :=
  .record "BlueprintRow" true fields mk

end BlueprintRow

namespace VersionRow

def fields :=
  (.field "id" .text id none <|
    .field "blueprint_id" .text blueprintId none <|
    .field "number" .signed number none <|
    .field "status" Status.codec status none <|
    .field "notes" (.optional .text) notes none <|
    .field "created_at" .text createdAt none <|
    .field "published_at" (.optional .text) publishedAt none .done : Fields VersionRow VersionRow _)

def codec : Codec VersionRow :=
  .record "VersionRow" true fields mk

end VersionRow

namespace EntityTypeRow

def fields :=
  (.field "id" .text id none <|
    .field "version_id" .text versionId none <|
    .field "kind" .text kind none <|
    .field "display_name" .text displayName none <|
    .field "description" (.optional .text) description none <|
    .field "parent_id" (.optional .text) parentId none <|
    .field "is_abstract" .flag isAbstract none .done : Fields EntityTypeRow EntityTypeRow _)

def codec : Codec EntityTypeRow :=
  .record "EntityTypeRow" true fields mk

end EntityTypeRow

namespace FieldRow

def fields :=
  (.field "id" .text id none <|
    .field "entity_type_id" .text entityTypeId none <|
    .field "name" .text name none <|
    .field "label" .text label none <|
    .field "data_type" .text dataType none <|
    .field "is_required" .flag isRequired none <|
    .field "order" .signed order none <|
    .field "default" (.optional .text) FieldRow.default none <|
    .field "validation" (.optional .text) validation none .done : Fields FieldRow FieldRow _)

def codec : Codec FieldRow :=
  .record "FieldRow" true fields mk

end FieldRow

namespace RelationshipTypeRow

def fields :=
  (.field "id" .text id none <|
    .field "version_id" .text versionId none <|
    .field "name" .text name none <|
    .field "label" .text label none <|
    .field "source" .text source none <|
    .field "target" .text target none <|
    .field "direction" Direction.codec direction none <|
    .field "cardinality" Cardinality.codec cardinality none <|
    .field "reverse_label" (.optional .text) reverseLabel none .done :
    Fields RelationshipTypeRow RelationshipTypeRow _)

def codec : Codec RelationshipTypeRow :=
  .record "RelationshipTypeRow" true fields mk

end RelationshipTypeRow

namespace AttributeRow

def fields :=
  (.field "id" .text id none <|
    .field "relationship_type_id" .text relationshipTypeId none <|
    .field "name" .text name none <|
    .field "data_type" .text dataType none <|
    .field "is_required" .flag isRequired none .done : Fields AttributeRow AttributeRow _)

def codec : Codec AttributeRow :=
  .record "AttributeRow" true fields mk

end AttributeRow

namespace ViewTemplateRow

def fields :=
  (.field "id" .text id none <|
    .field "version_id" .text versionId none <|
    .field "name" .text name none <|
    .field "kind" (.optional .text) kind none <|
    .field "config" .text config none .done : Fields ViewTemplateRow ViewTemplateRow _)

def codec : Codec ViewTemplateRow :=
  .record "ViewTemplateRow" true fields mk

end ViewTemplateRow

namespace MapOfContentRow

def fields :=
  (.field "id" .text id none <|
    .field "version_id" .text versionId none <|
    .field "name" .text name none <|
    .field "kinds" .text kinds none <|
    .field "config" .text config none .done : Fields MapOfContentRow MapOfContentRow _)

def codec : Codec MapOfContentRow :=
  .record "MapOfContentRow" true fields mk

end MapOfContentRow

namespace ProfileRow

def fields :=
  (.field "id" .text id none <|
    .field "version_id" .text versionId none <|
    .field "name" .text name none <|
    .field "enabled" .flag enabled none <|
    .field "threshold" .double threshold none .done : Fields ProfileRow ProfileRow _)

def codec : Codec ProfileRow :=
  .record "ProfileRow" true fields mk

end ProfileRow

namespace LabelMappingRow

def fields :=
  (.field "id" .text id none <|
    .field "profile_id" .text profileId none <|
    .field "label" .text label none <|
    .field "kind" .text kind none <|
    .field "priority" .signed priority none .done : Fields LabelMappingRow LabelMappingRow _)

def codec : Codec LabelMappingRow :=
  .record "LabelMappingRow" true fields mk

end LabelMappingRow

namespace IgnoreEntryRow

def fields :=
  (.field "id" .text id none <|
    .field "profile_id" .text profileId none <|
    .field "term" .text term none <|
    .field "case_sensitive" .flag caseSensitive none .done : Fields IgnoreEntryRow IgnoreEntryRow _)

def codec : Codec IgnoreEntryRow :=
  .record "IgnoreEntryRow" true fields mk

end IgnoreEntryRow

namespace Table

def codec : Codec Table :=
  .named (all.map fun table => (table.name, table)) name

end Table

namespace Index

def fields :=
  (.field "table" Table.codec table none <|
    .field "column" .text column none .done : Fields Index Index _)

def codec : Codec Index :=
  .record "Index" true fields mk

end Index

namespace Store

def columns :=
  (.field "blueprints" (.list BlueprintRow.codec) blueprints none <|
    .field "versions" (.list VersionRow.codec) versions none <|
    .field "entity_types" (.list EntityTypeRow.codec) entityTypes none <|
    .field "fields" (.list FieldRow.codec) Store.fields none <|
    .field "relationship_types" (.list RelationshipTypeRow.codec) relationshipTypes none <|
    .field "attributes" (.list AttributeRow.codec) attributes none <|
    .field "view_templates" (.list ViewTemplateRow.codec) viewTemplates none <|
    .field "maps_of_content" (.list MapOfContentRow.codec) mapsOfContent none <|
    .field "profiles" (.list ProfileRow.codec) profiles none <|
    .field "label_mappings" (.list LabelMappingRow.codec) labelMappings none <|
    .field "ignore_entries" (.list IgnoreEntryRow.codec) ignoreEntries none .done :
    Fields Store Store _)

def codec : Codec Store :=
  .record "Store" true columns mk

end Store

namespace Database

def fields :=
  (.field "keeps_record" .flag keepsRecord none <|
    .field "recorded" (.list .signed) recorded none <|
    .field "tables" (.list Table.codec) tables none <|
    .field "indexes" (.list Index.codec) indexes none <|
    .field "store" Store.codec store none .done : Fields Database Database _)

def codec : Codec Database :=
  .record "Database" true fields mk

end Database

end KnowledgeSchema
