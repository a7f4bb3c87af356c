import KnowledgeSchema.Definition.Kind
import KnowledgeSchema.Json.Record

/-!
# View templates and maps of content

Both are kept for whoever shows a knowledge base, with a configuration that is carried as it is.
-/

namespace KnowledgeSchema

structure ViewTemplate where
  id : String
  versionId : String
  name : String
  kind : Option EntityKind
  config : Json

namespace ViewTemplate

def fields :=
  (.field "id" .text id none <|
    .field "version_id" .text versionId none <|
    .field "name" .text name none <|
    .field "entity_kind" (.optional EntityKind.codec) kind none <|
    .field "config" .free config none .done : Fields ViewTemplate ViewTemplate _)

def codec : Codec ViewTemplate :=
  .record "ViewTemplateDef" false fields mk

end ViewTemplate

structure MapOfContent where
  id : String
  versionId : String
  name : String
  kinds : List EntityKind
  config : Json

namespace MapOfContent

def fields :=
  (.field "id" .text id none <|
    .field "version_id" .text versionId none <|
    .field "name" .text name none <|
    .field "entity_kinds" (.list EntityKind.codec) kinds none <|
    .field "config" .free config none .done : Fields MapOfContent MapOfContent _)

def codec : Codec MapOfContent :=
  .record "MocDef" false fields mk

end MapOfContent

end KnowledgeSchema
