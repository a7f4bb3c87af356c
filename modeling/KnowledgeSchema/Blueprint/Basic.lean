import KnowledgeSchema.Time.Reader
import KnowledgeSchema.Json.Record

/-!
# Blueprints

A blueprint is a named schema of a knowledge base that exists in numbered versions.
-/

namespace KnowledgeSchema

structure Blueprint where
  id : String
  name : String
  description : Option String
  tags : TextSet
  isSystem : Bool
  createdAt : Timestamp
  updatedAt : Timestamp

namespace Blueprint

def new (id name : String) (now : Timestamp) : Blueprint where
  id := id
  name := name
  description := none
  tags := .empty
  isSystem := false
  createdAt := now
  updatedAt := now

def addTags (blueprint : Blueprint) (tags : List String) : Blueprint :=
  { blueprint with tags := blueprint.tags.insertAll tags }

def fields :=
  (.field "id" .text id none <|
    .field "name" .text name none <|
    .field "description" (.optional .text) description none <|
    .field "tags" .textSet tags none <|
    .field "is_system" .flag isSystem none <|
    .field "created_at" .timestamp createdAt none <|
    .field "updated_at" .timestamp updatedAt none .done : Fields Blueprint Blueprint _)

def codec : Codec Blueprint :=
  .record "BlueprintMeta" false fields mk

end Blueprint

end KnowledgeSchema
