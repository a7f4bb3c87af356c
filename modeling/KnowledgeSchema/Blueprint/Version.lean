import KnowledgeSchema.Blueprint.Status
import KnowledgeSchema.Failure
import KnowledgeSchema.Json.Record
import KnowledgeSchema.Time.Reader

/-!
# Versions of a blueprint

A version is numbered within its blueprint and moves from status to status. The time of publication
is set when a draft is published and never changes.
-/

namespace KnowledgeSchema

structure Version where
  id : String
  blueprintId : String
  number : Int64
  status : Status
  notes : Option String
  createdAt : Timestamp
  publishedAt : Option Timestamp

namespace Version

def draft (id blueprintId : String) (number : Int64) (now : Timestamp) : Version where
  id := id
  blueprintId := blueprintId
  number := number
  status := .draft
  notes := none
  createdAt := now
  publishedAt := none

/-- The version in its next status. -/
def transition (version : Version) (next : Status) (now : Timestamp) : Except Failure Version :=
  if version.status.canBecome next then
    .ok { version with
      status := next
      publishedAt :=
        if next = .published then some (version.publishedAt.getD now) else version.publishedAt }
  else .error (.invalidTransition version.status.name next.name)

def ensureEditable (version : Version) : Except Failure Unit :=
  if version.status.isEditable then .ok ()
  else .error (.versionNotEditable version.id version.status.name)

def fields :=
  (.field "id" .text id none <|
    .field "blueprint_id" .text blueprintId none <|
    .field "version_number" .signed number none <|
    .field "status" Status.codec status none <|
    .field "notes" (.optional .text) notes none <|
    .field "created_at" .timestamp createdAt none <|
    .field "published_at" (.optional .timestamp) publishedAt none .done : Fields Version Version _)

def codec : Codec Version :=
  .record "BlueprintVersion" false fields mk

end Version

end KnowledgeSchema
