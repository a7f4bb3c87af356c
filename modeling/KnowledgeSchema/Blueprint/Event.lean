import KnowledgeSchema.Blueprint.Status
import KnowledgeSchema.Json.Tagged
import KnowledgeSchema.Time.Reader

/-!
# Events

What happens to blueprints and versions, for an audit.
-/

namespace KnowledgeSchema

inductive Event where
  | blueprintCreated (blueprintId name : String) (time : Timestamp)
  | versionCreated (blueprintId versionId : String) (number : Int64) (forkedFrom : Option String)
      (time : Timestamp)
  | statusChanged (versionId : String) (before after : Status) (time : Timestamp)
  | versionCompiled (versionId fingerprint : String) (warnings : UInt64) (time : Timestamp)

namespace Event

def time : Event → Timestamp
  | blueprintCreated _ _ time => time
  | versionCreated _ _ _ _ time => time
  | statusChanged _ _ _ time => time
  | versionCompiled _ _ _ time => time

def name : Event → String
  | blueprintCreated .. => "blueprint_created"
  | versionCreated .. => "version_created"
  | statusChanged .. => "version_status_changed"
  | versionCompiled .. => "version_compiled"

def blueprintCreatedArm : Arm Event :=
  .ofFields "blueprint_created" "struct variant BlueprintEvent::BlueprintCreated"
    (.field "blueprint_id" .text (·.1) none <|
      .field "name" .text (·.2.1) none <|
      .field "timestamp" .timestamp (·.2.2) none .done)
    (fun blueprintId name time => (blueprintId, name, time))
    (fun (blueprintId, name, time) => .blueprintCreated blueprintId name time)
    fun
      | .blueprintCreated blueprintId name time => some (blueprintId, name, time)
      | _ => none

def versionCreatedArm : Arm Event :=
  .ofFields "version_created" "struct variant BlueprintEvent::VersionCreated"
    (.field "blueprint_id" .text (·.1) none <|
      .field "version_id" .text (·.2.1) none <|
      .field "version_number" .signed (·.2.2.1) none <|
      .field "forked_from" (.optional .text) (·.2.2.2.1) none <|
      .field "timestamp" .timestamp (·.2.2.2.2) none .done)
    (fun blueprintId versionId number source time => (blueprintId, versionId, number, source, time))
    (fun (blueprintId, versionId, number, source, time) =>
      .versionCreated blueprintId versionId number source time)
    fun
      | .versionCreated blueprintId versionId number source time =>
        some (blueprintId, versionId, number, source, time)
      | _ => none

def statusChangedArm : Arm Event :=
  .ofFields "version_status_changed" "struct variant BlueprintEvent::VersionStatusChanged"
    (.field "version_id" .text (·.1) none <|
      .field "from" Status.codec (·.2.1) none <|
      .field "to" Status.codec (·.2.2.1) none <|
      .field "timestamp" .timestamp (·.2.2.2) none .done)
    (fun versionId before after time => (versionId, before, after, time))
    (fun (versionId, before, after, time) => .statusChanged versionId before after time)
    fun
      | .statusChanged versionId before after time => some (versionId, before, after, time)
      | _ => none

def versionCompiledArm : Arm Event :=
  .ofFields "version_compiled" "struct variant BlueprintEvent::VersionCompiled"
    (.field "version_id" .text (·.1) none <|
      .field "fingerprint" .text (·.2.1) none <|
      .field "warning_count" .count (·.2.2.1) none <|
      .field "timestamp" .timestamp (·.2.2.2) none .done)
    (fun versionId fingerprint warnings time => (versionId, fingerprint, warnings, time))
    (fun (versionId, fingerprint, warnings, time) =>
      .versionCompiled versionId fingerprint warnings time)
    fun
      | .versionCompiled versionId fingerprint warnings time =>
        some (versionId, fingerprint, warnings, time)
      | _ => none

def codec : Codec Event :=
  .tagged "BlueprintEvent" "event_type"
    [blueprintCreatedArm, versionCreatedArm, statusChangedArm, versionCompiledArm]

end Event

end KnowledgeSchema
