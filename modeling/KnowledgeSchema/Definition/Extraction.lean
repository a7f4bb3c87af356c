import KnowledgeSchema.Definition.Kind
import KnowledgeSchema.Json.Record

/-!
# Extraction profiles

How entities are recognised in texts: the least confidence, the labels that stand for kinds, and
the terms that never stand for an entity.
-/

namespace KnowledgeSchema

structure ExtractionProfile where
  id : String
  versionId : String
  name : String
  enabled : Bool
  threshold : Double

namespace ExtractionProfile

def new (id versionId name : String) : ExtractionProfile where
  id := id
  versionId := versionId
  name := name
  enabled := true
  threshold := .half

/-- The profile with a threshold, or with the nearer end of the range from zero to one. -/
def withThreshold (profile : ExtractionProfile) (threshold : Double) : ExtractionProfile :=
  { profile with threshold := threshold.clampUnit }

def fields :=
  (.field "id" .text id none <|
    .field "version_id" .text versionId none <|
    .field "name" .text name none <|
    .field "enabled" .flag enabled none <|
    .field "confidence_threshold" .double threshold none .done
    : Fields ExtractionProfile ExtractionProfile _)

def codec : Codec ExtractionProfile :=
  .record "ExtractionProfile" false fields mk

end ExtractionProfile

/-- The kind that a label of the recogniser stands for. Of several mappings the one of the lowest
priority comes first. -/
structure LabelMapping where
  id : String
  profileId : String
  label : String
  kind : EntityKind
  priority : Int64

namespace LabelMapping

def fields :=
  (.field "id" .text id none <|
    .field "profile_id" .text profileId none <|
    .field "ner_label" .text label none <|
    .field "entity_kind" EntityKind.codec kind none <|
    .field "priority" .signed priority none .done : Fields LabelMapping LabelMapping _)

def codec : Codec LabelMapping :=
  .record "LabelMapping" false fields mk

end LabelMapping

structure IgnoreEntry where
  id : String
  profileId : String
  term : String
  caseSensitive : Bool

namespace IgnoreEntry

def fields :=
  (.field "id" .text id none <|
    .field "profile_id" .text profileId none <|
    .field "term" .text term none <|
    .field "case_sensitive" .flag caseSensitive none .done : Fields IgnoreEntry IgnoreEntry _)

def codec : Codec IgnoreEntry :=
  .record "IgnoreEntry" false fields mk

end IgnoreEntry

end KnowledgeSchema
