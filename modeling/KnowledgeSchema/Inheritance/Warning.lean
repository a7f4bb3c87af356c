import KnowledgeSchema.Definition.Kind
import KnowledgeSchema.Json.Tagged

/-!
# Integrity warnings

What is out of order in the definitions of a version without keeping it from being compiled.
-/

namespace KnowledgeSchema

inductive Warning where
  /-- The parent is no type of the version. -/
  | danglingParent (entityTypeId parentId : String)
  /-- There are more ancestors than may be inherited from. -/
  | depthExceeded (entityTypeId : String) (maxDepth : UInt64)
  /-- The ancestors come round to one of themselves. -/
  | inheritanceCycle (entityTypeId : String) (cycle : List String)
  /-- No type of the version is of a kind that a relationship joins. -/
  | unknownEndpoint (relationshipTypeId : String) (kind : EntityKind)
  /-- An attribute stands under a relationship type that does not own it. -/
  | orphanedAttribute (attributeId relationshipTypeId : String)
deriving DecidableEq

namespace Warning

/-- The definition that the warning is about. -/
def subject : Warning → String
  | danglingParent entityTypeId _ => entityTypeId
  | depthExceeded entityTypeId _ => entityTypeId
  | inheritanceCycle entityTypeId _ => entityTypeId
  | unknownEndpoint relationshipTypeId _ => relationshipTypeId
  | orphanedAttribute attributeId _ => attributeId

def text : Warning → String
  | danglingParent entityTypeId parentId =>
    s!"entity type {entityTypeId} references missing parent {parentId}; treated as root"
  | depthExceeded entityTypeId maxDepth =>
    s!"entity type {entityTypeId} has more than {maxDepth.toNat} ancestors; " ++
      "deeper fields not inherited"
  | inheritanceCycle entityTypeId cycle =>
    s!"entity type {entityTypeId} is part of an inheritance cycle " ++
      "(" ++ " -> ".intercalate cycle ++ ")"
  | unknownEndpoint relationshipTypeId kind =>
    s!"relationship type {relationshipTypeId} references unknown entity kind {kind.text}"
  | orphanedAttribute attributeId relationshipTypeId =>
    s!"attribute {attributeId} does not belong to relationship type {relationshipTypeId}; dropped"

def danglingParentArm : Arm Warning :=
  .ofFields "dangling_parent" "struct variant IntegrityWarning::DanglingParent"
    (.field "entity_type_id" .text (·.1) none <|
      .field "parent_type_id" .text (·.2) none .done)
    (fun entityTypeId parentId => (entityTypeId, parentId))
    (fun (entityTypeId, parentId) => .danglingParent entityTypeId parentId)
    fun
      | .danglingParent entityTypeId parentId => some (entityTypeId, parentId)
      | _ => none

def depthExceededArm : Arm Warning :=
  .ofFields "inheritance_depth_exceeded" "struct variant IntegrityWarning::InheritanceDepthExceeded"
    (.field "entity_type_id" .text (·.1) none <|
      .field "max_depth" .count (·.2) none .done)
    (fun entityTypeId maxDepth => (entityTypeId, maxDepth))
    (fun (entityTypeId, maxDepth) => .depthExceeded entityTypeId maxDepth)
    fun
      | .depthExceeded entityTypeId maxDepth => some (entityTypeId, maxDepth)
      | _ => none

def inheritanceCycleArm : Arm Warning :=
  .ofFields "inheritance_cycle" "struct variant IntegrityWarning::InheritanceCycle"
    (.field "entity_type_id" .text (·.1) none <|
      .field "cycle" (.list .text) (·.2) none .done)
    (fun entityTypeId cycle => (entityTypeId, cycle))
    (fun (entityTypeId, cycle) => .inheritanceCycle entityTypeId cycle)
    fun
      | .inheritanceCycle entityTypeId cycle => some (entityTypeId, cycle)
      | _ => none

def unknownEndpointArm : Arm Warning :=
  .ofFields "unknown_relationship_endpoint"
    "struct variant IntegrityWarning::UnknownRelationshipEndpoint"
    (.field "relationship_type_id" .text (·.1) none <|
      .field "entity_kind" EntityKind.codec (·.2) none .done)
    (fun relationshipTypeId kind => (relationshipTypeId, kind))
    (fun (relationshipTypeId, kind) => .unknownEndpoint relationshipTypeId kind)
    fun
      | .unknownEndpoint relationshipTypeId kind => some (relationshipTypeId, kind)
      | _ => none

def orphanedAttributeArm : Arm Warning :=
  .ofFields "orphaned_relationship_attribute"
    "struct variant IntegrityWarning::OrphanedRelationshipAttribute"
    (.field "attribute_id" .text (·.1) none <|
      .field "relationship_type_id" .text (·.2) none .done)
    (fun attributeId relationshipTypeId => (attributeId, relationshipTypeId))
    (fun (attributeId, relationshipTypeId) => .orphanedAttribute attributeId relationshipTypeId)
    fun
      | .orphanedAttribute attributeId relationshipTypeId => some (attributeId, relationshipTypeId)
      | _ => none

def codec : Codec Warning :=
  .tagged "IntegrityWarning" "warning"
    [danglingParentArm, depthExceededArm, inheritanceCycleArm, unknownEndpointArm,
      orphanedAttributeArm]

end Warning

end KnowledgeSchema
