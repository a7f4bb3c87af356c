import KnowledgeSchema.Definition.DataType
import KnowledgeSchema.Definition.Kind
import KnowledgeSchema.Json.Record

/-!
# Relationship types and their attributes

A relationship type joins two entity kinds, and its attributes are carried by each relationship.
-/

namespace KnowledgeSchema

inductive Direction where
  | directed
  | undirected
  | bidirectional
deriving DecidableEq

namespace Direction

def name : Direction → String
  | directed => "directed"
  | undirected => "undirected"
  | bidirectional => "bidirectional"

def known : List (String × Direction) :=
  [directed, undirected, bidirectional].map fun direction => (direction.name, direction)

/-- The direction that a text names in letters of any case. -/
def parse? (text : String) : Option Direction :=
  (known ++ [("both", bidirectional)]).lookup (String.ofList (Text.lower text.toList))

def codec : Codec Direction :=
  .named known name

end Direction

inductive Cardinality where
  | oneToOne
  | oneToMany
  | manyToOne
  | manyToMany
deriving DecidableEq

namespace Cardinality

def name : Cardinality → String
  | oneToOne => "one_to_one"
  | oneToMany => "one_to_many"
  | manyToOne => "many_to_one"
  | manyToMany => "many_to_many"

def known : List (String × Cardinality) :=
  [oneToOne, oneToMany, manyToOne, manyToMany].map fun cardinality =>
    (cardinality.name, cardinality)

def ratios : List (String × Cardinality) :=
  [("1:1", oneToOne), ("1:n", oneToMany), ("n:1", manyToOne), ("n:n", manyToMany)]

/-- The cardinality that a text names, or shows as a ratio, in letters of any case. -/
def parse? (text : String) : Option Cardinality :=
  (known ++ ratios).lookup (String.ofList (Text.lower text.toList))

def codec : Codec Cardinality :=
  .named known name

end Cardinality

structure RelationshipType where
  id : String
  versionId : String
  name : String
  label : String
  source : EntityKind
  target : EntityKind
  direction : Direction
  cardinality : Cardinality
  reverseLabel : Option String

namespace RelationshipType

/-- A directed relationship of many to many, labelled by its name. -/
def new (id versionId name : String) (source target : EntityKind) : RelationshipType where
  id := id
  versionId := versionId
  name := name
  label := name
  source := source
  target := target
  direction := .directed
  cardinality := .manyToMany
  reverseLabel := none

def fields :=
  (.field "id" .text id none <|
    .field "version_id" .text versionId none <|
    .field "relationship_name" .text name none <|
    .field "display_label" .text label none <|
    .field "source_entity_kind" EntityKind.codec source none <|
    .field "target_entity_kind" EntityKind.codec target none <|
    .field "direction" Direction.codec direction none <|
    .field "cardinality" Cardinality.codec cardinality none <|
    .field "reverse_label" (.optional .text) reverseLabel none .done
    : Fields RelationshipType RelationshipType _)

def codec : Codec RelationshipType :=
  .record "RelationshipTypeDef" false fields mk

end RelationshipType

structure RelationshipAttribute where
  id : String
  relationshipTypeId : String
  name : String
  dataType : DataType
  isRequired : Bool

namespace RelationshipAttribute

def new (id relationshipTypeId name : String) (dataType : DataType) : RelationshipAttribute where
  id := id
  relationshipTypeId := relationshipTypeId
  name := name
  dataType := dataType
  isRequired := false

def fields :=
  (.field "id" .text id none <|
    .field "relationship_type_id" .text relationshipTypeId none <|
    .field "attribute_name" .text name none <|
    .field "data_type" DataType.codec dataType none <|
    .field "is_required" .flag isRequired none .done
    : Fields RelationshipAttribute RelationshipAttribute _)

def codec : Codec RelationshipAttribute :=
  .record "RelationshipAttributeDef" false fields mk

end RelationshipAttribute

end KnowledgeSchema
