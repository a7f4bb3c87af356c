import Mathlib.Data.List.Dedup
import Mathlib.Data.Multiset.MapFold
import KnowledgeSchema.Artifact.Basic
import KnowledgeSchema.Bundle.Resolve
import KnowledgeSchema.Proofs.Compiling.Diagnostics

/-!
# What a bundle means

The types, fields and other definitions that a bundle stands for, said without ids and without a
store: a type inherits from the types that its parent kinds lead to, and of every name the nearest
declaration counts. An artifact has this meaning when it says the same, in whatever order.
-/

namespace KnowledgeSchema

/-! ### Fields -/

/-- What a field says, whatever its id and its owner are. -/
structure Declaration where
  name : String
  label : String
  dataType : DataType
  isRequired : Bool
  order : Int64
  default : Option String
  validation : Option Json

def Declaration.showsBefore (first second : Declaration) : Bool :=
  first.order < second.order || (first.order == second.order && first.name ≤ second.name)

def Field.declaration (field : Field) : Declaration where
  name := field.name
  label := field.label
  dataType := field.dataType
  isRequired := field.isRequired
  order := field.order
  default := field.default
  validation := field.validation

/-- A field is labelled by its name, and stands where it stands in its list, unless it says
otherwise. -/
def BundledField.declaration (field : BundledField) (position : Nat) : Declaration where
  name := field.name
  label := field.label.getD field.name
  dataType := field.dataType
  isRequired := field.isRequired
  order := field.order.getD (Int64.ofNat position)
  default := field.default
  validation := field.validation

def BundledType.declarations (type : BundledType) : List Declaration :=
  type.members.zipIdx.map fun (field, position) => field.declaration position

/-! ### Types -/

/-- What an entity type says, with all the fields that it has. -/
structure TypeSense where
  kind : EntityKind
  displayName : String
  description : Option String
  isAbstract : Bool
  fields : List Declaration

def EffectiveType.sense (type : EffectiveType) : TypeSense where
  kind := type.definition.kind
  displayName := type.definition.displayName
  description := type.definition.description
  isAbstract := type.definition.isAbstract
  fields := type.fields.map Field.declaration

namespace Bundle

def typeOf? (bundle : Bundle) (kind : EntityKind) : Option BundledType :=
  bundle.entityTypes.find? (·.kind == kind)

def parent? (bundle : Bundle) (type : BundledType) : Option BundledType :=
  type.parent.bind bundle.typeOf?

/-- The types that parent kinds lead to, nearest first: at most `bound` of them, and none whose kind
is on the path already. -/
def ancestorsFrom (bundle : Bundle) : Nat → List BundledType → BundledType → List BundledType
  | 0, _, _ => []
  | bound + 1, path, current =>
    match bundle.parent? current with
    | none => []
    | some parent =>
      if path.any (·.kind == parent.kind) then []
      else parent :: bundle.ancestorsFrom bound (parent :: path) parent

/-- A type and those that it inherits from. -/
def chain (bundle : Bundle) (maxDepth : UInt64) (type : BundledType) : List BundledType :=
  type :: bundle.ancestorsFrom maxDepth.toNat [type] type

/-- The nearest declaration of a name. -/
def nearest? (chain : List BundledType) (name : String) : Option Declaration :=
  chain.findSome? fun type => type.declarations.find? (·.name == name)

/-- One declaration for every name, in the order they are shown. -/
def effective (chain : List BundledType) : List Declaration :=
  (((chain.flatMap BundledType.declarations).map (·.name)).dedup.filterMap
    (nearest? chain)).mergeSort Declaration.showsBefore

def typeSense (bundle : Bundle) (maxDepth : UInt64) (type : BundledType) : TypeSense where
  kind := type.kind
  displayName := type.displayName.getD type.kind.text
  description := type.description
  isAbstract := type.isAbstract
  fields := effective (bundle.chain maxDepth type)

end Bundle

/-! ### Relationship types -/

structure RelationshipSense where
  name : String
  label : String
  source : EntityKind
  target : EntityKind
  direction : Direction
  cardinality : Cardinality
  reverseLabel : Option String
  attributes : Multiset (String × DataType × Bool)

def EffectiveRelationship.sense (relationship : EffectiveRelationship) : RelationshipSense where
  name := relationship.definition.name
  label := relationship.definition.label
  source := relationship.definition.source
  target := relationship.definition.target
  direction := relationship.definition.direction
  cardinality := relationship.definition.cardinality
  reverseLabel := relationship.definition.reverseLabel
  attributes := relationship.attributes.map fun attr => (attr.name, attr.dataType, attr.isRequired)

def BundledRelationship.sense (relationship : BundledRelationship) : RelationshipSense where
  name := relationship.name
  label := relationship.label.getD relationship.name
  source := relationship.source
  target := relationship.target
  direction := relationship.direction
  cardinality := relationship.cardinality
  reverseLabel := relationship.reverseLabel
  attributes := relationship.attributes.map fun attr => (attr.name, attr.dataType, attr.isRequired)

/-! ### Profiles -/

structure ProfileSense where
  name : String
  enabled : Bool
  threshold : Double
  mappings : Multiset (String × EntityKind × Int64)
  ignored : Multiset (String × Bool)

def EffectiveProfile.sense (profile : EffectiveProfile) : ProfileSense where
  name := profile.definition.name
  enabled := profile.definition.enabled
  threshold := profile.definition.threshold
  mappings := profile.labelMappings.map fun mapping => (mapping.label, mapping.kind, mapping.priority)
  ignored := profile.ignoreEntries.map fun entry => (entry.term, entry.caseSensitive)

/-- The threshold is the nearest one from zero to one, and a zero has no sign. -/
def BundledProfile.sense (profile : BundledProfile) : ProfileSense where
  name := profile.name
  enabled := profile.enabled
  threshold := profile.threshold.clampUnit.dropZeroSign
  mappings := profile.mappings.map fun mapping => (mapping.label, mapping.kind, mapping.priority)
  ignored := profile.ignored.map fun term => (term.term, term.caseSensitive)

/-! ### Artifacts -/

namespace Bundle

/-- The JSON that a bundle carries. -/
def jsons (bundle : Bundle) : List Json :=
  bundle.entityTypes.flatMap (fun type => type.members.filterMap (·.validation)) ++
    bundle.views.map (·.config) ++ bundle.maps.map (·.config)

/-- An artifact says what a bundle says. -/
structure IsMeaningOf (bundle : Bundle) (maxDepth : UInt64) (artifact : Artifact) : Prop where
  entityTypes : (artifact.entityTypes.map (·.sense) : Multiset TypeSense) =
    bundle.entityTypes.map (bundle.typeSense maxDepth)
  relationshipTypes : (artifact.relationshipTypes.map (·.sense) : Multiset RelationshipSense) =
    bundle.relationships.map (·.sense)
  viewTemplates : (artifact.viewTemplates.map fun view => (view.name, view.kind, view.config) :
    Multiset (String × Option EntityKind × Json)) =
      bundle.views.map fun view => (view.name, view.kind, view.config)
  mapsOfContent : (artifact.mapsOfContent.map fun map => (map.name, map.kinds, map.config) :
    Multiset (String × List EntityKind × Json)) =
      bundle.maps.map fun map => (map.name, map.kinds, map.config)
  profile : artifact.profile.map (·.sense) = bundle.profile.map (·.sense)
  /-- The kinds at the ends of each relationship type that no type of the bundle has. -/
  unknownEndpoints : artifact.diagnostics.filter (·.isUnknownEndpoint) =
    artifact.relationshipTypes.flatMap fun relationship =>
      ([relationship.definition.source, relationship.definition.target].eraseDups.filter
        (· ∉ bundle.kinds)).map (.unknownEndpoint relationship.definition.id)

end Bundle

end KnowledgeSchema
