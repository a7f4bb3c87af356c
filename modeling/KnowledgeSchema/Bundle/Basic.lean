import KnowledgeSchema.Definition.Set

/-!
# Bundles

A document with the definitions of a version, without ids: an entity type names its parent by kind,
and whatever belongs to a definition is nested under it. No level takes a name that it does not
know.
-/

namespace KnowledgeSchema

structure BundledField where
  name : String
  label : Option String
  dataType : DataType
  isRequired : Bool
  order : Option Int64
  default : Option String
  validation : Option Json

namespace BundledField

def fields :=
  (.field "name" .text name none <|
    .field "label" (.optional .text) label (some none) <|
    .field "data_type" DataType.codec dataType none <|
    .field "required" .flag isRequired (some false) <|
    .field "order" (.optional .signed) order (some none) <|
    .field "default_value" (.optional .text) default (some none) <|
    .field "validation" (.optional .free) validation (some none) .done
    : Fields BundledField BundledField _)

def codec : Codec BundledField :=
  .record "BundleField" true fields mk

end BundledField

structure BundledType where
  kind : EntityKind
  displayName : Option String
  description : Option String
  parent : Option EntityKind
  isAbstract : Bool
  members : List BundledField

namespace BundledType

def fields :=
  (.field "entity_kind" EntityKind.codec kind none <|
    .field "display_name" (.optional .text) displayName (some none) <|
    .field "description" (.optional .text) description (some none) <|
    .field "parent" (.optional EntityKind.codec) parent (some none) <|
    .field "is_abstract" .flag isAbstract (some false) <|
    .field "fields" (.list BundledField.codec) members (some []) .done
    : Fields BundledType BundledType _)

def codec : Codec BundledType :=
  .record "BundleEntityType" true fields mk

end BundledType

structure BundledAttribute where
  name : String
  dataType : DataType
  isRequired : Bool

namespace BundledAttribute

def fields :=
  (.field "name" .text name none <|
    .field "data_type" DataType.codec dataType none <|
    .field "required" .flag isRequired (some false) .done
    : Fields BundledAttribute BundledAttribute _)

def codec : Codec BundledAttribute :=
  .record "BundleAttribute" true fields mk

end BundledAttribute

structure BundledRelationship where
  name : String
  label : Option String
  source : EntityKind
  target : EntityKind
  direction : Direction
  cardinality : Cardinality
  reverseLabel : Option String
  attributes : List BundledAttribute

namespace BundledRelationship

def fields :=
  (.field "name" .text name none <|
    .field "label" (.optional .text) label (some none) <|
    .field "source" EntityKind.codec source none <|
    .field "target" EntityKind.codec target none <|
    .field "direction" Direction.codec direction (some .directed) <|
    .field "cardinality" Cardinality.codec cardinality (some .manyToMany) <|
    .field "reverse_label" (.optional .text) reverseLabel (some none) <|
    .field "attributes" (.list BundledAttribute.codec) attributes (some []) .done
    : Fields BundledRelationship BundledRelationship _)

def codec : Codec BundledRelationship :=
  .record "BundleRelationshipType" true fields mk

end BundledRelationship

structure BundledView where
  name : String
  kind : Option EntityKind
  config : Json

namespace BundledView

def fields :=
  (.field "name" .text name none <|
    .field "entity_kind" (.optional EntityKind.codec) kind (some none) <|
    .field "config" .free config (some .emptyObject) .done : Fields BundledView BundledView _)

def codec : Codec BundledView :=
  .record "BundleViewTemplate" true fields mk

end BundledView

structure BundledMap where
  name : String
  kinds : List EntityKind
  config : Json

namespace BundledMap

def fields :=
  (.field "name" .text name none <|
    .field "entity_kinds" (.list EntityKind.codec) kinds (some []) <|
    .field "config" .free config (some .emptyObject) .done : Fields BundledMap BundledMap _)

def codec : Codec BundledMap :=
  .record "BundleMoc" true fields mk

end BundledMap

structure BundledMapping where
  label : String
  kind : EntityKind
  priority : Int64

namespace BundledMapping

def fields :=
  (.field "ner_label" .text label none <|
    .field "entity_kind" EntityKind.codec kind none <|
    .field "priority" .signed priority (some 0) .done : Fields BundledMapping BundledMapping _)

def codec : Codec BundledMapping :=
  .record "BundleLabelMapping" true fields mk

end BundledMapping

structure BundledTerm where
  term : String
  caseSensitive : Bool

namespace BundledTerm

def fields :=
  (.field "term" .text term none <|
    .field "case_sensitive" .flag caseSensitive (some false) .done
    : Fields BundledTerm BundledTerm _)

def codec : Codec BundledTerm :=
  .record "BundleIgnoreEntry" true fields mk

end BundledTerm

structure BundledProfile where
  name : String
  enabled : Bool
  threshold : Double
  mappings : List BundledMapping
  ignored : List BundledTerm

namespace BundledProfile

def fields :=
  (.field "name" .text name none <|
    .field "enabled" .flag enabled (some true) <|
    .field "confidence_threshold" .double threshold (some .half) <|
    .field "label_mappings" (.list BundledMapping.codec) mappings (some []) <|
    .field "ignore" (.list BundledTerm.codec) ignored (some []) .done
    : Fields BundledProfile BundledProfile _)

def codec : Codec BundledProfile :=
  .record "BundleExtractionProfile" true fields mk

end BundledProfile

structure Bundle where
  entityTypes : List BundledType
  relationships : List BundledRelationship
  views : List BundledView
  maps : List BundledMap
  profile : Option BundledProfile

namespace Bundle

def fields :=
  (.field "entity_types" (.list BundledType.codec) entityTypes (some []) <|
    .field "relationship_types" (.list BundledRelationship.codec) relationships (some []) <|
    .field "view_templates" (.list BundledView.codec) views (some []) <|
    .field "mocs" (.list BundledMap.codec) maps (some []) <|
    .field "extraction_profile" (.optional BundledProfile.codec) profile (some none) .done
    : Fields Bundle Bundle _)

def codec : Codec Bundle :=
  .record "DefinitionBundle" true fields mk

end Bundle

end KnowledgeSchema
