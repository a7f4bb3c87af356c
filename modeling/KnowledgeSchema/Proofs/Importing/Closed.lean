import KnowledgeSchema.Bundle.Basic
import KnowledgeSchema.Proofs.Definition.Rows
import KnowledgeSchema.Proofs.Json.ClosedRecords

/-!
# The grammar of bundles is closed

Wherever an object in a bundle stands for a record, it has no names but those of that record, none of
them twice, and all that have no default. A name that the record does not have, or a second member
for one that it has, makes the whole text unreadable. What a field is validated by and what views and
maps of content are configured with is left free.
-/

namespace KnowledgeSchema

open Codec Fields

/-! ### The parts of a bundle -/

theorem EntityKind.hasShape : EntityKind.codec.HasShape .text :=
  hasShape_text.map _ _

theorem DataType.hasShape : DataType.codec.HasShape .text :=
  hasShape_text.map _ _

namespace BundledField

def parts : Parts :=
  .part "name" true .text <|
  .part "label" false (.optional .text) <|
  .part "data_type" true .text <|
  .part "required" false .flag <|
  .part "order" false (.optional .integer) <|
  .part "default_value" false (.optional .text) <|
  .part "validation" false (.optional .free) .done

theorem hasParts : fields.HasParts parts :=
  .required hasShape_text rfl <| .defaulted hasShape_text.optional <|
    .required DataType.hasShape rfl <| .defaulted hasShape_flag <|
    .defaulted hasShape_signed.optional <| .defaulted hasShape_text.optional <|
    .defaulted hasShape_free.optional .done

theorem hasShape : codec.HasShape (.record parts) :=
  hasShape_record hasParts (by decide) _ _

end BundledField

namespace BundledType

def parts : Parts :=
  .part "entity_kind" true .text <|
  .part "display_name" false (.optional .text) <|
  .part "description" false (.optional .text) <|
  .part "parent" false (.optional .text) <|
  .part "is_abstract" false .flag <|
  .part "fields" false (.list (.record BundledField.parts)) .done

theorem hasParts : fields.HasParts parts :=
  .required EntityKind.hasShape rfl <| .defaulted hasShape_text.optional <|
    .defaulted hasShape_text.optional <| .defaulted EntityKind.hasShape.optional <|
    .defaulted hasShape_flag <| .defaulted BundledField.hasShape.list .done

theorem hasShape : codec.HasShape (.record parts) :=
  hasShape_record hasParts (by decide) _ _

end BundledType

namespace BundledAttribute

def parts : Parts :=
  .part "name" true .text <|
  .part "data_type" true .text <|
  .part "required" false .flag .done

theorem hasParts : fields.HasParts parts :=
  .required hasShape_text rfl <| .required DataType.hasShape rfl <| .defaulted hasShape_flag .done

theorem hasShape : codec.HasShape (.record parts) :=
  hasShape_record hasParts (by decide) _ _

end BundledAttribute

namespace BundledRelationship

def parts : Parts :=
  .part "name" true .text <|
  .part "label" false (.optional .text) <|
  .part "source" true .text <|
  .part "target" true .text <|
  .part "direction" false (.name ["directed", "undirected", "bidirectional"]) <|
  .part "cardinality" false (.name ["one_to_one", "one_to_many", "many_to_one", "many_to_many"]) <|
  .part "reverse_label" false (.optional .text) <|
  .part "attributes" false (.list (.record BundledAttribute.parts)) .done

theorem hasParts : fields.HasParts parts :=
  .required hasShape_text rfl <| .defaulted hasShape_text.optional <|
    .required EntityKind.hasShape rfl <| .required EntityKind.hasShape rfl <|
    .defaulted (hasShape_named Direction.known Direction.name) <|
    .defaulted (hasShape_named Cardinality.known Cardinality.name) <|
    .defaulted hasShape_text.optional <| .defaulted BundledAttribute.hasShape.list .done

theorem hasShape : codec.HasShape (.record parts) :=
  hasShape_record hasParts (by decide) _ _

end BundledRelationship

namespace BundledView

def parts : Parts :=
  .part "name" true .text <|
  .part "entity_kind" false (.optional .text) <|
  .part "config" false .free .done

theorem hasParts : fields.HasParts parts :=
  .required hasShape_text rfl <| .defaulted EntityKind.hasShape.optional <|
    .defaulted hasShape_free .done

theorem hasShape : codec.HasShape (.record parts) :=
  hasShape_record hasParts (by decide) _ _

end BundledView

namespace BundledMap

def parts : Parts :=
  .part "name" true .text <|
  .part "entity_kinds" false (.list .text) <|
  .part "config" false .free .done

theorem hasParts : fields.HasParts parts :=
  .required hasShape_text rfl <| .defaulted EntityKind.hasShape.list <| .defaulted hasShape_free .done

theorem hasShape : codec.HasShape (.record parts) :=
  hasShape_record hasParts (by decide) _ _

end BundledMap

namespace BundledMapping

def parts : Parts :=
  .part "ner_label" true .text <|
  .part "entity_kind" true .text <|
  .part "priority" false .integer .done

theorem hasParts : fields.HasParts parts :=
  .required hasShape_text rfl <| .required EntityKind.hasShape rfl <| .defaulted hasShape_signed .done

theorem hasShape : codec.HasShape (.record parts) :=
  hasShape_record hasParts (by decide) _ _

end BundledMapping

namespace BundledTerm

def parts : Parts :=
  .part "term" true .text <|
  .part "case_sensitive" false .flag .done

theorem hasParts : fields.HasParts parts :=
  .required hasShape_text rfl <| .defaulted hasShape_flag .done

theorem hasShape : codec.HasShape (.record parts) :=
  hasShape_record hasParts (by decide) _ _

end BundledTerm

namespace BundledProfile

def parts : Parts :=
  .part "name" true .text <|
  .part "enabled" false .flag <|
  .part "confidence_threshold" false .number <|
  .part "label_mappings" false (.list (.record BundledMapping.parts)) <|
  .part "ignore" false (.list (.record BundledTerm.parts)) .done

theorem hasParts : fields.HasParts parts :=
  .required hasShape_text rfl <| .defaulted hasShape_flag <| .defaulted hasShape_double <|
    .defaulted BundledMapping.hasShape.list <| .defaulted BundledTerm.hasShape.list .done

theorem hasShape : codec.HasShape (.record parts) :=
  hasShape_record hasParts (by decide) _ _

end BundledProfile

namespace Bundle

def parts : Parts :=
  .part "entity_types" false (.list (.record BundledType.parts)) <|
  .part "relationship_types" false (.list (.record BundledRelationship.parts)) <|
  .part "view_templates" false (.list (.record BundledView.parts)) <|
  .part "mocs" false (.list (.record BundledMap.parts)) <|
  .part "extraction_profile" false (.optional (.record BundledProfile.parts)) .done

theorem hasParts : fields.HasParts parts :=
  .defaulted BundledType.hasShape.list <| .defaulted BundledRelationship.hasShape.list <|
    .defaulted BundledView.hasShape.list <| .defaulted BundledMap.hasShape.list <|
    .defaulted BundledProfile.hasShape.optional .done

theorem hasShape : codec.HasShape (.record parts) :=
  hasShape_record hasParts (by decide) _ _

/-! ### Closed records -/

variable {text other : String} {tree value : Json} {bundle : Bundle}

theorem readJson_iff : (∃ bundle, readJson codec text = .ok bundle) ↔
    ∃ tree : Json, tree.IsReadFrom text ∧ (Shape.record parts).Takes tree := by
  rw [← hasShape.parse_iff]
  exact exists_congr fun bundle => readJson_eq_ok

/-- A text whose value does not have the shape of a bundle is refused. -/
theorem readJson_of_not_takes
    (hnot : ∀ tree : Json, tree.IsReadFrom text → ¬(Shape.record parts).Takes tree) :
    ∃ flaw, readJson codec text = .error (.serialization flaw) := by
  cases hparse : codec.parse text with
  | ok bundle =>
    obtain ⟨tree, htree, htakes⟩ := hasShape.parse_iff.mp ⟨bundle, hparse⟩
    exact absurd htakes (hnot tree htree)
  | error flaw => exact ⟨flaw, by rw [readJson, hparse]⟩

/-- The kinds of objects in a bundle. -/
def levels : List Parts :=
  [parts, BundledType.parts, BundledField.parts, BundledRelationship.parts, BundledAttribute.parts,
    BundledView.parts, BundledMap.parts, BundledProfile.parts, BundledMapping.parts, BundledTerm.parts]

/-- What holds of a value that was read, and of the texts that differ from it in one place, when the
grammar of bundles is closed. -/
structure IsClosed (tree : Json) : Prop where
  /-- An object that stands for a record has names of that record only, none of them twice, and each
  name that has no default. -/
  names : ∀ {level : Parts} {context members}, (Shape.record parts).Place (.record level) context →
    tree = context (.obj members) → level ∈ levels ∧
      (∀ member ∈ members, member.1 ∈ level.names) ∧ (members.map (·.1)).Nodup ∧
        ∀ name ∈ level.required, name ∈ members.map (·.1)
  /-- With one member more, of a name that is not known or is there already, a text is refused. -/
  inserted : ∀ {level : Parts} {context before after key} {value : Json} {other : String},
    (Shape.record parts).Place (.record level) context → tree = context (.obj (before ++ after)) →
    key ∉ level.names ∨ key ∈ (before ++ after).map (·.1) →
    (∀ read : Json, read.IsReadFrom other →
      read = context (.obj (before ++ (key, value) :: after))) →
    ∃ flaw, readJson codec other = .error (.serialization flaw)
  /-- Where anything may stand, a text is read with any value there. -/
  free : ∀ {context} {value changed : Json} {other : String},
    (Shape.record parts).Place .free context → tree = context value →
    (context changed).IsReadFrom other →
    ∃ bundle, readJson codec other = .ok bundle

/-- The grammar of bundles is closed at every place of every text that is read. -/
theorem isClosed_of_readJson (hread : readJson codec text = .ok bundle) :
    ∃ tree : Json, tree.IsReadFrom text ∧ IsClosed tree := by
  obtain ⟨tree, htree, htakes⟩ := readJson_iff.mp ⟨bundle, hread⟩
  refine ⟨tree, htree, ?_, ?_, ?_⟩
  · rintro level context members hplace rfl
    exact ⟨hplace.mem_records, Shape.names_of_takes ((hplace.takes htakes).1 nofun)⟩
  · rintro level context before after key value other hplace rfl hkey hother
    refine readJson_of_not_takes fun read hread hreadTakes => ?_
    rw [hother read hread] at hreadTakes
    exact Shape.not_takes_insert hkey ((hplace.takes hreadTakes).1 nofun)
  · rintro context value changed other hplace rfl hother
    exact readJson_iff.mpr ⟨_, hother, (hplace.takes htakes).2 changed trivial⟩

/-- An entity type with one field. -/
def sizedText : String :=
  "\x7b\"entity_types\":[\x7b\"entity_kind\":\"ITEM\",\"fields\":[\x7b\"name\":\"size\"," ++
    "\"data_type\":\"integer\",\"validation\":\x7b\"min\":1\x7d\x7d]\x7d]\x7d"

def sizedField : List (String × Json) :=
  [("name", .str "size"), ("data_type", .str "integer"), ("validation", .obj [("min", .int 1)])]

/-- The bundle around the field. -/
def sizedBundle (field : Json) : Json :=
  .obj [("entity_types", .arr [.obj [("entity_kind", .str "ITEM"), ("fields", .arr [field])]])]

/-- The same with a misspelled name in the field. -/
def misspelledText : String :=
  "\x7b\"entity_types\":[\x7b\"entity_kind\":\"ITEM\",\"fields\":[\x7b\"lable\":\"Size\"," ++
    "\"name\":\"size\",\"data_type\":\"integer\",\"validation\":\x7b\"min\":1\x7d\x7d]\x7d]\x7d"

theorem place_sizedBundle : (Shape.record parts).Place (.record BundledField.parts) sizedBundle :=
  .member [] [] rfl <| .item [] [] <| .member [("entity_kind", .str "ITEM")] [] rfl <|
    .item [] [] (.here _)

theorem isClosed_of_readJson_sized :
    ∃ bundle, readJson codec sizedText = .ok bundle ∧ IsClosed (sizedBundle (.obj sizedField)) ∧
      ∃ flaw, readJson codec misspelledText = .error (.serialization flaw) := by
  have hsome : (readJson codec sizedText).toOption.isSome = true := by decide +kernel
  obtain ⟨bundle, hbundle⟩ := Option.isSome_iff_exists.mp hsome
  have hread := Outcome.toOption_eq_some.mp hbundle
  obtain ⟨tree, htree, hclosed⟩ := isClosed_of_readJson hread
  have hsized : (sizedBundle (.obj sizedField)).IsReadFrom sizedText := ⟨[], by cbv, rfl⟩
  obtain rfl := htree.unique hsized
  have hfield : sizedBundle (.obj sizedField) = sizedBundle (.obj ([] ++ sizedField)) := rfl
  have hunknown : "lable" ∉ BundledField.parts.names := by decide
  have hmisspelled : (sizedBundle (.obj ([] ++ ("lable", .str "Size") :: sizedField))).IsReadFrom
      misspelledText := ⟨[], by cbv, rfl⟩
  exact ⟨bundle, hread, hclosed, hclosed.inserted place_sizedBundle hfield (Or.inl hunknown)
    fun read hother => hother.unique hmisspelled⟩

end Bundle

end KnowledgeSchema
