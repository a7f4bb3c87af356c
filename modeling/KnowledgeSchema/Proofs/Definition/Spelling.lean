import KnowledgeSchema.Proofs.Definition.Rows

/-!
# One spelling for each kind and data type

Many texts name one kind. The name of the kind is the one text among them that stands for all: it names
the kind again, and two texts name the same kind exactly when they lead to the same name. So a kind comes
back from a document and from a row as the one that was written.
-/

namespace KnowledgeSchema

section NormalForm

variable {α : Type} {parse : String → α} {name : α → String}

/-- Whether what a text names has a name that stands for it. -/
structure IsNormalForm (parse : String → α) (name : α → String) : Prop where
  parse_name : ∀ text, parse (name (parse text)) = parse text
  parse_eq_iff : ∀ first second, parse first = parse second ↔
    name (parse first) = name (parse second)

theorem isNormalForm_of_parse_name (hname : ∀ text, parse (name (parse text)) = parse text) :
    IsNormalForm parse name where
  parse_name := hname
  parse_eq_iff first second := by
    refine ⟨congrArg name, fun hsame => ?_⟩
    calc
      parse first = parse (name (parse first)) := (hname first).symm
      _ = parse (name (parse second)) := congrArg parse hsame
      _ = parse second := hname second

end NormalForm

namespace Codec

variable {α : Type} {codec : Codec α} {value : α}

theorem Rereads.parse_write_of_flat (hrereads : codec.Rereads Json.maxDepth value)
    (hflat : (codec.encode value).doubles = []) : codec.parse (codec.write value) = .ok value :=
  hrereads.parse_write fun x hx => by
    rw [hflat] at hx
    cases hx

end Codec

namespace EntityKind

/-- Whether a kind comes back from every place where it may be written. -/
structure ComesBack (kind : EntityKind) : Prop where
  document : codec.parse (codec.write kind) = .ok kind
  /-- As the kind of a parent, which may be left out. -/
  optional : (Codec.optional codec).parse ((Codec.optional codec).write (some kind)) = .ok (some kind)
  entityType : ∀ type : EntityType, type.kind = kind → type.toRow.toDefinition.kind = kind
  source : ∀ type : RelationshipType, type.source = kind → type.toRow.toDefinition.source = kind
  target : ∀ type : RelationshipType, type.target = kind → type.toRow.toDefinition.target = kind
  view : ∀ view read : ViewTemplate, view.kind = some kind → view.toRow.toDefinition = .ok read →
    read.kind = some kind
  mapping : ∀ mapping : LabelMapping, mapping.kind = kind → mapping.toRow.toDefinition.kind = kind

theorem IsNormal.comesBack {kind : EntityKind} (hnormal : kind.IsNormal) : kind.ComesBack where
  document := (rereads hnormal).parse_write_of_flat rfl
  optional := ((rereads hnormal).optional (by rintro ⟨⟩)).parse_write_of_flat rfl
  entityType type hkind := by
    rw [← hkind] at hnormal ⊢
    rw [EntityType.toDefinition_toRow hnormal]
  source type hkind := by
    rw [← hkind] at hnormal ⊢
    rw [RelationshipType.toRow, RelationshipTypeRow.toDefinition, hnormal]
  target type hkind := by
    rw [← hkind] at hnormal ⊢
    rw [RelationshipType.toRow, RelationshipTypeRow.toDefinition, hnormal]
  view view read hkind hread := by
    have hview : ∀ kind ∈ view.kind, kind.IsNormal := by
      rw [hkind]
      rintro _ ⟨⟩
      exact hnormal
    obtain ⟨config, -, rfl⟩ := (ViewTemplate.toDefinition_eq_ok hview).mp hread
    exact hkind
  mapping mapping hkind := by
    rw [← hkind] at hnormal ⊢
    rw [LabelMapping.toDefinition_toRow hnormal]

end EntityKind

namespace DataType

/-- Whether a data type comes back from every place where it may be written. -/
structure ComesBack (dataType : DataType) : Prop where
  document : codec.parse (codec.write dataType) = .ok dataType
  ofField : ∀ field read : Field, field.dataType = dataType → field.toRow.toDefinition = .ok read →
    read.dataType = dataType
  ofAttribute : ∀ attr : RelationshipAttribute, attr.dataType = dataType →
    attr.toRow.toDefinition.dataType = dataType

theorem IsNormal.comesBack {dataType : DataType} (hnormal : dataType.IsNormal) :
    dataType.ComesBack where
  document := (rereads hnormal).parse_write_of_flat rfl
  ofField field read htype hread := by
    rw [← htype] at hnormal ⊢
    obtain ⟨validation, -, rfl⟩ := (Field.toDefinition_eq_ok hnormal).mp hread
    rfl
  ofAttribute attr htype := by
    rw [← htype] at hnormal ⊢
    rw [RelationshipAttribute.toDefinition_toRow hnormal]

end DataType

/-- The names of kinds and of data types are normal forms, and a kind or data type that a text names
comes back from a document, a list of a document and a row. -/
theorem isNormalForm_names :
    IsNormalForm EntityKind.parse EntityKind.text ∧ IsNormalForm DataType.parse DataType.name ∧
      (∀ text, (EntityKind.parse text).ComesBack) ∧
      (∀ texts : List String, readJson (.list EntityKind.codec)
        ((Codec.list EntityKind.codec).write (texts.map EntityKind.parse)) =
          .ok (texts.map EntityKind.parse)) ∧
      ∀ text, (DataType.parse text).ComesBack := by
  refine ⟨isNormalForm_of_parse_name EntityKind.isNormal_parse,
    isNormalForm_of_parse_name DataType.isNormal_parse, fun text => ?_, fun texts => ?_,
    fun text => ?_⟩
  · exact (EntityKind.isNormal_parse text).comesBack
  · exact readJson_kinds (List.forall_mem_map.mpr fun text _ => EntityKind.isNormal_parse text)
  · exact (DataType.isNormal_parse text).comesBack

/-- One letter becomes two in upper case, and the last sigma of a word has its own small letter. -/
example : (EntityKind.parse " straße ").text = "STRASSE" ∧ (DataType.parse "ΟΔΟΣ").name = "οδος" := by
  decide +kernel

end KnowledgeSchema
