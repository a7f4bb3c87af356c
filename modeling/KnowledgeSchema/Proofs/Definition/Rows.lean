import KnowledgeSchema.Proofs.Documents.Definitions
import KnowledgeSchema.Store.Row

/-!
# Definitions read back

A definition is kept as a row of texts and comes back from its row when its kinds and data types are
in their own spelling and the numbers of its JSON are read as they are written.
-/

namespace KnowledgeSchema

namespace Definition

/-- Kinds, data types and JSON as a program has them. -/
def IsNormal : Definition → Prop
  | entityType type => type.kind.IsNormal
  | field definition =>
    definition.dataType.IsNormal ∧ ∀ json ∈ definition.validation, json.IsRegular
  | relationshipType type => type.source.IsNormal ∧ type.target.IsNormal
  | relationshipAttribute attr => attr.dataType.IsNormal
  | viewTemplate view => (∀ kind ∈ view.kind, kind.IsNormal) ∧ view.config.IsRegular
  | mapOfContent map => (∀ kind ∈ map.kinds, kind.IsNormal) ∧ map.config.IsRegular
  | profile _ => True
  | labelMapping mapping => mapping.kind.IsNormal
  | ignoreEntry _ => True

/-- The JSON that a definition carries. -/
def jsons : Definition → List Json
  | field definition => definition.validation.toList
  | viewTemplate view => [view.config]
  | mapOfContent map => [map.config]
  | _ => []

/-- A definition that is read from its own row. -/
def IsReadable : Definition → Prop
  | entityType type => type.toRow.toDefinition = type
  | field definition => definition.toRow.toDefinition = .ok definition
  | relationshipType type => type.toRow.toDefinition = type
  | relationshipAttribute attr => attr.toRow.toDefinition = attr
  | viewTemplate view => view.toRow.toDefinition = .ok view
  | mapOfContent map => map.toRow.toDefinition = .ok map
  | profile definition => definition.toRow.toDefinition = definition
  | labelMapping mapping => mapping.toRow.toDefinition = mapping
  | ignoreEntry entry => entry.toRow.toDefinition = entry

end Definition

/-! ### Columns -/

theorem readJson_eq_ok {α : Type} {codec : Codec α} {text : String} {value : α} :
    readJson codec text = .ok value ↔ codec.parse text = .ok value := by
  rw [readJson]
  cases codec.parse text with
  | error flaw => exact ⟨fun h => (nomatch h), fun h => (nomatch h)⟩
  | ok found =>
    constructor
    · intro h
      cases h
      rfl
    · intro h
      cases h
      rfl

/-- JSON that is written as it is read stays as it is, and where there is none there is none. -/
theorem map_text_of_readOptional {text? : Option String} {json? : Option Json}
    (hsteady : ∀ text, text? = some text → ∀ json, Codec.free.parse text = .ok json →
      json.text = text) (hread : readOptional (readJson .free) text? = .ok json?) :
    json?.map Json.text = text? := by
  cases text? with
  | none =>
    cases hread
    rfl
  | some text =>
    obtain ⟨json, hjson, rfl⟩ := Outcome.map_eq_ok.mp hread
    rw [Option.map_some, hsteady text rfl json (readJson_eq_ok.mp hjson)]

theorem readOptional_map {α : Type} {read : String → Except Failure α} {write : α → String}
    {value? : Option α} (hread : ∀ value ∈ value?, read (write value) = .ok value) :
    readOptional read (value?.map write) = .ok value? := by
  cases value? with
  | none => rfl
  | some value =>
    rw [Option.map_some, readOptional, hread value rfl]
    rfl

theorem readJson_kinds {kinds : List EntityKind} (hnormal : ∀ kind ∈ kinds, kind.IsNormal) :
    readJson (.list EntityKind.codec) ((Codec.list EntityKind.codec).write kinds) = .ok kinds := by
  have hrereads : (Codec.list EntityKind.codec).Rereads Json.maxDepth kinds :=
    Codec.Rereads.list fun kind hkind => EntityKind.rereads (hnormal kind hkind)
  have hsteady : ((Codec.list EntityKind.codec).encode kinds).IsSteady :=
    Json.isSteady_arr (List.forall_mem_map.mpr fun _ _ => List.forall_mem_nil _)
  exact readJson_eq_ok.mpr (hrereads.parse_write hsteady)

/-! ### Rows -/

theorem EntityType.toDefinition_toRow {type : EntityType} (hnormal : type.kind.IsNormal) :
    type.toRow.toDefinition = type := by
  rw [toRow, EntityTypeRow.toDefinition, hnormal]

theorem RelationshipType.toDefinition_toRow {type : RelationshipType}
    (hsource : type.source.IsNormal) (htarget : type.target.IsNormal) :
    type.toRow.toDefinition = type := by
  rw [toRow, RelationshipTypeRow.toDefinition, hsource, htarget]

theorem RelationshipAttribute.toDefinition_toRow {attr : RelationshipAttribute}
    (hnormal : attr.dataType.IsNormal) : attr.toRow.toDefinition = attr := by
  rw [toRow, AttributeRow.toDefinition, hnormal]

theorem LabelMapping.toDefinition_toRow {mapping : LabelMapping} (hnormal : mapping.kind.IsNormal) :
    mapping.toRow.toDefinition = mapping := by
  rw [toRow, LabelMappingRow.toDefinition, hnormal]

theorem Double.dropZeroSign_dropZeroSign (x : Double) :
    x.dropZeroSign.dropZeroSign = x.dropZeroSign := by
  unfold dropZeroSign
  split_ifs <;> rfl

/-- A profile comes back with the threshold that the store keeps. -/
theorem ExtractionProfile.toRow_toDefinition_toRow (profile : ExtractionProfile) :
    profile.toRow.toDefinition.toRow = profile.toRow := by
  rw [toRow, ProfileRow.toDefinition, toRow, Double.dropZeroSign_dropZeroSign]

theorem Field.toDefinition_eq_ok {field read : Field} (hnormal : field.dataType.IsNormal) :
    field.toRow.toDefinition = .ok read ↔
      ∃ validation, readOptional (readJson .free) (field.validation.map Json.text) = .ok validation ∧
        read = { field with validation } := by
  rw [FieldRow.toDefinition, Outcome.bind_eq_ok]
  constructor
  · rintro ⟨validation, hvalidation, hread⟩
    cases hread
    refine ⟨validation, hvalidation, ?_⟩
    rw [toRow, hnormal]
  · rintro ⟨validation, hvalidation, rfl⟩
    refine ⟨validation, hvalidation, ?_⟩
    rw [toRow, hnormal]

theorem ViewTemplate.toDefinition_eq_ok {view read : ViewTemplate}
    (hnormal : ∀ kind ∈ view.kind, kind.IsNormal) :
    view.toRow.toDefinition = .ok read ↔
      ∃ config, readJson .free view.config.text = .ok config ∧ read = { view with config } := by
  have hkind : (view.kind.map EntityKind.text).map EntityKind.parse = view.kind := by
    cases hview : view.kind with
    | none => rfl
    | some kind => exact congrArg some (hnormal kind hview)
  rw [ViewTemplateRow.toDefinition, Outcome.bind_eq_ok]
  constructor
  · rintro ⟨config, hconfig, hread⟩
    cases hread
    refine ⟨config, hconfig, ?_⟩
    rw [toRow, hkind]
  · rintro ⟨config, hconfig, rfl⟩
    refine ⟨config, hconfig, ?_⟩
    rw [toRow, hkind]

theorem MapOfContent.toDefinition_eq_ok {map read : MapOfContent}
    (hnormal : ∀ kind ∈ map.kinds, kind.IsNormal) :
    map.toRow.toDefinition = .ok read ↔
      ∃ config, readJson .free map.config.text = .ok config ∧ read = { map with config } := by
  rw [MapOfContentRow.toDefinition, Outcome.bind_eq_ok]
  constructor
  · rintro ⟨kinds, hkinds, hread⟩
    cases hkinds.symm.trans (readJson_kinds hnormal)
    obtain ⟨config, hconfig, hread⟩ := Outcome.bind_eq_ok.mp hread
    cases hread
    exact ⟨config, hconfig, rfl⟩
  · rintro ⟨config, hconfig, rfl⟩
    exact ⟨map.kinds, readJson_kinds hnormal, Outcome.bind_eq_ok.mpr ⟨config, hconfig, rfl⟩⟩

end KnowledgeSchema
