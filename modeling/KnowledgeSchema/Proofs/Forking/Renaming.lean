import KnowledgeSchema.Proofs.Compiling.Reading

/-!
# Renamed definitions

Definitions for another version under other ids. A new id goes wherever the old one stood: to the
definition itself, to what it owns, and to the children of a type.
-/

namespace KnowledgeSchema

/-- For each table, the new id of an old one. -/
abbrev Renaming :=
  Table → String → String

variable (ρ : Renaming) (versionId : String)

/-! ### Definitions -/

def EntityType.renamed (type : EntityType) : EntityType :=
  { type with
    id := ρ .entityTypes type.id, versionId, parentId := type.parentId.map (ρ .entityTypes) }

def Field.renamed (field : Field) : Field :=
  { field with id := ρ .fields field.id, entityTypeId := ρ .entityTypes field.entityTypeId }

def RelationshipType.renamed (type : RelationshipType) : RelationshipType :=
  { type with id := ρ .relationshipTypes type.id, versionId }

def RelationshipAttribute.renamed (attr : RelationshipAttribute) : RelationshipAttribute :=
  { attr with
    id := ρ .attributes attr.id, relationshipTypeId := ρ .relationshipTypes attr.relationshipTypeId }

def ViewTemplate.renamed (view : ViewTemplate) : ViewTemplate :=
  { view with id := ρ .viewTemplates view.id, versionId }

def MapOfContent.renamed (map : MapOfContent) : MapOfContent :=
  { map with id := ρ .mapsOfContent map.id, versionId }

def ExtractionProfile.renamed (profile : ExtractionProfile) : ExtractionProfile :=
  { profile with id := ρ .profiles profile.id, versionId }

def LabelMapping.renamed (mapping : LabelMapping) : LabelMapping :=
  { mapping with id := ρ .labelMappings mapping.id, profileId := ρ .profiles mapping.profileId }

def IgnoreEntry.renamed (entry : IgnoreEntry) : IgnoreEntry :=
  { entry with id := ρ .ignoreEntries entry.id, profileId := ρ .profiles entry.profileId }

def Definition.renamed : Definition → Definition
  | .entityType type => .entityType (type.renamed ρ versionId)
  | .field definition => .field (definition.renamed ρ)
  | .relationshipType type => .relationshipType (type.renamed ρ versionId)
  | .relationshipAttribute attr => .relationshipAttribute (attr.renamed ρ)
  | .viewTemplate view => .viewTemplate (view.renamed ρ versionId)
  | .mapOfContent map => .mapOfContent (map.renamed ρ versionId)
  | .profile definition => .profile (definition.renamed ρ versionId)
  | .labelMapping mapping => .labelMapping (mapping.renamed ρ)
  | .ignoreEntry entry => .ignoreEntry (entry.renamed ρ)

def DefinitionSet.renamed (set : DefinitionSet) : DefinitionSet where
  entityTypes := set.entityTypes.map (·.renamed ρ versionId)
  fields := set.fields.map (·.renamed ρ)
  relationshipTypes := set.relationshipTypes.map (·.renamed ρ versionId)
  attributes := set.attributes.map (·.renamed ρ)
  viewTemplates := set.viewTemplates.map (·.renamed ρ versionId)
  mapsOfContent := set.mapsOfContent.map (·.renamed ρ versionId)
  profile := set.profile.map (·.renamed ρ versionId)
  labelMappings := set.labelMappings.map (·.renamed ρ)
  ignoreEntries := set.ignoreEntries.map (·.renamed ρ)

/-! ### Rows -/

def EntityTypeRow.renamed (row : EntityTypeRow) : EntityTypeRow :=
  { row with
    id := ρ .entityTypes row.id, versionId, parentId := row.parentId.map (ρ .entityTypes) }

def FieldRow.renamed (row : FieldRow) : FieldRow :=
  { row with id := ρ .fields row.id, entityTypeId := ρ .entityTypes row.entityTypeId }

def RelationshipTypeRow.renamed (row : RelationshipTypeRow) : RelationshipTypeRow :=
  { row with id := ρ .relationshipTypes row.id, versionId }

def AttributeRow.renamed (row : AttributeRow) : AttributeRow :=
  { row with
    id := ρ .attributes row.id, relationshipTypeId := ρ .relationshipTypes row.relationshipTypeId }

def ViewTemplateRow.renamed (row : ViewTemplateRow) : ViewTemplateRow :=
  { row with id := ρ .viewTemplates row.id, versionId }

def MapOfContentRow.renamed (row : MapOfContentRow) : MapOfContentRow :=
  { row with id := ρ .mapsOfContent row.id, versionId }

def ProfileRow.renamed (row : ProfileRow) : ProfileRow :=
  { row with id := ρ .profiles row.id, versionId }

def LabelMappingRow.renamed (row : LabelMappingRow) : LabelMappingRow :=
  { row with id := ρ .labelMappings row.id, profileId := ρ .profiles row.profileId }

def IgnoreEntryRow.renamed (row : IgnoreEntryRow) : IgnoreEntryRow :=
  { row with id := ρ .ignoreEntries row.id, profileId := ρ .profiles row.profileId }

def DefinitionRows.renamed (rows : DefinitionRows) : DefinitionRows where
  entityTypes := rows.entityTypes.map (·.renamed ρ versionId)
  fields := rows.fields.map (·.renamed ρ)
  relationshipTypes := rows.relationshipTypes.map (·.renamed ρ versionId)
  attributes := rows.attributes.map (·.renamed ρ)
  viewTemplates := rows.viewTemplates.map (·.renamed ρ versionId)
  mapsOfContent := rows.mapsOfContent.map (·.renamed ρ versionId)
  profiles := rows.profiles.map (·.renamed ρ versionId)
  labelMappings := rows.labelMappings.map (·.renamed ρ)
  ignoreEntries := rows.ignoreEntries.map (·.renamed ρ)

variable {ρ versionId}

/-! ### Renaming and storing -/

theorem DefinitionSet.rows_renamed (set : DefinitionSet) :
    (set.renamed ρ versionId).rows = set.rows.renamed ρ versionId := by
  simp only [rows, renamed, DefinitionRows.renamed, List.map_map, DefinitionRows.mk.injEq]
  refine ⟨rfl, rfl, rfl, rfl, rfl, rfl, ?_, rfl, rfl⟩
  cases set.profile <;> rfl

theorem DefinitionRows.Perm.renamed {first second : DefinitionRows} (hperm : first.Perm second) :
    (first.renamed ρ versionId).Perm (second.renamed ρ versionId) where
  entityTypes := hperm.entityTypes.map _
  fields := hperm.fields.map _
  relationshipTypes := hperm.relationshipTypes.map _
  attributes := hperm.attributes.map _
  viewTemplates := hperm.viewTemplates.map _
  mapsOfContent := hperm.mapsOfContent.map _
  profiles := hperm.profiles.map _
  labelMappings := hperm.labelMappings.map _
  ignoreEntries := hperm.ignoreEntries.map _

theorem mem_ids_renamed {σ : Type} {id : σ → String} {rename : σ → σ} {f : String → String}
    {parents : List σ} {owner : String} (hid : ∀ parent, id (rename parent) = f (id parent))
    (howner : owner ∈ parents.map id) : f owner ∈ (parents.map rename).map id := by
  obtain ⟨parent, hparent, rfl⟩ := List.mem_map.mp howner
  exact List.mem_map.mpr ⟨rename parent, List.mem_map_of_mem hparent, hid parent⟩

theorem DefinitionRows.IsOwned.renamed {rows : DefinitionRows} {owner : String}
    (howned : rows.IsOwned owner) : (rows.renamed ρ versionId).IsOwned versionId where
  entityTypes := List.forall_mem_map.mpr fun _ _ => rfl
  fields := List.forall_mem_map.mpr fun row hrow =>
    mem_ids_renamed (fun _ => rfl) (howned.fields row hrow)
  relationshipTypes := List.forall_mem_map.mpr fun _ _ => rfl
  attributes := List.forall_mem_map.mpr fun row hrow =>
    mem_ids_renamed (fun _ => rfl) (howned.attributes row hrow)
  viewTemplates := List.forall_mem_map.mpr fun _ _ => rfl
  mapsOfContent := List.forall_mem_map.mpr fun _ _ => rfl
  profiles := List.forall_mem_map.mpr fun _ _ => rfl
  labelMappings := List.forall_mem_map.mpr fun row hrow =>
    mem_ids_renamed (fun _ => rfl) (howned.labelMappings row hrow)
  ignoreEntries := List.forall_mem_map.mpr fun row hrow =>
    mem_ids_renamed (fun _ => rfl) (howned.ignoreEntries row hrow)

theorem EntityType.toDefinition_renamed (type : EntityType) :
    (type.renamed ρ versionId).toRow.toDefinition =
      type.toRow.toDefinition.renamed ρ versionId := by
  simp only [toRow, renamed, EntityTypeRow.toDefinition]

theorem RelationshipType.toDefinition_renamed (type : RelationshipType) :
    (type.renamed ρ versionId).toRow.toDefinition =
      type.toRow.toDefinition.renamed ρ versionId := by
  simp only [toRow, renamed, RelationshipTypeRow.toDefinition]

theorem RelationshipAttribute.toDefinition_renamed (attr : RelationshipAttribute) :
    (attr.renamed ρ).toRow.toDefinition = attr.toRow.toDefinition.renamed ρ := by
  simp only [toRow, renamed, AttributeRow.toDefinition]

theorem LabelMapping.toDefinition_renamed (mapping : LabelMapping) :
    (mapping.renamed ρ).toRow.toDefinition = mapping.toRow.toDefinition.renamed ρ := by
  simp only [toRow, renamed, LabelMappingRow.toDefinition]

theorem Field.toDefinition_renamed (field : Field) :
    (field.renamed ρ).toRow.toDefinition = (·.renamed ρ) <$> field.toRow.toDefinition := by
  simp only [FieldRow.toDefinition, toRow, renamed]
  cases readOptional (readJson .free) (field.validation.map Json.text) <;> rfl

theorem ViewTemplate.toDefinition_renamed (view : ViewTemplate) :
    (view.renamed ρ versionId).toRow.toDefinition =
      (·.renamed ρ versionId) <$> view.toRow.toDefinition := by
  simp only [ViewTemplateRow.toDefinition, toRow, renamed]
  cases readJson .free view.config.text <;> rfl

theorem MapOfContent.toDefinition_renamed (map : MapOfContent) :
    (map.renamed ρ versionId).toRow.toDefinition =
      (·.renamed ρ versionId) <$> map.toRow.toDefinition := by
  simp only [MapOfContentRow.toDefinition, toRow, renamed]
  cases readJson (.list EntityKind.codec) ((Codec.list EntityKind.codec).write map.kinds) with
  | error failure => rfl
  | ok kinds => cases readJson .free map.config.text <;> rfl

/-- Ids and owners are no part of what a reader may refuse. -/
theorem Definition.IsReadable.renamed {definition : Definition}
    (hreadable : definition.IsReadable) : (definition.renamed ρ versionId).IsReadable := by
  cases definition with
  | entityType type =>
    rw [IsReadable] at hreadable
    rw [Definition.renamed, IsReadable, EntityType.toDefinition_renamed, hreadable]
  | field field =>
    rw [IsReadable] at hreadable
    rw [Definition.renamed, IsReadable, Field.toDefinition_renamed, hreadable]
    rfl
  | relationshipType type =>
    rw [IsReadable] at hreadable
    rw [Definition.renamed, IsReadable, RelationshipType.toDefinition_renamed, hreadable]
  | relationshipAttribute attr =>
    rw [IsReadable] at hreadable
    rw [Definition.renamed, IsReadable, RelationshipAttribute.toDefinition_renamed, hreadable]
  | viewTemplate view =>
    rw [IsReadable] at hreadable
    rw [Definition.renamed, IsReadable, ViewTemplate.toDefinition_renamed, hreadable]
    rfl
  | mapOfContent map =>
    rw [IsReadable] at hreadable
    rw [Definition.renamed, IsReadable, MapOfContent.toDefinition_renamed, hreadable]
    rfl
  | profile profile => exact congrArg (ExtractionProfile.renamed ρ versionId) hreadable
  | labelMapping mapping =>
    rw [IsReadable] at hreadable
    rw [Definition.renamed, IsReadable, LabelMapping.toDefinition_renamed, hreadable]
  | ignoreEntry entry => rfl

theorem DefinitionSet.definitions_renamed (set : DefinitionSet) :
    (set.renamed ρ versionId).definitions =
      set.definitions.map (·.renamed ρ versionId) := by
  simp only [definitions, renamed, List.map_append, List.map_map]
  cases set.profile <;> rfl

theorem DefinitionSet.IsReadable.renamed {set : DefinitionSet} (hreadable : set.IsReadable) :
    (set.renamed ρ versionId).IsReadable := by
  rw [IsReadable, DefinitionSet.definitions_renamed]
  exact List.forall_mem_map.mpr fun definition hmem => (hreadable definition hmem).renamed

end KnowledgeSchema
