import KnowledgeSchema.Proofs.Store.Isolation

/-!
# Rows under new ids

A definition under an id that no row has yet is refused, or its row is added at the end of one table.
So a whole set of them, written into a store that takes it, is found at the ends of the tables.
-/

namespace KnowledgeSchema

/-- The rows that a set of definitions is kept as. -/
def DefinitionSet.rows (set : DefinitionSet) : DefinitionRows where
  entityTypes := set.entityTypes.map EntityType.toRow
  fields := set.fields.map Field.toRow
  relationshipTypes := set.relationshipTypes.map RelationshipType.toRow
  attributes := set.attributes.map RelationshipAttribute.toRow
  viewTemplates := set.viewTemplates.map ViewTemplate.toRow
  mapsOfContent := set.mapsOfContent.map MapOfContent.toRow
  profiles := set.profile.toList.map ExtractionProfile.toRow
  labelMappings := set.labelMappings.map LabelMapping.toRow
  ignoreEntries := set.ignoreEntries.map IgnoreEntry.toRow

namespace Store

/-- The store with more rows at the ends of its tables. -/
def extended (store : Store) (rows : DefinitionRows) : Store :=
  { store with
    entityTypes := store.entityTypes ++ rows.entityTypes
    fields := store.fields ++ rows.fields
    relationshipTypes := store.relationshipTypes ++ rows.relationshipTypes
    attributes := store.attributes ++ rows.attributes
    viewTemplates := store.viewTemplates ++ rows.viewTemplates
    mapsOfContent := store.mapsOfContent ++ rows.mapsOfContent
    profiles := store.profiles ++ rows.profiles
    labelMappings := store.labelMappings ++ rows.labelMappings
    ignoreEntries := store.ignoreEntries ++ rows.ignoreEntries }

def append (store : Store) : Definition → Store
  | .entityType type => { store with entityTypes := store.entityTypes ++ [type.toRow] }
  | .field field => { store with fields := store.fields ++ [field.toRow] }
  | .relationshipType type =>
    { store with relationshipTypes := store.relationshipTypes ++ [type.toRow] }
  | .relationshipAttribute attr => { store with attributes := store.attributes ++ [attr.toRow] }
  | .viewTemplate view => { store with viewTemplates := store.viewTemplates ++ [view.toRow] }
  | .mapOfContent map => { store with mapsOfContent := store.mapsOfContent ++ [map.toRow] }
  | .profile profile => { store with profiles := store.profiles ++ [profile.toRow] }
  | .labelMapping mapping => { store with labelMappings := store.labelMappings ++ [mapping.toRow] }
  | .ignoreEntry entry => { store with ignoreEntries := store.ignoreEntries ++ [entry.toRow] }

/-- Whether the owner of a definition is there and has room for it, and a threshold is a number. -/
def admits (store : Store) : Definition → Bool
  | .entityType type => store.hasVersion type.versionId
  | .field field => store.hasEntityType field.entityTypeId
  | .relationshipType type => store.hasVersion type.versionId
  | .relationshipAttribute attr => store.hasRelationshipType attr.relationshipTypeId
  | .viewTemplate view => store.hasVersion view.versionId
  | .mapOfContent map => store.hasVersion map.versionId
  | .profile profile =>
    profile.threshold.isNumber && store.hasVersion profile.versionId &&
      !store.profiles.any (·.versionId == profile.versionId)
  | .labelMapping mapping => store.hasProfile mapping.profileId
  | .ignoreEntry entry => store.hasProfile entry.profileId

variable {store after : Store} {definition : Definition} {definitions : List Definition}

/-! ### One definition -/

theorem any_eq_false_of_new {ρ : Type} {id owner : ρ → String} {rows : List ρ} {wanted : String}
    (hnew : wanted ∉ (rows.map fun row => (id row, owner row)).map (·.1)) :
    rows.any (id · == wanted) = false := by
  rw [List.any_eq_false]
  intro row hrow hid
  apply hnew
  rw [List.map_map]
  exact List.mem_map.mpr ⟨row, hrow, by simpa using hid⟩

theorem guarded_putRow_of_new {ρ : Type} (id owner : ρ → String) (row : ρ) {rows : List ρ}
    {merge : ρ → ρ → ρ} {allowed : Bool} (f : List ρ → Store)
    (hnew : id row ∉ (rows.map fun row => (id row, owner row)).map (·.1)) :
    guarded (rows.any (id · == id row) || allowed) (f (putRow id merge row rows)) = .ok after ↔
      allowed = true ∧ f (rows ++ [row]) = after := by
  have habsent : rows.any (id · == id row) = false := any_eq_false_of_new hnew
  rw [guarded_eq_ok, putRow, habsent, Bool.false_or]
  rfl

theorem save_eq_ok_of_new (hnew : definition.key.1 ∉ store.definitionIds) :
    store.save definition = .ok after ↔
      store.admits definition = true ∧ store.append definition = after := by
  simp only [mem_definitionIds, topKeys, childKeys, List.map_append, List.mem_append, not_or] at hnew
  obtain ⟨⟨⟨⟨⟨htypes, hrelationships⟩, hviews⟩, hmaps⟩, hprofiles⟩,
    ⟨⟨hfields, hattributes⟩, hmappings⟩, hentries⟩ := hnew
  cases definition with
  | entityType type =>
    exact guarded_putRow_of_new EntityTypeRow.id EntityTypeRow.versionId type.toRow
      (fun rows => { store with entityTypes := rows }) htypes
  | field field =>
    exact guarded_putRow_of_new FieldRow.id FieldRow.entityTypeId field.toRow
      (fun rows => { store with fields := rows }) hfields
  | relationshipType type =>
    exact guarded_putRow_of_new RelationshipTypeRow.id RelationshipTypeRow.versionId type.toRow
      (fun rows => { store with relationshipTypes := rows }) hrelationships
  | relationshipAttribute attr =>
    exact guarded_putRow_of_new AttributeRow.id AttributeRow.relationshipTypeId attr.toRow
      (fun rows => { store with attributes := rows }) hattributes
  | viewTemplate view =>
    exact guarded_putRow_of_new ViewTemplateRow.id ViewTemplateRow.versionId view.toRow
      (fun rows => { store with viewTemplates := rows }) hviews
  | mapOfContent map =>
    exact guarded_putRow_of_new MapOfContentRow.id MapOfContentRow.versionId map.toRow
      (fun rows => { store with mapsOfContent := rows }) hmaps
  | labelMapping mapping =>
    exact guarded_putRow_of_new LabelMappingRow.id LabelMappingRow.profileId mapping.toRow
      (fun rows => { store with labelMappings := rows }) hmappings
  | ignoreEntry entry =>
    exact guarded_putRow_of_new IgnoreEntryRow.id IgnoreEntryRow.profileId entry.toRow
      (fun rows => { store with ignoreEntries := rows }) hentries
  | profile profile =>
    have habsent : store.hasProfile profile.id = false := any_eq_false_of_new hprofiles
    calc
      store.save (.profile profile) = .ok after ↔
          (profile.threshold.isNumber = true ∧
            store.profiles.any (·.versionId == profile.versionId) = false) ∧
          store.hasVersion profile.versionId = true ∧ store.append (.profile profile) = after := by
        refine saveProfile_eq_ok.trans (and_congr ?_ ?_)
        · simp [habsent]
        · exact guarded_putRow_of_new ProfileRow.id ProfileRow.versionId profile.toRow
            (fun rows => { store with profiles := rows }) hprofiles
      _ ↔ store.admits (.profile profile) = true ∧ store.append (.profile profile) = after := by
        simp only [admits, Bool.and_eq_true, Bool.not_eq_true']
        tauto

theorem mem_definitionIds_append {id : String} (hid : id ∈ (store.append definition).definitionIds) :
    id ∈ store.definitionIds ∨ id = definition.key.1 := by
  simp only [mem_definitionIds, topKeys, childKeys, List.map_append, List.mem_append] at hid ⊢
  cases definition <;>
    simp only [append, Definition.key, List.map_append, List.mem_append, List.map_cons,
      List.map_nil, List.mem_singleton] at hid ⊢ <;>
    tauto

/-! ### Many definitions -/

/-- Whether a store takes definitions one after another. -/
def Admits (store : Store) : List Definition → Prop
  | [] => True
  | definition :: rest => store.admits definition = true ∧ (store.append definition).Admits rest

theorem admits_append {first second : List Definition} :
    store.Admits (first ++ second) ↔
      store.Admits first ∧ (first.foldl append store).Admits second := by
  induction first generalizing store with
  | nil => exact ⟨fun h => ⟨trivial, h⟩, fun h => h.2⟩
  | cons definition rest ih => rw [List.cons_append, Admits, Admits, ih, and_assoc, List.foldl_cons]

theorem writeAll_eq_ok_of_new (hnodup : (definitions.map fun each => each.key.1).Nodup)
    (hnew : ∀ each ∈ definitions, each.key.1 ∉ store.definitionIds) :
    store.writeAll (definitions.map .definition) = .ok after ↔
      store.Admits definitions ∧ definitions.foldl append store = after := by
  induction definitions generalizing store with
  | nil =>
    constructor
    · intro hwrite
      cases hwrite
      exact ⟨trivial, rfl⟩
    · rintro ⟨-, rfl⟩
      rfl
  | cons definition rest ih =>
    rw [List.map_cons, List.nodup_cons] at hnodup
    have hrest : ∀ each ∈ rest, each.key.1 ∉ (store.append definition).definitionIds := by
      intro each heach hid
      rcases mem_definitionIds_append hid with hold | hsame
      · exact hnew each (List.mem_cons_of_mem _ heach) hold
      · exact hnodup.1 (hsame ▸ List.mem_map_of_mem heach)
    simp only [writeAll_definitions_cons, save_eq_ok_of_new (hnew _ List.mem_cons_self), Admits,
      List.foldl_cons]
    constructor
    · rintro ⟨_, ⟨hadmits, rfl⟩, hwrite⟩
      obtain ⟨hothers, hafter⟩ := (ih hnodup.2 hrest).mp hwrite
      exact ⟨⟨hadmits, hothers⟩, hafter⟩
    · rintro ⟨⟨hadmits, hothers⟩, hafter⟩
      exact ⟨_, ⟨hadmits, rfl⟩, (ih hnodup.2 hrest).mpr ⟨hothers, hafter⟩⟩

/-! ### A set of definitions -/

theorem foldl_append_map {δ ρ : Type} (wrap : δ → Definition) (toRow : δ → ρ)
    (f : Store → List ρ → Store) (hone : ∀ store item, append store (wrap item) = f store [toRow item])
    (hnil : ∀ store, f store [] = store)
    (hmore : ∀ store first second, f (f store first) second = f store (first ++ second))
    (store : Store) (items : List δ) :
    (items.map wrap).foldl append store = f store (items.map toRow) := by
  induction items generalizing store with
  | nil => exact (hnil store).symm
  | cons item rest ih =>
    rw [List.map_cons, List.foldl_cons, ih, hone, hmore]
    rfl

theorem foldl_append_definitions (store : Store) (set : DefinitionSet) :
    set.definitions.foldl append store = store.extended set.rows := by
  have htypes := @foldl_append_map _ _ Definition.entityType EntityType.toRow
    (fun store rows => { store with entityTypes := store.entityTypes ++ rows })
    (fun _ _ => rfl) (fun _ => by simp) (fun _ _ _ => by simp)
  have hfields := @foldl_append_map _ _ Definition.field Field.toRow
    (fun store rows => { store with fields := store.fields ++ rows })
    (fun _ _ => rfl) (fun _ => by simp) (fun _ _ _ => by simp)
  have hrelationships := @foldl_append_map _ _ Definition.relationshipType RelationshipType.toRow
    (fun store rows => { store with relationshipTypes := store.relationshipTypes ++ rows })
    (fun _ _ => rfl) (fun _ => by simp) (fun _ _ _ => by simp)
  have hattributes := @foldl_append_map _ _ Definition.relationshipAttribute
    RelationshipAttribute.toRow
    (fun store rows => { store with attributes := store.attributes ++ rows })
    (fun _ _ => rfl) (fun _ => by simp) (fun _ _ _ => by simp)
  have hviews := @foldl_append_map _ _ Definition.viewTemplate ViewTemplate.toRow
    (fun store rows => { store with viewTemplates := store.viewTemplates ++ rows })
    (fun _ _ => rfl) (fun _ => by simp) (fun _ _ _ => by simp)
  have hmaps := @foldl_append_map _ _ Definition.mapOfContent MapOfContent.toRow
    (fun store rows => { store with mapsOfContent := store.mapsOfContent ++ rows })
    (fun _ _ => rfl) (fun _ => by simp) (fun _ _ _ => by simp)
  have hprofiles := @foldl_append_map _ _ Definition.profile ExtractionProfile.toRow
    (fun store rows => { store with profiles := store.profiles ++ rows })
    (fun _ _ => rfl) (fun _ => by simp) (fun _ _ _ => by simp)
  have hmappings := @foldl_append_map _ _ Definition.labelMapping LabelMapping.toRow
    (fun store rows => { store with labelMappings := store.labelMappings ++ rows })
    (fun _ _ => rfl) (fun _ => by simp) (fun _ _ _ => by simp)
  have hentries := @foldl_append_map _ _ Definition.ignoreEntry IgnoreEntry.toRow
    (fun store rows => { store with ignoreEntries := store.ignoreEntries ++ rows })
    (fun _ _ => rfl) (fun _ => by simp) (fun _ _ _ => by simp)
  simp only [DefinitionSet.definitions, List.foldl_append, htypes, hfields, hrelationships,
    hattributes, hviews, hmaps, hprofiles, hmappings, hentries]
  rfl

/-- A set of definitions under new ids, each under its own, is written as a whole or refused. -/
theorem writeAll_set_of_new {set : DefinitionSet}
    (hnodup : (set.definitions.map fun each => each.key.1).Nodup)
    (hnew : ∀ each ∈ set.definitions, each.key.1 ∉ store.definitionIds) :
    store.writeAll (set.definitions.map .definition) = .ok after ↔
      store.Admits set.definitions ∧ store.extended set.rows = after := by
  rw [writeAll_eq_ok_of_new hnodup hnew, foldl_append_definitions]

end Store

end KnowledgeSchema
