import Mathlib.Data.List.Perm.Basic
import KnowledgeSchema.Operation.Compile
import KnowledgeSchema.Proofs.Compiling.Arrangement

/-!
# What was read

The definitions in the content of a version are written as the rows that they were read from, each of
them once, when every row is written as it is read.
-/

namespace KnowledgeSchema

namespace Content

/-- The definitions in a content, each list by itself. -/
def definitions (content : Content) : DefinitionSet where
  entityTypes := content.types
  fields := content.entityTypes.flatMap (·.2)
  relationshipTypes := content.relationships.map (·.1)
  attributes := content.relationships.flatMap (·.2)
  viewTemplates := content.viewTemplates
  mapsOfContent := content.mapsOfContent
  profile := content.profile.map (·.definition)
  labelMappings := content.profile.toList.flatMap (·.labelMappings)
  ignoreEntries := content.profile.toList.flatMap (·.ignoreEntries)

end Content

namespace DefinitionRows

/-- Rows that are written as they are read. -/
structure IsFaithful (rows : DefinitionRows) : Prop where
  entityTypes : ∀ row ∈ rows.entityTypes, row.toDefinition.toRow = row
  fields : ∀ row ∈ rows.fields, ∀ field, row.toDefinition = .ok field → field.toRow = row
  relationshipTypes : ∀ row ∈ rows.relationshipTypes, row.toDefinition.toRow = row
  attributes : ∀ row ∈ rows.attributes, row.toDefinition.toRow = row
  viewTemplates : ∀ row ∈ rows.viewTemplates, ∀ view, row.toDefinition = .ok view → view.toRow = row
  mapsOfContent : ∀ row ∈ rows.mapsOfContent, ∀ map, row.toDefinition = .ok map → map.toRow = row
  profiles : ∀ row ∈ rows.profiles, row.toDefinition.toRow = row
  labelMappings : ∀ row ∈ rows.labelMappings, row.toDefinition.toRow = row
  ignoreEntries : ∀ row ∈ rows.ignoreEntries, row.toDefinition.toRow = row

/-- The texts of the JSON in the rows of a version. -/
def jsonTexts (rows : DefinitionRows) : List String :=
  rows.fields.filterMap (·.validation) ++ rows.viewTemplates.map (·.config) ++
    rows.mapsOfContent.map (·.config)

/-- Whether all JSON of a version is written as it is read. -/
def IsSteady (rows : DefinitionRows) : Prop :=
  ∀ text ∈ rows.jsonTexts, ∀ json, Codec.free.parse text = .ok json → json.text = text

end DefinitionRows

namespace Store

variable {store : Store} {versionId : String}

/-! ### Rows of normal definitions -/

theorem mem_jsonTexts {rows : DefinitionRows} {text : String} :
    text ∈ rows.jsonTexts ↔ (∃ row ∈ rows.fields, row.validation = some text) ∨
      (∃ row ∈ rows.viewTemplates, row.config = text) ∨
        ∃ row ∈ rows.mapsOfContent, row.config = text := by
  simp only [DefinitionRows.jsonTexts, List.mem_append, List.mem_filterMap, List.mem_map, or_assoc]

/-- What a copy asks of the rows of a version follows from what is to be expected of doubles, that each
of them is read from its own text as what it is. -/
theorem IsNormal.isSteady (hnormal : store.IsNormal)
    (hsteady : ∀ json : Json, json.IsRegular → json.text ∈ (store.rowsOf versionId).jsonTexts →
      json.IsSteady) : (store.rowsOf versionId).IsSteady := by
  have hread : ∀ json : Json, json.IsRegular → json.text ∈ (store.rowsOf versionId).jsonTexts →
      ∀ found, Codec.free.parse json.text = .ok found → found.text = json.text := by
    intro json hregular hmem found hfound
    rw [Json.eq_of_parse_text hregular (hsteady json hregular hmem) hfound]
  intro text htext
  rcases mem_jsonTexts.mp htext with ⟨row, hrow, hvalidation⟩ | ⟨row, hrow, rfl⟩ | ⟨row, hrow, rfl⟩
  · obtain ⟨field, hfield, rfl⟩ := hnormal.fields row (List.mem_of_mem_filter hrow)
    obtain ⟨json, hjson, rfl⟩ := Option.map_eq_some_iff.mp hvalidation
    exact hread json (hfield.2 json hjson) htext
  · obtain ⟨view, hview, rfl⟩ := hnormal.viewTemplates row (List.mem_of_mem_filter hrow)
    exact hread view.config hview.2 htext
  · obtain ⟨map, hmap, rfl⟩ := hnormal.mapsOfContent row (List.mem_of_mem_filter hrow)
    exact hread map.config hmap.2 htext

theorem IsNormal.isFaithful (hnormal : store.IsNormal)
    (hsteady : (store.rowsOf versionId).IsSteady) : (store.rowsOf versionId).IsFaithful := by
  refine ⟨?types, ?fields, ?relationships, ?attributes, ?views, ?maps, ?profiles, ?mappings,
    ?entries⟩
  case types =>
    intro row hrow
    obtain ⟨type, htype, rfl⟩ := hnormal.entityTypes row (List.mem_of_mem_filter hrow)
    rw [EntityType.toDefinition_toRow htype]
  case fields =>
    intro row hrow read hread
    obtain ⟨field, hfield, rfl⟩ := hnormal.fields row (List.mem_of_mem_filter hrow)
    obtain ⟨validation, hvalidation, rfl⟩ := (Field.toDefinition_eq_ok hfield.1).mp hread
    have hsame : validation.map Json.text = field.validation.map Json.text := by
      refine map_text_of_readOptional (fun text htext json hjson => ?_) hvalidation
      exact hsteady text (mem_jsonTexts.mpr (Or.inl ⟨field.toRow, hrow, htext⟩)) json hjson
    rw [Field.toRow, Field.toRow, hsame]
  case relationships =>
    intro row hrow
    obtain ⟨type, htype, rfl⟩ := hnormal.relationshipTypes row (List.mem_of_mem_filter hrow)
    rw [RelationshipType.toDefinition_toRow htype.1 htype.2]
  case attributes =>
    intro row hrow
    obtain ⟨attr, hattr, rfl⟩ := hnormal.attributes row (List.mem_of_mem_filter hrow)
    rw [RelationshipAttribute.toDefinition_toRow hattr]
  case views =>
    intro row hrow read hread
    obtain ⟨view, hview, rfl⟩ := hnormal.viewTemplates row (List.mem_of_mem_filter hrow)
    obtain ⟨config, hconfig, rfl⟩ := (ViewTemplate.toDefinition_eq_ok hview.1).mp hread
    have hsame : config.text = view.config.text :=
      hsteady _ (mem_jsonTexts.mpr (Or.inr (Or.inl ⟨view.toRow, hrow, rfl⟩))) config
        (readJson_eq_ok.mp hconfig)
    rw [ViewTemplate.toRow, ViewTemplate.toRow, hsame]
  case maps =>
    intro row hrow read hread
    obtain ⟨map, hmap, rfl⟩ := hnormal.mapsOfContent row (List.mem_of_mem_filter hrow)
    obtain ⟨config, hconfig, rfl⟩ := (MapOfContent.toDefinition_eq_ok hmap.1).mp hread
    have hsame : config.text = map.config.text :=
      hsteady _ (mem_jsonTexts.mpr (Or.inr (Or.inr ⟨map.toRow, hrow, rfl⟩))) config
        (readJson_eq_ok.mp hconfig)
    rw [MapOfContent.toRow, MapOfContent.toRow, hsame]
  case profiles =>
    intro row hrow
    obtain ⟨profile, -, rfl⟩ := hnormal.profiles row (List.mem_of_mem_filter hrow)
    exact profile.toRow_toDefinition_toRow
  case mappings =>
    intro row hrow
    obtain ⟨mapping, hmapping, rfl⟩ := hnormal.labelMappings row (List.mem_of_mem_filter hrow)
    rw [LabelMapping.toDefinition_toRow hmapping]
  case entries =>
    intro row _
    rfl

/-! ### Lists that were read -/

theorem mapM_faithful {δ ρ : Type} {toRow : δ → ρ} {read : ρ → Except Failure δ} {rows : List ρ}
    {items : List δ} (hfaithful : ∀ row ∈ rows, ∀ item, read row = .ok item → toRow item = row)
    (hread : rows.mapM read = .ok items) :
    items.map toRow = rows ∧ ∀ item ∈ items, read (toRow item) = .ok item := by
  have hall := Outcome.mapM_eq_ok.mp hread
  clear hread
  induction hall with
  | nil => exact ⟨rfl, fun _ hitem => absurd hitem List.not_mem_nil⟩
  | @cons row item rows items hitem _ ih =>
    have hrow := hfaithful row List.mem_cons_self item hitem
    obtain ⟨hrows, hitems⟩ := ih fun row hrow => hfaithful row (List.mem_cons_of_mem _ hrow)
    refine ⟨by rw [List.map_cons, hrow, hrows], fun other hother => ?_⟩
    rcases List.mem_cons.mp hother with rfl | hother
    · rw [hrow, hitem]
    · exact hitems other hother

theorem map_faithful {δ ρ : Type} {toRow : δ → ρ} {read : ρ → δ} {rows : List ρ}
    (hfaithful : ∀ row ∈ rows, toRow (read row) = row) :
    (rows.map read).map toRow = rows ∧ ∀ item ∈ rows.map read, read (toRow item) = item := by
  constructor
  · rw [List.map_map]
    exact (List.map_congr_left hfaithful).trans (List.map_id _)
  · intro item hitem
    obtain ⟨row, hrow, rfl⟩ := List.mem_map.mp hitem
    rw [hfaithful row hrow]

/-- Rows taken owner by owner are all rows of the owners. -/
theorem flatMap_filter_perm {ρ : Type} {owner : ρ → String} {owners : List String}
    (hnodup : owners.Nodup) {rows : List ρ} (hrows : ∀ row ∈ rows, owner row ∈ owners) :
    (owners.flatMap fun id => rows.filter (owner · == id)).Perm rows := by
  induction owners generalizing rows with
  | nil =>
    cases rows with
    | nil => exact .refl _
    | cons row rest => exact absurd (hrows row List.mem_cons_self) List.not_mem_nil
  | cons first rest ih =>
    obtain ⟨hfirst, hrest⟩ := List.nodup_cons.mp hnodup
    have hothers : (rest.flatMap fun id => rows.filter (owner · == id)) =
        rest.flatMap fun id => (rows.filter (!owner · == first)).filter (owner · == id) := by
      refine List.flatMap_congr fun id hid => ?_
      rw [List.filter_filter]
      refine List.filter_congr fun row _ => ?_
      by_cases hrow : owner row = id
      · have hne : id ≠ first := fun hsame => hfirst (hsame ▸ hid)
        simp [hrow, hne]
      · simp [hrow]
    rw [List.flatMap_cons, hothers]
    refine ((ih hrest fun row hrow => ?_).append_left _).trans ?_
    · obtain ⟨hmem, hne⟩ := List.mem_filter.mp hrow
      exact (List.mem_cons.mp (hrows row hmem)).resolve_left (by simpa using hne)
    · exact List.filter_append_perm _ rows

/-! ### The content of a version -/

theorem nodup_rowsOf {ρ : Type} {id owner : ρ → String} {rows : List ρ} {keeps : ρ → Bool}
    (hnodup : ((rows.map fun row => (id row, owner row)).map (·.1)).Nodup) :
    ((rows.filter keeps).map id).Nodup := by
  rw [List.map_map] at hnodup
  exact (List.filter_sublist.map _).nodup hnodup

theorem IsConsistent.nodup_idsIn (hstore : store.IsConsistent) (table : Table) :
    ((store.rowsOf versionId).idsIn table).Nodup := by
  have hdistinct := hstore.distinct table
  cases table with
  | blueprints | versions => exact List.nodup_nil
  | _ => exact ((List.filter_sublist.map _).map _).nodup hdistinct

/-- Children read owner by owner are written as all the rows below the owners. -/
theorem flatMap_children_perm {α δ ρ : Type} {toRow : δ → ρ} {owner : ρ → String} {rows : List ρ}
    {owns : String → Bool} {ownerId : α → String} {children : α → List δ} {items : List α}
    (hnodup : (items.map ownerId).Nodup)
    (howns : ∀ id, owns id = true → id ∈ items.map ownerId)
    (hchildren : ∀ item ∈ items,
      ((children item).map toRow).Perm (rows.filter (owner · == ownerId item)))
    (howned : ∀ item ∈ items, owns (ownerId item) = true) :
    ((items.flatMap children).map toRow).Perm (rows.filter (owns <| owner ·)) := by
  have hgroups : (items.flatMap fun item => (rows.filter (owns <| owner ·)).filter
      (owner · == ownerId item)).Perm (rows.filter (owns <| owner ·)) := by
    have hall := @flatMap_filter_perm ρ owner (items.map ownerId) hnodup
      (rows.filter (owns <| owner ·)) fun row hrow => howns _ (List.mem_filter.mp hrow).2
    rwa [List.flatMap_map] at hall
  rw [List.map_flatMap]
  refine (List.Perm.flatMap_left items fun item hitem => ?_).trans hgroups
  rw [filter_owned (howned item hitem)]
  exact hchildren item hitem

theorem filter_eq_toList {ρ : Type} {owner : ρ → String} {rows : List ρ}
    (hnodup : (rows.map owner).Nodup) (wanted : String) :
    rows.filter (owner · == wanted) = (rows.find? (owner · == wanted)).toList := by
  induction rows with
  | nil => rfl
  | cons row rest ih =>
    obtain ⟨hfirst, hrest⟩ := List.nodup_cons.mp hnodup
    by_cases hrow : owner row = wanted
    · have hnone : rest.filter (owner · == wanted) = [] := by
        refine List.filter_eq_nil_iff.mpr fun other hother hsame => hfirst ?_
        exact hrow.trans (beq_iff_eq.mp hsame).symm ▸ List.mem_map_of_mem hother
      rw [List.filter_cons_of_pos (by simpa using hrow),
        List.find?_cons_of_pos (by simpa using hrow), hnone]
      rfl
    · rw [List.filter_cons_of_neg (by simpa using hrow),
        List.find?_cons_of_neg (by simpa using hrow), ih hrest]

theorem mapM_typeContent {types : List EntityType} {items : List (EntityType × List Field)}
    (hread : types.mapM store.typeContent = .ok items) :
    items.map (·.1) = types ∧ ∀ item ∈ items, store.listFields item.1.id = .ok item.2 := by
  have hall := Outcome.mapM_eq_ok.mp hread
  clear hread
  induction hall with
  | nil => exact ⟨rfl, fun _ hitem => absurd hitem List.not_mem_nil⟩
  | @cons type item types items hitem _ ih =>
    obtain ⟨fields, hfields, hitem⟩ := Outcome.bind_eq_ok.mp hitem
    cases hitem
    refine ⟨by rw [List.map_cons, ih.1], fun other hother => ?_⟩
    rcases List.mem_cons.mp hother with rfl | hother
    · exact hfields
    · exact ih.2 other hother

/-! ### Each list -/

theorem ids_listEntityTypes (store : Store) (versionId : String) :
    ((store.listEntityTypes versionId).map (·.id)).Perm
      ((store.rowsOf versionId).entityTypes.map (·.id)) := by
  rw [listEntityTypes, List.map_map]
  exact (ordered_perm _ _).map _

theorem ids_listRelationshipTypes (store : Store) (versionId : String) :
    ((store.listRelationshipTypes versionId).map (·.id)).Perm
      ((store.rowsOf versionId).relationshipTypes.map (·.id)) := by
  rw [listRelationshipTypes, List.map_map]
  exact (ordered_perm _ _).map _

theorem mem_owned {ρ : Type} {owner : ρ → String} {rows : List ρ} {owns : String → Bool}
    {order : ρ → ρ → Ordering} {wanted : String} (howns : owns wanted = true) :
    ∀ row ∈ ordered order (rows.filter (owner · == wanted)), row ∈ rows.filter (owns <| owner ·) := by
  intro row hrow
  obtain ⟨hmem, howner⟩ := List.mem_filter.mp (mem_ordered.mp hrow)
  exact List.mem_filter.mpr ⟨hmem, by rw [beq_iff_eq.mp howner, howns]⟩

section Lists

variable (hfaithful : (store.rowsOf versionId).IsFaithful)
include hfaithful

theorem listEntityTypes_faithful :
    ((store.listEntityTypes versionId).map EntityType.toRow).Perm
        (store.rowsOf versionId).entityTypes ∧
      ∀ type ∈ store.listEntityTypes versionId, type.toRow.toDefinition = type := by
  obtain ⟨hrows, hread⟩ := map_faithful fun row
    (hrow : row ∈ ordered (byKey (·.kind) (·.id)) (store.rowsOf versionId).entityTypes) =>
      hfaithful.entityTypes row (mem_ordered.mp hrow)
  exact ⟨hrows ▸ ordered_perm _ _, hread⟩

theorem listRelationshipTypes_faithful :
    ((store.listRelationshipTypes versionId).map RelationshipType.toRow).Perm
        (store.rowsOf versionId).relationshipTypes ∧
      ∀ type ∈ store.listRelationshipTypes versionId, type.toRow.toDefinition = type := by
  obtain ⟨hrows, hread⟩ := map_faithful fun row
    (hrow : row ∈ ordered (byKey (·.name) (·.id)) (store.rowsOf versionId).relationshipTypes) =>
      hfaithful.relationshipTypes row (mem_ordered.mp hrow)
  exact ⟨hrows ▸ ordered_perm _ _, hread⟩

theorem listViewTemplates_faithful {views : List ViewTemplate}
    (hviews : store.listViewTemplates versionId = .ok views) :
    (views.map ViewTemplate.toRow).Perm (store.rowsOf versionId).viewTemplates ∧
      ∀ view ∈ views, view.toRow.toDefinition = .ok view := by
  obtain ⟨hrows, hread⟩ := mapM_faithful
    (fun row hrow => hfaithful.viewTemplates row (mem_ordered.mp hrow)) hviews
  exact ⟨hrows ▸ ordered_perm _ _, hread⟩

theorem listMapsOfContent_faithful {maps : List MapOfContent}
    (hmaps : store.listMapsOfContent versionId = .ok maps) :
    (maps.map MapOfContent.toRow).Perm (store.rowsOf versionId).mapsOfContent ∧
      ∀ map ∈ maps, map.toRow.toDefinition = .ok map := by
  obtain ⟨hrows, hread⟩ := mapM_faithful
    (fun row hrow => hfaithful.mapsOfContent row (mem_ordered.mp hrow)) hmaps
  exact ⟨hrows ▸ ordered_perm _ _, hread⟩

theorem listFields_faithful {type : EntityType} (htype : type ∈ store.listEntityTypes versionId)
    {fields : List Field} (hfields : store.listFields type.id = .ok fields) :
    (fields.map Field.toRow).Perm (store.fields.filter (·.entityTypeId == type.id)) ∧
      ∀ field ∈ fields, field.toRow.toDefinition = .ok field := by
  obtain ⟨hrows, hread⟩ := mapM_faithful (fun row hrow => hfaithful.fields row
    (mem_owned (ownsEntityType_of_mem htype) row hrow)) hfields
  rw [hrows]
  exact ⟨ordered_perm _ _, hread⟩

theorem listAttributes_faithful {type : RelationshipType}
    (htype : type ∈ store.listRelationshipTypes versionId) :
    ((store.listAttributes type.id).map RelationshipAttribute.toRow).Perm
        (store.attributes.filter (·.relationshipTypeId == type.id)) ∧
      ∀ attr ∈ store.listAttributes type.id, attr.toRow.toDefinition = attr := by
  obtain ⟨hrows, hread⟩ := map_faithful fun row hrow => hfaithful.attributes row
    (mem_owned (ownsRelationshipType_of_mem htype) row hrow)
  rw [listAttributes, hrows]
  exact ⟨ordered_perm _ _, hread⟩

theorem listLabelMappings_faithful {profile : ExtractionProfile}
    (hprofile : store.profile? versionId = some profile) :
    ((store.listLabelMappings profile.id).map LabelMapping.toRow).Perm
        (store.labelMappings.filter (·.profileId == profile.id)) ∧
      ∀ mapping ∈ store.listLabelMappings profile.id, mapping.toRow.toDefinition = mapping := by
  obtain ⟨hrows, hread⟩ := map_faithful fun row hrow => hfaithful.labelMappings row
    (mem_owned (ownsProfile_of_profile? hprofile) row hrow)
  rw [listLabelMappings, hrows]
  exact ⟨ordered_perm _ _, hread⟩

theorem listIgnoreEntries_faithful {profile : ExtractionProfile}
    (hprofile : store.profile? versionId = some profile) :
    ((store.listIgnoreEntries profile.id).map IgnoreEntry.toRow).Perm
        (store.ignoreEntries.filter (·.profileId == profile.id)) ∧
      ∀ entry ∈ store.listIgnoreEntries profile.id, entry.toRow.toDefinition = entry := by
  obtain ⟨hrows, hread⟩ := map_faithful fun row hrow => hfaithful.ignoreEntries row
    (mem_owned (ownsProfile_of_profile? hprofile) row hrow)
  rw [listIgnoreEntries, hrows]
  exact ⟨ordered_perm _ _, hread⟩

end Lists

theorem toList_profile? (hstore : store.IsConsistent) (versionId : String) :
    (store.profile? versionId).toList =
      (store.rowsOf versionId).profiles.map ProfileRow.toDefinition := by
  have hnodup : (store.profiles.map (·.versionId)).Nodup := by
    have hsingle := hstore.single
    rwa [keysIn, List.map_map] at hsingle
  have hrows : (store.rowsOf versionId).profiles =
      (store.profiles.find? (·.versionId == versionId)).toList :=
    filter_eq_toList hnodup versionId
  rw [hrows, profile?]
  cases store.profiles.find? (·.versionId == versionId) with
  | none => rfl
  | some row => rfl

/-- What was read, list by list. -/
theorem definitions_content {content : Content} (hcontent : store.content versionId = .ok content) :
    ∃ entityTypes views maps,
      (store.listEntityTypes versionId).mapM store.typeContent = .ok entityTypes ∧
      store.listViewTemplates versionId = .ok views ∧
      store.listMapsOfContent versionId = .ok maps ∧
      content.definitions =
        { entityTypes := store.listEntityTypes versionId
          fields := entityTypes.flatMap (·.2)
          relationshipTypes := store.listRelationshipTypes versionId
          attributes := (store.listRelationshipTypes versionId).flatMap fun type =>
            store.listAttributes type.id
          viewTemplates := views
          mapsOfContent := maps
          profile := store.profile? versionId
          labelMappings := (store.profile? versionId).toList.flatMap fun profile =>
            store.listLabelMappings profile.id
          ignoreEntries := (store.profile? versionId).toList.flatMap fun profile =>
            store.listIgnoreEntries profile.id } := by
  obtain ⟨entityTypes, hentityTypes, hcontent⟩ := Outcome.bind_eq_ok.mp hcontent
  obtain ⟨views, hviews, hcontent⟩ := Outcome.bind_eq_ok.mp hcontent
  obtain ⟨maps, hmaps, hcontent⟩ := Outcome.bind_eq_ok.mp hcontent
  cases hcontent
  refine ⟨entityTypes, views, maps, hentityTypes, hviews, hmaps, ?_⟩
  have hrelationships : ((store.listRelationshipTypes versionId).map fun relationship =>
      (relationship, store.listAttributes relationship.id)).map (·.1) =
        store.listRelationshipTypes versionId := by
    rw [List.map_map]
    exact List.map_id _
  rw [Content.definitions, Content.types, (mapM_typeContent hentityTypes).1, hrelationships,
    List.flatMap_map]
  cases store.profile? versionId with
  | none => rfl
  | some profile => rfl

/-- The definitions read for a version are those that its rows are kept for. -/
theorem IsConsistent.holds (hstore : store.IsConsistent)
    (hfaithful : (store.rowsOf versionId).IsFaithful) {content : Content}
    (hcontent : store.content versionId = .ok content) :
    store.Holds versionId content.definitions := by
  obtain ⟨entityTypes, views, maps, hentityTypes, hviews, hmaps, hset⟩ :=
    definitions_content hcontent
  rw [hset]
  obtain ⟨htypes, hfields⟩ := mapM_typeContent hentityTypes
  have hmem : ∀ item ∈ entityTypes, item.1 ∈ store.listEntityTypes versionId := fun item hitem =>
    htypes ▸ List.mem_map_of_mem hitem
  have hids : entityTypes.map (·.1.id) = (store.listEntityTypes versionId).map (·.id) := by
    rw [← htypes, List.map_map]
    rfl
  have hprofiles := toList_profile? hstore versionId
  have hprofileIds : (store.profile? versionId).toList.map (·.id) =
      (store.rowsOf versionId).profiles.map (·.id) := by
    rw [hprofiles, List.map_map]
    rfl
  have hprofileNodup : ((store.profile? versionId).toList.map (·.id)).Nodup := by
    rw [hprofileIds]
    exact nodup_rowsOf (hstore.distinct .profiles)
  refine ⟨hstore, ⟨(listEntityTypes_faithful hfaithful).1.symm, ?fields,
    (listRelationshipTypes_faithful hfaithful).1.symm, ?attributes,
    (listViewTemplates_faithful hfaithful hviews).1.symm,
    (listMapsOfContent_faithful hfaithful hmaps).1.symm, ?profiles, ?mappings, ?entries⟩, ?readable⟩
  case fields =>
    refine (flatMap_children_perm ?_ (fun id howns => ?_) (fun item hitem =>
      (listFields_faithful hfaithful (hmem item hitem) (hfields item hitem)).1) fun item hitem =>
        ownsEntityType_of_mem (hmem item hitem)).symm
    · rw [hids, (ids_listEntityTypes store versionId).nodup_iff]
      exact nodup_rowsOf (hstore.distinct .entityTypes)
    · rw [hids, (ids_listEntityTypes store versionId).mem_iff]
      exact mem_ids_of_owns.mp howns
  case attributes =>
    refine (flatMap_children_perm ?_ (fun id howns => ?_) (fun type htype =>
      (listAttributes_faithful hfaithful htype).1) fun type htype =>
        ownsRelationshipType_of_mem htype).symm
    · rw [(ids_listRelationshipTypes store versionId).nodup_iff]
      exact nodup_rowsOf (hstore.distinct .relationshipTypes)
    · rw [(ids_listRelationshipTypes store versionId).mem_iff]
      exact mem_ids_of_owns.mp howns
  case profiles =>
    rw [DefinitionSet.rows, hprofiles, (map_faithful hfaithful.profiles).1]
  case mappings =>
    refine (flatMap_children_perm hprofileNodup (fun id howns => ?_) (fun profile hprofile =>
      (listLabelMappings_faithful hfaithful (Option.mem_toList.mp hprofile)).1)
        fun profile hprofile => ownsProfile_of_profile? (Option.mem_toList.mp hprofile)).symm
    rw [hprofileIds]
    exact mem_ids_of_owns.mp howns
  case entries =>
    refine (flatMap_children_perm hprofileNodup (fun id howns => ?_) (fun profile hprofile =>
      (listIgnoreEntries_faithful hfaithful (Option.mem_toList.mp hprofile)).1)
        fun profile hprofile => ownsProfile_of_profile? (Option.mem_toList.mp hprofile)).symm
    rw [hprofileIds]
    exact mem_ids_of_owns.mp howns
  case readable =>
    simp only [DefinitionSet.IsReadable, DefinitionSet.definitions, List.forall_mem_append,
      List.forall_mem_map, List.forall_mem_flatMap]
    refine ⟨⟨⟨⟨⟨⟨⟨⟨(listEntityTypes_faithful hfaithful).2, fun item hitem =>
      (listFields_faithful hfaithful (hmem item hitem) (hfields item hitem)).2⟩,
      (listRelationshipTypes_faithful hfaithful).2⟩, fun type htype =>
      (listAttributes_faithful hfaithful htype).2⟩, (listViewTemplates_faithful hfaithful hviews).2⟩,
      (listMapsOfContent_faithful hfaithful hmaps).2⟩, ?_⟩, fun profile hprofile =>
      (listLabelMappings_faithful hfaithful (Option.mem_toList.mp hprofile)).2⟩,
      fun profile hprofile =>
        (listIgnoreEntries_faithful hfaithful (Option.mem_toList.mp hprofile)).2⟩
    rw [hprofiles]
    exact (map_faithful hfaithful.profiles).2

end Store

end KnowledgeSchema
