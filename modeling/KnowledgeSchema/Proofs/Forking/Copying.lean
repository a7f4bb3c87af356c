import Mathlib.Data.List.Perm.Basic
import KnowledgeSchema.Proofs.Compiling.Reading
import KnowledgeSchema.Proofs.Forking.Renaming
import KnowledgeSchema.Proofs.Freezing.Placement

/-!
# Copied definitions

Every definition of a content has a position, and the positions are the numbers below the count of the
ids that a copy takes. The copy is the definitions renamed by the ids at their positions.
-/

namespace KnowledgeSchema

/-! ### Positions -/

section Offsets

variable {α β : Type} {size children : α → Nat} {start : Nat} {items : List α}

/-- Items, each in front of its children, take the numbers from the start on. -/
theorem perm_withOffsets (hsize : ∀ item, size item = 1 + children item) (start : Nat)
    (items : List α) :
    ((withOffsets size start items).map (·.1) ++ (withOffsets size start items).flatMap fun placed =>
        List.range' (placed.1 + 1) (children placed.2)).Perm
      (List.range' start (totalSize size items)) := by
  induction items generalizing start with
  | nil => exact .refl _
  | cons item rest ih =>
    have htotal : totalSize size (item :: rest) = children item + 1 + totalSize size rest := by
      rw [totalSize, List.foldr_cons, ← totalSize, hsize, Nat.add_comm 1]
    have hnext : start + 1 * (children item + 1) = start + size item := by
      rw [hsize]
      omega
    rw [withOffsets, List.map_cons, List.flatMap_cons, List.cons_append, htotal,
      ← List.range'_append, hnext, List.range'_succ, List.cons_append]
    exact (List.perm_append_comm_assoc _ _ _).cons start |>.trans
      (((ih (start + size item)).append_left _).cons start)

theorem map_withOffsets_congr {f : Nat × α → β} {g : α → β}
    (hsame : ∀ placed ∈ withOffsets size start items, f placed = g placed.2) :
    (withOffsets size start items).map f = items.map g := by
  induction items generalizing start with
  | nil => rfl
  | cons item rest ih =>
    rw [withOffsets, List.map_cons, List.map_cons, hsame _ List.mem_cons_self,
      ih fun placed hplaced => hsame placed (List.mem_cons_of_mem _ hplaced)]

theorem flatMap_withOffsets_congr {f : Nat × α → List β} {g : α → List β}
    (hsame : ∀ placed ∈ withOffsets size start items, f placed = g placed.2) :
    (withOffsets size start items).flatMap f = items.flatMap g := by
  rw [List.flatMap_def, List.flatMap_def, map_withOffsets_congr hsame]

theorem mem_of_mem_withOffsets {placed : Nat × α} (hmem : placed ∈ withOffsets size start items) :
    placed.2 ∈ items := by
  have hitems : (withOffsets size start items).map (·.2) = items :=
    (map_withOffsets_congr fun _ _ => rfl).trans (List.map_id _)
  exact hitems ▸ List.mem_map_of_mem hmem

theorem map_zipIdx_congr {f : α × Nat → β} {g : α → β}
    (hsame : ∀ placed ∈ items.zipIdx, f placed = g placed.1) :
    items.zipIdx.map f = items.map g := by
  calc
    items.zipIdx.map f = (items.zipIdx.map Prod.fst).map g := by
      rw [List.map_map]
      exact List.map_congr_left hsame
    _ = items.map g := by rw [List.zipIdx_map_fst]

end Offsets

/-- Ids of items that stand one after another, with their positions. -/
def placedFrom {α : Type} (id : α → String) (start : Nat) (items : List α) : List (String × Nat) :=
  items.zipIdx.map fun (item, place) => (id item, start + place)

section PlacedFrom

variable {α : Type} {id : α → String} {start : Nat} {items : List α}

theorem ids_placedFrom : (placedFrom id start items).map (·.1) = items.map id := by
  rw [placedFrom, List.map_map]
  exact map_zipIdx_congr fun _ _ => rfl

theorem positions_placedFrom :
    (placedFrom id start items).map (·.2) = List.range' start items.length := by
  calc
    (placedFrom id start items).map (·.2) = (items.zipIdx.map Prod.snd).map (start + ·) := by
      rw [placedFrom, List.map_map, List.map_map]
      rfl
    _ = List.range' start items.length := by
      rw [List.zipIdx_map_snd, List.range'_eq_map_range, List.range'_eq_map_range, List.map_map]
      exact List.map_congr_left fun place _ => congrArg (start + ·) (Nat.zero_add place)

theorem mem_placedFrom {placed : α × Nat} (hmem : placed ∈ items.zipIdx) :
    (id placed.1, start + placed.2) ∈ placedFrom id start items :=
  List.mem_map_of_mem hmem

end PlacedFrom

theorem lookup_map {α β : Type} (key : α → String) (value : α → β) (items : List α) (id : String) :
    (items.map fun item => (key item, value item)).lookup id =
      (items.find? (key · == id)).map value := by
  induction items with
  | nil => rfl
  | cons item rest ih =>
    rw [List.map_cons, List.lookup_cons, List.find?_cons, ih, BEq.comm]
    cases key item == id <;> rfl

theorem lookup_eq_of_mem {β : Type} {pairs : List (String × β)} {id : String} {value : β}
    (hnodup : (pairs.map (·.1)).Nodup) (hmem : (id, value) ∈ pairs) :
    pairs.lookup id = some value := by
  induction pairs with
  | nil => cases hmem
  | cons pair rest ih =>
    obtain ⟨hfirst, hrest⟩ := List.nodup_cons.mp hnodup
    rcases List.mem_cons.mp hmem with rfl | hmem
    · rw [List.lookup_cons_self]
    · have hne : (id == pair.1) = false :=
        beq_eq_false_iff_ne.mpr fun hsame => hfirst (List.mem_map.mpr ⟨_, hmem, hsame⟩)
      rw [List.lookup_cons, hne]
      exact ih hrest hmem

/-! ### The renaming of a copy -/

namespace Content

/-- The ids in a table with the positions that they have in a copy. -/
def placements (content : Content) : Table → List (String × Nat)
  | .blueprints | .versions => []
  | .entityTypes => content.placedTypes.map fun placed => (placed.2.1.id, placed.1)
  | .fields => content.placedTypes.flatMap fun placed =>
    placedFrom Field.id (placed.1 + 1) placed.2.2
  | .relationshipTypes => content.placedRelationships.map fun placed => (placed.2.1.id, placed.1)
  | .attributes => content.placedRelationships.flatMap fun placed =>
    placedFrom RelationshipAttribute.id (placed.1 + 1) placed.2.2
  | .viewTemplates => placedFrom ViewTemplate.id content.viewStart content.viewTemplates
  | .mapsOfContent => placedFrom MapOfContent.id content.mapStart content.mapsOfContent
  | .profiles => content.profile.toList.map fun profile =>
    (profile.definition.id, content.profileStart)
  | .labelMappings => content.profile.toList.flatMap fun profile =>
    placedFrom LabelMapping.id (content.profileStart + 1) profile.labelMappings
  | .ignoreEntries => content.profile.toList.flatMap fun profile =>
    placedFrom IgnoreEntry.id (content.profileStart + 1 + profile.labelMappings.length)
      profile.ignoreEntries

/-- The ids that the definitions of a copy have. -/
def copiedIds (content : Content) (ids : Ids) : Renaming := fun table id =>
  (((content.placements table).lookup id).map ids).getD id

/-- Whether the definitions of a content are told apart by their ids and each stands under the one
that it belongs to. -/
structure IsWellPlaced (content : Content) : Prop where
  distinct : ∀ table, ((content.placements table).map (·.1)).Nodup
  fields : ∀ item ∈ content.entityTypes, ∀ field ∈ item.2, field.entityTypeId = item.1.id
  attributes : ∀ item ∈ content.relationships, ∀ attr ∈ item.2, attr.relationshipTypeId = item.1.id
  labelMappings : ∀ profile ∈ content.profile, ∀ mapping ∈ profile.labelMappings,
    mapping.profileId = profile.definition.id
  ignoreEntries : ∀ profile ∈ content.profile, ∀ entry ∈ profile.ignoreEntries,
    entry.profileId = profile.definition.id

variable {content : Content} {ids : Ids} {versionId : String}

theorem copiedTypeId_eq (content : Content) (ids : Ids) :
    content.copiedTypeId ids = content.copiedIds ids .entityTypes := by
  funext id
  rw [copiedTypeId, copiedIds, placements, lookup_map]
  cases content.placedTypes.find? (·.2.1.id == id) <;> rfl

namespace IsWellPlaced

variable (hplaced : content.IsWellPlaced)
include hplaced

theorem copiedIds_eq {table : Table} {id : String} {position : Nat}
    (hmem : (id, position) ∈ content.placements table) :
    content.copiedIds ids table id = ids position := by
  rw [copiedIds, lookup_eq_of_mem (hplaced.distinct table) hmem]
  rfl

theorem copiedIds_type {placed : Nat × EntityType × List Field}
    (hmem : placed ∈ content.placedTypes) :
    content.copiedIds ids .entityTypes placed.2.1.id = ids placed.1 :=
  hplaced.copiedIds_eq (List.mem_map_of_mem hmem)

theorem copiedIds_relationship {placed : Nat × RelationshipType × List RelationshipAttribute}
    (hmem : placed ∈ content.placedRelationships) :
    content.copiedIds ids .relationshipTypes placed.2.1.id = ids placed.1 :=
  hplaced.copiedIds_eq (List.mem_map_of_mem hmem)

theorem copiedIds_profile {profile : EffectiveProfile} (hmem : profile ∈ content.profile) :
    content.copiedIds ids .profiles profile.definition.id = ids content.profileStart :=
  hplaced.copiedIds_eq (List.mem_map_of_mem (Option.mem_toList.mpr hmem))

theorem copiedTypes_eq : content.copiedTypes ids versionId =
    content.types.map (·.renamed (content.copiedIds ids) versionId) := by
  rw [copiedTypes, types, List.map_map]
  refine map_withOffsets_congr fun placed hmem => ?_
  simp only [Function.comp_apply, EntityType.renamed, hplaced.copiedIds_type hmem, copiedTypeId_eq]

theorem copiedFields_eq : content.copiedFields ids =
    (content.entityTypes.flatMap (·.2)).map (·.renamed (content.copiedIds ids)) := by
  rw [copiedFields, List.map_flatMap]
  refine flatMap_withOffsets_congr fun placed hmem => map_zipIdx_congr fun child hchild => ?_
  have howner := hplaced.fields _ (mem_of_mem_withOffsets hmem) _ (List.fst_mem_of_mem_zipIdx hchild)
  have hid : content.copiedIds ids .fields child.1.id = ids (placed.1 + 1 + child.2) :=
    hplaced.copiedIds_eq (List.mem_flatMap.mpr ⟨placed, hmem, mem_placedFrom hchild⟩)
  rw [Field.renamed, hid, howner, hplaced.copiedIds_type hmem]

theorem copiedRelationships_eq : content.copiedRelationships ids versionId =
    (content.relationships.map (·.1)).map (·.renamed (content.copiedIds ids) versionId) := by
  rw [copiedRelationships, List.map_map]
  refine map_withOffsets_congr fun placed hmem => ?_
  simp only [Function.comp_apply, RelationshipType.renamed, hplaced.copiedIds_relationship hmem]

theorem copiedAttributes_eq : content.copiedAttributes ids =
    (content.relationships.flatMap (·.2)).map (·.renamed (content.copiedIds ids)) := by
  rw [copiedAttributes, List.map_flatMap]
  refine flatMap_withOffsets_congr fun placed hmem => map_zipIdx_congr fun child hchild => ?_
  have howner :=
    hplaced.attributes _ (mem_of_mem_withOffsets hmem) _ (List.fst_mem_of_mem_zipIdx hchild)
  have hid : content.copiedIds ids .attributes child.1.id = ids (placed.1 + 1 + child.2) :=
    hplaced.copiedIds_eq (List.mem_flatMap.mpr ⟨placed, hmem, mem_placedFrom hchild⟩)
  rw [RelationshipAttribute.renamed, hid, howner, hplaced.copiedIds_relationship hmem]

theorem copiedViews_eq : content.copiedViews ids versionId =
    content.viewTemplates.map (·.renamed (content.copiedIds ids) versionId) := by
  refine map_zipIdx_congr fun placed hmem => ?_
  have hid : content.copiedIds ids .viewTemplates placed.1.id = ids (content.viewStart + placed.2) :=
    hplaced.copiedIds_eq (mem_placedFrom hmem)
  rw [ViewTemplate.renamed, hid]

theorem copiedMaps_eq : content.copiedMaps ids versionId =
    content.mapsOfContent.map (·.renamed (content.copiedIds ids) versionId) := by
  refine map_zipIdx_congr fun placed hmem => ?_
  have hid : content.copiedIds ids .mapsOfContent placed.1.id = ids (content.mapStart + placed.2) :=
    hplaced.copiedIds_eq (mem_placedFrom hmem)
  rw [MapOfContent.renamed, hid]

theorem copiedMappings_eq : content.copiedMappings ids =
    (content.profile.toList.flatMap (·.labelMappings)).map (·.renamed (content.copiedIds ids)) := by
  rw [copiedMappings, List.map_flatMap]
  refine List.flatMap_congr fun profile hprofile => map_zipIdx_congr fun child hchild => ?_
  have hmem := Option.mem_toList.mp hprofile
  have howner := hplaced.labelMappings _ hmem _ (List.fst_mem_of_mem_zipIdx hchild)
  have hid : content.copiedIds ids .labelMappings child.1.id =
      ids (content.profileStart + 1 + child.2) :=
    hplaced.copiedIds_eq (List.mem_flatMap.mpr ⟨profile, hprofile, mem_placedFrom hchild⟩)
  rw [LabelMapping.renamed, hid, howner, hplaced.copiedIds_profile hmem]

theorem copiedEntries_eq : content.copiedEntries ids =
    (content.profile.toList.flatMap (·.ignoreEntries)).map (·.renamed (content.copiedIds ids)) := by
  rw [copiedEntries, List.map_flatMap]
  refine List.flatMap_congr fun profile hprofile => map_zipIdx_congr fun child hchild => ?_
  have hmem := Option.mem_toList.mp hprofile
  have howner := hplaced.ignoreEntries _ hmem _ (List.fst_mem_of_mem_zipIdx hchild)
  have hid : content.copiedIds ids .ignoreEntries child.1.id =
      ids (content.profileStart + 1 + profile.labelMappings.length + child.2) :=
    hplaced.copiedIds_eq (List.mem_flatMap.mpr ⟨profile, hprofile, mem_placedFrom hchild⟩)
  rw [IgnoreEntry.renamed, hid, howner, hplaced.copiedIds_profile hmem]

/-- A copy is the same definitions, renamed. -/
theorem copy_eq : content.copy ids versionId =
    content.definitions.renamed (content.copiedIds ids) versionId := by
  have hprofile : (content.profile.map fun profile =>
      { profile.definition with id := ids content.profileStart, versionId }) =
        (content.profile.map (·.definition)).map (·.renamed (content.copiedIds ids) versionId) := by
    rw [Option.map_map]
    refine Option.map_congr fun profile hmem => ?_
    rw [Function.comp_apply, ExtractionProfile.renamed, hplaced.copiedIds_profile hmem]
  rw [copy, hplaced.copiedTypes_eq, hplaced.copiedFields_eq, hplaced.copiedRelationships_eq,
    hplaced.copiedAttributes_eq, hplaced.copiedViews_eq, hplaced.copiedMaps_eq, hprofile,
    hplaced.copiedMappings_eq, hplaced.copiedEntries_eq]
  rfl

end IsWellPlaced

/-! ### The ids of a copy -/

/-- The positions of all definitions, table by table. -/
def positions (content : Content) : List Nat :=
  Table.ofDefinitions.flatMap fun table => (content.placements table).map (·.2)

theorem positions_fields (content : Content) : (content.placements .fields).map (·.2) =
    content.placedTypes.flatMap fun placed => List.range' (placed.1 + 1) placed.2.2.length := by
  rw [placements, List.map_flatMap]
  exact List.flatMap_congr fun _ _ => positions_placedFrom

theorem positions_attributes (content : Content) : (content.placements .attributes).map (·.2) =
    content.placedRelationships.flatMap fun placed =>
      List.range' (placed.1 + 1) placed.2.2.length := by
  rw [placements, List.map_flatMap]
  exact List.flatMap_congr fun _ _ => positions_placedFrom

/-- What the profile and its lists take stands at the end. -/
theorem positions_profile (content : Content) :
    (content.placements .profiles).map (·.2) ++ ((content.placements .labelMappings).map (·.2) ++
        (content.placements .ignoreEntries).map (·.2)) =
      List.range' content.profileStart ((content.profile.map profileSize).getD 0) := by
  simp only [placements, List.map_flatMap, positions_placedFrom]
  cases content.profile with
  | none => rfl
  | some profile =>
    simp only [Option.toList_some, List.map_cons, List.map_nil, List.flatMap_cons, List.flatMap_nil,
      List.append_nil, List.range'_append_1, Option.map_some, Option.getD_some, profileSize]
    rw [List.singleton_append, ← List.range'_succ]
    congr 1
    omega

/-- A copy takes each of its ids once. -/
theorem perm_positions (content : Content) :
    content.positions.Perm (List.range' 0 content.idCount) := by
  have htypes : ((content.placements .entityTypes).map (·.2) ++
      (content.placements .fields).map (·.2)).Perm (List.range' 0 content.relationshipStart) := by
    rw [positions_fields, placements, List.map_map]
    exact @perm_withOffsets _ typeSize (·.2.length) (fun _ => rfl) 0 content.entityTypes
  have hrelationships : ((content.placements .relationshipTypes).map (·.2) ++
      (content.placements .attributes).map (·.2)).Perm
        (List.range' content.relationshipStart
          (totalSize relationshipSize content.relationships)) := by
    rw [positions_attributes, placements, List.map_map]
    exact @perm_withOffsets _ relationshipSize (·.2.length) (fun _ => rfl) content.relationshipStart
      content.relationships
  have hviews : (content.placements .viewTemplates).map (·.2) =
      List.range' content.viewStart content.viewTemplates.length := positions_placedFrom
  have hmaps : (content.placements .mapsOfContent).map (·.2) =
      List.range' content.mapStart content.mapsOfContent.length := positions_placedFrom
  have hall : List.range' 0 content.relationshipStart ++
      (List.range' content.relationshipStart (totalSize relationshipSize content.relationships) ++
        (List.range' content.viewStart content.viewTemplates.length ++
          (List.range' content.mapStart content.mapsOfContent.length ++
            List.range' content.profileStart ((content.profile.map profileSize).getD 0)))) =
      List.range' 0 content.idCount := by
    have hfirst := @List.range'_append_1 0 content.relationshipStart
    rw [Nat.zero_add] at hfirst
    simp only [idCount, profileStart, mapStart, viewStart]
    rw [List.range'_append_1, List.range'_append_1, List.range'_append_1, hfirst]
    simp only [Nat.add_assoc]
  rw [← hall, ← hviews, ← hmaps, ← positions_profile]
  simp only [positions, Table.ofDefinitions, List.flatMap_cons, List.flatMap_nil, List.append_nil]
  rw [← List.append_assoc, ← List.append_assoc ((content.placements .relationshipTypes).map _)]
  exact htypes.append (hrelationships.append_right _)

theorem ids_definitions (content : Content) (table : Table) :
    content.definitions.rows.idsIn table = (content.placements table).map (·.1) := by
  cases table with
  | blueprints | versions => rfl
  | entityTypes | relationshipTypes =>
    simp only [DefinitionRows.idsIn, Store.keysIn, DefinitionRows.store, DefinitionSet.rows,
      definitions, placements, List.map_map, types]
    exact (map_withOffsets_congr fun _ _ => rfl).symm
  | fields | attributes =>
    simp only [DefinitionRows.idsIn, Store.keysIn, DefinitionRows.store, DefinitionSet.rows,
      definitions, placements, List.map_map, List.map_flatMap, ids_placedFrom]
    exact (flatMap_withOffsets_congr fun _ _ => rfl).symm
  | viewTemplates | mapsOfContent | labelMappings | ignoreEntries =>
    simp only [DefinitionRows.idsIn, Store.keysIn, DefinitionRows.store, DefinitionSet.rows,
      definitions, placements, List.map_map, List.map_flatMap, ids_placedFrom]
    rfl
  | profiles =>
    simp only [DefinitionRows.idsIn, Store.keysIn, DefinitionRows.store, DefinitionSet.rows,
      definitions, placements, List.map_map]
    cases content.profile <;> rfl

theorem ids_copy (content : Content) (ids : Ids) (versionId : String) (table : Table) :
    (content.copy ids versionId).rows.idsIn table =
      (content.placements table).map fun placement => ids placement.2 := by
  cases table with
  | blueprints | versions => rfl
  | entityTypes | relationshipTypes | viewTemplates | mapsOfContent | profiles =>
    simp only [DefinitionRows.idsIn, Store.keysIn, DefinitionRows.store, DefinitionSet.rows, copy,
      copiedTypes, copiedRelationships, copiedViews, copiedMaps, placements, placedFrom,
      List.map_map]
    first | rfl | (cases content.profile <;> rfl)
  | fields | attributes | labelMappings | ignoreEntries =>
    simp only [DefinitionRows.idsIn, Store.keysIn, DefinitionRows.store, DefinitionSet.rows, copy,
      copiedFields, copiedAttributes, copiedMappings, copiedEntries, placements, placedFrom,
      List.map_map, List.map_flatMap]
    rfl

theorem nodup_copy (content : Content) {ids : Ids} (hids : Function.Injective ids)
    (versionId : String) :
    ((content.copy ids versionId).definitions.map (·.key.1)).Nodup := by
  have hall : (content.copy ids versionId).definitions.map (·.key.1) =
      content.positions.map ids := by
    rw [DefinitionSet.ids_definitions, positions, List.map_flatMap]
    refine List.flatMap_congr fun table _ => ?_
    rw [ids_copy, List.map_map]
    rfl
  rw [hall]
  exact (content.perm_positions.nodup_iff.mpr List.nodup_range').map hids

theorem IsWellPlaced.injOn_copiedIds (hplaced : content.IsWellPlaced)
    (hids : Function.Injective ids) {table : Table} :
    ∀ first ∈ content.definitions.rows.idsIn table,
      ∀ second ∈ content.definitions.rows.idsIn table,
        content.copiedIds ids table first = content.copiedIds ids table second →
          first = second := by
  intro first hfirstId second hsecondId hsame
  rw [ids_definitions] at hfirstId hsecondId
  obtain ⟨⟨first, position⟩, hfirst, rfl⟩ := List.mem_map.mp hfirstId
  obtain ⟨⟨second, other⟩, hsecond, rfl⟩ := List.mem_map.mp hsecondId
  rw [hplaced.copiedIds_eq hfirst, hplaced.copiedIds_eq hsecond] at hsame
  have hposition : position = other := hids hsame
  have hnodup : ((content.placements table).map (·.2)).Nodup := by
    have hpositions := content.perm_positions.nodup_iff.mpr List.nodup_range'
    by_cases htable : table ∈ Table.ofDefinitions
    · exact (List.nodup_flatMap.mp hpositions).1 table htable
    · cases table <;> first | exact List.nodup_nil | exact absurd (by decide) htable
  exact congrArg Prod.fst (List.inj_on_of_nodup_map hnodup hfirst hsecond hposition)

theorem IsWellPlaced.copiedIds_of_mem (hplaced : content.IsWellPlaced) {table : Table} {id : String}
    (hmem : id ∈ content.definitions.rows.idsIn table) :
    ∃ position, content.copiedIds ids table id = ids position := by
  rw [ids_definitions] at hmem
  obtain ⟨⟨id, position⟩, hplacement, rfl⟩ := List.mem_map.mp hmem
  exact ⟨position, hplaced.copiedIds_eq hplacement⟩

theorem copiedIds_of_not_mem {table : Table} {id : String}
    (habsent : id ∉ content.definitions.rows.idsIn table) :
    content.copiedIds ids table id = id := by
  rw [ids_definitions] at habsent
  have hnone : (content.placements table).lookup id = none := by
    rw [List.lookup_eq_none_iff]
    rintro ⟨other, position⟩ hmem
    exact bne_iff_ne.mpr fun hsame => habsent (List.mem_map.mpr ⟨_, hmem, hsame.symm⟩)
  rw [copiedIds, hnone]
  rfl

/-- A content that is read for a version is well placed. -/
theorem isWellPlaced_of_holds {store : Store} {sourceId : String}
    (hholds : store.Holds sourceId content.definitions)
    (hcontent : store.content sourceId = .ok content) : content.IsWellPlaced := by
  have harranged : content = content.definitions.arranged :=
    Except.ok.inj (hcontent.symm.trans hholds.content)
  refine ⟨fun table => ?distinct, ?fields, ?attributes, ?mappings, ?entries⟩
  case distinct =>
    rw [← ids_definitions, ← (hholds.rows.idsIn table).nodup_iff]
    exact hholds.consistent.nodup_idsIn table
  case fields =>
    intro item hitem
    rw [harranged] at hitem
    obtain ⟨type, -, rfl⟩ := List.mem_map.mp hitem
    intro field hfield
    exact beq_iff_eq.mp (List.mem_filter.mp (Store.mem_ordered.mp hfield)).2
  case attributes =>
    intro item hitem
    rw [harranged] at hitem
    obtain ⟨relationship, -, rfl⟩ := List.mem_map.mp hitem
    intro attr hattr
    exact beq_iff_eq.mp (List.mem_filter.mp (Store.mem_ordered.mp hattr)).2
  case mappings =>
    intro profile hprofile
    rw [harranged] at hprofile
    obtain ⟨definition, -, rfl⟩ := Option.map_eq_some_iff.mp hprofile
    intro mapping hmapping
    exact beq_iff_eq.mp (List.mem_filter.mp (Store.mem_ordered.mp hmapping)).2
  case entries =>
    intro profile hprofile
    rw [harranged] at hprofile
    obtain ⟨definition, -, rfl⟩ := Option.map_eq_some_iff.mp hprofile
    intro entry hentry
    exact beq_iff_eq.mp (List.mem_filter.mp (Store.mem_ordered.mp hentry)).2

end Content

end KnowledgeSchema
