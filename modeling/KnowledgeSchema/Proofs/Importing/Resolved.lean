import KnowledgeSchema.Proofs.Forking.Copying
import KnowledgeSchema.Proofs.Importing.Grammar
import KnowledgeSchema.Proofs.Importing.Meaning

/-!
# What a bundle is resolved to

The definitions of a resolved bundle belong to one another and to the version, each under an id of
its own. A kind leads to the id of its type, and by that id the fields of the type are found again.
-/

namespace KnowledgeSchema

/-! ### Lists told apart by a key -/

section Keys

variable {α β κ : Type} [BEq κ] [LawfulBEq κ] {key : α → κ} {owner : β → κ} {items : List α} {item : α}

theorem find?_key_eq_some (hnodup : (items.map key).Nodup) (hmem : item ∈ items) :
    items.find? (key · == key item) = some item := by
  cases hfound : items.find? (key · == key item) with
  | none => exact absurd BEq.rfl (List.find?_eq_none.mp hfound item hmem)
  | some other =>
    have hkey : key other = key item := by simpa using List.find?_some hfound
    rw [List.inj_on_of_nodup_map hnodup (List.mem_of_find?_eq_some hfound) hmem hkey]

/-- What belongs to one of several items that are told apart is what is listed for that item. -/
theorem filter_flatMap_key {f : α → List β} (hnodup : (items.map key).Nodup)
    (howner : ∀ item ∈ items, ∀ child ∈ f item, owner child = key item) (hmem : item ∈ items) :
    (items.flatMap f).filter (owner · == key item) = f item := by
  have hown : (f item).filter (owner · == key item) = f item :=
    List.filter_eq_self.mpr fun child hchild => beq_iff_eq.mpr (howner item hmem child hchild)
  have hnone : ∀ others : List α, (∀ other ∈ others, other ∈ items ∧ key other ≠ key item) →
      (others.flatMap f).filter (owner · == key item) = [] := by
    intro others hothers
    refine List.filter_eq_nil_iff.mpr fun child hchild hsame => ?_
    obtain ⟨other, hother, hchild⟩ := List.mem_flatMap.mp hchild
    obtain ⟨hthere, hne⟩ := hothers other hother
    exact hne ((howner other hthere child hchild).symm.trans (beq_iff_eq.mp hsame))
  obtain ⟨before, after, rfl⟩ := List.append_of_mem hmem
  rw [List.map_append, List.map_cons, List.nodup_middle, List.nodup_cons, List.mem_append, not_or]
    at hnodup
  rw [List.flatMap_append, List.flatMap_cons, List.filter_append, List.filter_append, hown,
    hnone before fun other hother => ⟨by simp [hother], fun hsame =>
      hnodup.1.1 (hsame ▸ List.mem_map_of_mem hother)⟩,
    hnone after fun other hother => ⟨by simp [hother], fun hsame =>
      hnodup.1.2 (hsame ▸ List.mem_map_of_mem hother)⟩, List.nil_append, List.append_nil]

end Keys

theorem withOffsets_map {α β : Type} (f : α → β) (size : β → Nat) (start : Nat) (items : List α) :
    withOffsets size start (items.map f) =
      (withOffsets (fun item => size (f item)) start items).map fun placed =>
        (placed.1, f placed.2) := by
  induction items generalizing start with
  | nil => rfl
  | cons item rest ih => rw [List.map_cons, withOffsets, withOffsets, List.map_cons, ih]

theorem totalSize_map {α β : Type} (f : α → β) (size : β → Nat) (items : List α) :
    totalSize size (items.map f) = totalSize (fun item => size (f item)) items := by
  rw [totalSize, totalSize, List.foldr_map]

namespace DefinitionSet

/-- The definitions that the rows of a set stand for. A threshold of zero loses its sign. -/
def kept (set : DefinitionSet) : DefinitionSet :=
  { set with profile := set.profile.map fun profile => profile.toRow.toDefinition }

theorem rows_kept (set : DefinitionSet) : set.kept.rows = set.rows := by
  have hprofile : set.kept.profile.toList.map ExtractionProfile.toRow =
      set.profile.toList.map ExtractionProfile.toRow := by
    rw [kept]
    cases set.profile with
    | none => rfl
    | some profile => exact congrArg ([·]) profile.toRow_toDefinition_toRow
  simp only [rows, hprofile]
  rfl

end DefinitionSet

namespace Bundle

variable {bundle : Bundle} {ids : Ids} {versionId : String}

/-! ### Ids -/

/-- A content with as many definitions of each sort, each under its owner. -/
def shape (bundle : Bundle) : Content where
  entityTypes := bundle.entityTypes.map fun type =>
    (type.toDefinition "" "" none, type.members.map (·.toDefinition "" "" 0))
  relationships := bundle.relationships.map fun relationship =>
    (relationship.toDefinition "" "", relationship.attributes.map (·.toDefinition "" ""))
  viewTemplates := bundle.views.map fun view => ⟨"", "", view.name, view.kind, view.config⟩
  mapsOfContent := bundle.maps.map fun map => ⟨"", "", map.name, map.kinds, map.config⟩
  profile := bundle.profile.map fun profile =>
    { definition := profile.toDefinition "" ""
      labelMappings := profile.mappings.map fun mapping =>
        ⟨"", "", mapping.label, mapping.kind, mapping.priority⟩
      ignoreEntries := profile.ignored.map fun term => ⟨"", "", term.term, term.caseSensitive⟩ }

theorem relationshipStart_shape (bundle : Bundle) :
    bundle.shape.relationshipStart = bundle.relationshipStart := by
  simp only [Content.relationshipStart, shape, totalSize_map, Content.typeSize, List.length_map]
  rfl

theorem viewStart_shape (bundle : Bundle) : bundle.shape.viewStart = bundle.viewStart := by
  rw [Content.viewStart, relationshipStart_shape]
  simp only [shape, totalSize_map, Content.relationshipSize, List.length_map]
  rfl

theorem mapStart_shape (bundle : Bundle) : bundle.shape.mapStart = bundle.mapStart := by
  rw [Content.mapStart, viewStart_shape, shape, List.length_map, mapStart]

theorem profileStart_shape (bundle : Bundle) :
    bundle.shape.profileStart = bundle.profileStart := by
  rw [Content.profileStart, mapStart_shape, shape, List.length_map, profileStart]

/-- A bundle is resolved with the ids that a copy of its shape takes. -/
theorem idsIn_definitions (bundle : Bundle) (ids : Ids) (versionId : String) (table : Table) :
    (bundle.definitions ids versionId).rows.idsIn table =
      (bundle.shape.copy ids versionId).rows.idsIn table := by
  have htypes : bundle.shape.placedTypes = bundle.placedTypes.map fun placed =>
      (placed.1, placed.2.toDefinition "" "" none, placed.2.members.map (·.toDefinition "" "" 0)) := by
    rw [Content.placedTypes, shape, withOffsets_map]
    simp only [Content.typeSize, List.length_map]
    rfl
  have hrelationships : bundle.shape.placedRelationships =
      bundle.placedRelationships.map fun placed =>
        (placed.1, placed.2.toDefinition "" "", placed.2.attributes.map (·.toDefinition "" "")) := by
    rw [Content.placedRelationships, relationshipStart_shape, shape, withOffsets_map]
    simp only [Content.relationshipSize, List.length_map]
    rfl
  rw [Content.ids_copy]
  cases table with
  | blueprints | versions => rfl
  | entityTypes =>
    simp only [Content.placements, htypes, List.map_map]
    simp only [DefinitionRows.idsIn, Store.keysIn, DefinitionRows.store, DefinitionSet.rows,
      definitions, resolvedTypes, List.map_map]
    rfl
  | relationshipTypes =>
    simp only [Content.placements, hrelationships, List.map_map]
    simp only [DefinitionRows.idsIn, Store.keysIn, DefinitionRows.store, DefinitionSet.rows,
      definitions, resolvedRelationships, List.map_map]
    rfl
  | fields =>
    simp only [Content.placements, htypes, List.map_flatMap, List.flatMap_map, placedFrom,
      List.zipIdx_map, List.map_map]
    simp only [DefinitionRows.idsIn, Store.keysIn, DefinitionRows.store, DefinitionSet.rows,
      definitions, resolvedFields, List.map_map, List.map_flatMap]
    rfl
  | attributes =>
    simp only [Content.placements, hrelationships, List.map_flatMap, List.flatMap_map, placedFrom,
      List.zipIdx_map, List.map_map]
    simp only [DefinitionRows.idsIn, Store.keysIn, DefinitionRows.store, DefinitionSet.rows,
      definitions, resolvedAttributes, List.map_map, List.map_flatMap]
    rfl
  | viewTemplates =>
    have hviews : bundle.shape.viewTemplates = bundle.views.map _ := rfl
    simp only [Content.placements, viewStart_shape, hviews, placedFrom, List.zipIdx_map,
      List.map_map]
    simp only [DefinitionRows.idsIn, Store.keysIn, DefinitionRows.store, DefinitionSet.rows,
      definitions, resolvedViews, List.map_map]
    rfl
  | mapsOfContent =>
    have hmaps : bundle.shape.mapsOfContent = bundle.maps.map _ := rfl
    simp only [Content.placements, mapStart_shape, hmaps, placedFrom, List.zipIdx_map, List.map_map]
    simp only [DefinitionRows.idsIn, Store.keysIn, DefinitionRows.store, DefinitionSet.rows,
      definitions, resolvedMaps, List.map_map]
    rfl
  | profiles | labelMappings | ignoreEntries =>
    have hprofile : bundle.shape.profile = bundle.profile.map _ := rfl
    simp only [Content.placements, profileStart_shape, hprofile, placedFrom]
    simp only [DefinitionRows.idsIn, Store.keysIn, DefinitionRows.store, DefinitionSet.rows,
      definitions, resolvedMappings, resolvedTerms, List.map_map, List.map_flatMap]
    cases bundle.profile with
    | none => rfl
    | some profile =>
      simp only [Option.map_some, Option.toList_some, List.map_cons, List.map_nil,
        List.flatMap_cons, List.flatMap_nil, List.append_nil, List.length_map, List.zipIdx_map,
        List.map_map]
      rfl

theorem nodup_definitions (bundle : Bundle) (hids : Function.Injective ids) (versionId : String) :
    ((bundle.definitions ids versionId).definitions.map (·.key.1)).Nodup := by
  have hsame : (bundle.definitions ids versionId).definitions.map (·.key.1) =
      (bundle.shape.copy ids versionId).definitions.map (·.key.1) := by
    rw [DefinitionSet.ids_definitions, DefinitionSet.ids_definitions]
    exact List.flatMap_congr fun table _ => bundle.idsIn_definitions ids versionId table
  rw [hsame]
  exact bundle.shape.nodup_copy hids versionId

/-! ### Owners -/

theorem mem_profile {profile : BundledProfile} (hprofile : profile ∈ bundle.profile.toList) :
    profile.toDefinition (ids bundle.profileStart) versionId ∈
      (bundle.definitions ids versionId).profile.toList :=
  Option.mem_toList.mpr (Option.mem_map_of_mem _ (Option.mem_toList.mp hprofile))

theorem isOwned_definitions (bundle : Bundle) (ids : Ids) (versionId : String) :
    (bundle.definitions ids versionId).rows.IsOwned versionId where
  entityTypes := by
    simp only [DefinitionSet.rows, definitions, resolvedTypes, List.forall_mem_map]
    exact fun _ _ => rfl
  relationshipTypes := by
    simp only [DefinitionSet.rows, definitions, resolvedRelationships, List.forall_mem_map]
    exact fun _ _ => rfl
  viewTemplates := by
    simp only [DefinitionSet.rows, definitions, resolvedViews, List.forall_mem_map]
    exact fun _ _ => rfl
  mapsOfContent := by
    simp only [DefinitionSet.rows, definitions, resolvedMaps, List.forall_mem_map]
    exact fun _ _ => rfl
  profiles := by
    simp only [DefinitionSet.rows, definitions, Option.toList_map, List.forall_mem_map]
    exact fun _ _ => rfl
  fields := by
    refine List.forall_mem_map.mpr fun field hfield => ?_
    obtain ⟨placed, hplaced, hfield⟩ := List.mem_flatMap.mp hfield
    obtain ⟨child, -, rfl⟩ := List.mem_map.mp hfield
    exact List.mem_map.mpr ⟨_, List.mem_map_of_mem (List.mem_map_of_mem hplaced), rfl⟩
  attributes := by
    refine List.forall_mem_map.mpr fun attr hattr => ?_
    obtain ⟨placed, hplaced, hattr⟩ := List.mem_flatMap.mp hattr
    obtain ⟨child, -, rfl⟩ := List.mem_map.mp hattr
    exact List.mem_map.mpr ⟨_, List.mem_map_of_mem (List.mem_map_of_mem hplaced), rfl⟩
  labelMappings := by
    refine List.forall_mem_map.mpr fun mapping hmapping => ?_
    obtain ⟨profile, hprofile, hmapping⟩ := List.mem_flatMap.mp hmapping
    obtain ⟨child, -, rfl⟩ := List.mem_map.mp hmapping
    exact List.mem_map.mpr ⟨_, List.mem_map_of_mem (mem_profile hprofile), rfl⟩
  ignoreEntries := by
    refine List.forall_mem_map.mpr fun entry hentry => ?_
    obtain ⟨profile, hprofile, hentry⟩ := List.mem_flatMap.mp hentry
    obtain ⟨child, -, rfl⟩ := List.mem_map.mp hentry
    exact List.mem_map.mpr ⟨_, List.mem_map_of_mem (mem_profile hprofile), rfl⟩

/-! ### Rows read back -/

/-- What is kept of a bundle is read again as it is, when its JSON is. -/
theorem isReadable_kept (hnormal : bundle.IsNormal)
    (hjson : ∀ json ∈ bundle.jsons, Codec.free.parse json.text = .ok json) :
    (bundle.definitions ids versionId).kept.IsReadable := by
  simp only [DefinitionSet.IsReadable, DefinitionSet.definitions, List.forall_mem_append,
    List.forall_mem_map]
  refine ⟨⟨⟨⟨⟨⟨⟨⟨?types, ?fields⟩, ?relationships⟩, ?attributes⟩, ?views⟩, ?maps⟩, ?profile⟩,
    ?mappings⟩, ?entries⟩
  case types =>
    intro type htype
    obtain ⟨placed, hplaced, rfl⟩ := List.mem_map.mp htype
    exact EntityType.toDefinition_toRow
      (hnormal.entityTypes _ (mem_of_mem_withOffsets hplaced)).kind
  case fields =>
    intro field hfield
    obtain ⟨⟨position, type⟩, hplaced, hfield⟩ := List.mem_flatMap.mp hfield
    obtain ⟨⟨member, place⟩, hchild, rfl⟩ := List.mem_map.mp hfield
    have htype := mem_of_mem_withOffsets hplaced
    have hmember := List.fst_mem_of_mem_zipIdx hchild
    have hvalidation : ∀ json ∈ member.validation, readJson .free json.text = .ok json := by
      intro json hmem
      refine readJson_eq_ok.mpr (hjson json ?_)
      simp only [jsons, List.mem_append]
      exact Or.inl (Or.inl (List.mem_flatMap.mpr
        ⟨_, htype, List.mem_filterMap.mpr ⟨_, hmember, hmem⟩⟩))
    exact (@Field.toDefinition_eq_ok (member.toDefinition _ _ place) _
      ((hnormal.entityTypes _ htype).dataTypes _ hmember)).mpr
        ⟨_, readOptional_map hvalidation, rfl⟩
  case relationships =>
    intro relationship hrelationship
    obtain ⟨placed, hplaced, rfl⟩ := List.mem_map.mp hrelationship
    have hends := hnormal.relationships _ (mem_of_mem_withOffsets hplaced)
    exact RelationshipType.toDefinition_toRow hends.source hends.target
  case attributes =>
    intro attr hattr
    obtain ⟨placed, hplaced, hattr⟩ := List.mem_flatMap.mp hattr
    obtain ⟨child, hchild, rfl⟩ := List.mem_map.mp hattr
    exact RelationshipAttribute.toDefinition_toRow
      ((hnormal.relationships _ (mem_of_mem_withOffsets hplaced)).dataTypes _
        (List.fst_mem_of_mem_zipIdx hchild))
  case views =>
    intro view hview
    obtain ⟨⟨bundled, place⟩, hchild, rfl⟩ := List.mem_map.mp hview
    have hbundled := List.fst_mem_of_mem_zipIdx hchild
    have hconfig : bundled.config ∈ bundle.jsons := by
      simp only [jsons, List.mem_append]
      exact Or.inl (Or.inr (List.mem_map_of_mem hbundled))
    exact (@ViewTemplate.toDefinition_eq_ok ⟨_, _, bundled.name, bundled.kind, bundled.config⟩ _
      (hnormal.views _ hbundled)).mpr ⟨_, readJson_eq_ok.mpr (hjson _ hconfig), rfl⟩
  case maps =>
    intro map hmap
    obtain ⟨⟨bundled, place⟩, hchild, rfl⟩ := List.mem_map.mp hmap
    have hbundled := List.fst_mem_of_mem_zipIdx hchild
    have hconfig : bundled.config ∈ bundle.jsons := by
      simp only [jsons, List.mem_append]
      exact Or.inr (List.mem_map_of_mem hbundled)
    exact (@MapOfContent.toDefinition_eq_ok ⟨_, _, bundled.name, bundled.kinds, bundled.config⟩ _
      (hnormal.maps _ hbundled)).mpr ⟨_, readJson_eq_ok.mpr (hjson _ hconfig), rfl⟩
  case profile =>
    intro definition hdefinition
    obtain ⟨profile, -, rfl⟩ := Option.map_eq_some_iff.mp (Option.mem_toList.mp hdefinition)
    exact congrArg ProfileRow.toDefinition profile.toRow_toDefinition_toRow
  case mappings =>
    intro mapping hmapping
    obtain ⟨profile, hprofile, hmapping⟩ := List.mem_flatMap.mp hmapping
    obtain ⟨child, hchild, rfl⟩ := List.mem_map.mp hmapping
    exact LabelMapping.toDefinition_toRow (hnormal.profile _ (Option.mem_toList.mp hprofile) _
      (List.fst_mem_of_mem_zipIdx hchild))
  case entries => exact fun _ _ => rfl

/-! ### Kinds -/

theorem repeatedKind?_eq_none {seen kinds : List EntityKind} :
    repeatedKind? seen kinds = none ↔ (∀ kind ∈ kinds, kind ∉ seen) ∧ kinds.Nodup := by
  induction kinds generalizing seen with
  | nil => simp [repeatedKind?]
  | cons kind rest ih =>
    rw [repeatedKind?, List.forall_mem_cons, List.nodup_cons]
    split_ifs with hseen
    · simp [hseen]
    · rw [ih]
      constructor
      · rintro ⟨hrest, hnodup⟩
        exact ⟨⟨hseen, fun other hother hmem => hrest other hother (List.mem_cons_of_mem _ hmem)⟩,
          fun hmem => hrest kind hmem List.mem_cons_self, hnodup⟩
      · rintro ⟨⟨-, hrest⟩, hkind, hnodup⟩
        refine ⟨fun other hother hmem => ?_, hnodup⟩
        rcases List.mem_cons.mp hmem with rfl | hmem
        · exact hkind hother
        · exact hrest other hother hmem

theorem unknownParent?_eq_none : bundle.unknownParent? = none ↔
    ∀ type ∈ bundle.entityTypes, ∀ parent ∈ type.parent, parent ∈ bundle.kinds := by
  rw [unknownParent?, List.findSome?_eq_none_iff]
  refine forall₂_congr fun type _ => ?_
  cases type.parent with
  | none => simp
  | some parent => simp

/-- Distinct kinds, with parents among them. -/
theorem check_eq_ok : bundle.check = .ok () ↔ bundle.kinds.Nodup ∧
    ∀ type ∈ bundle.entityTypes, ∀ parent ∈ type.parent, parent ∈ bundle.kinds := by
  have hkinds := @repeatedKind?_eq_none [] bundle.kinds
  simp only [List.not_mem_nil, not_false_eq_true, implies_true, true_and] at hkinds
  rw [← hkinds, ← unknownParent?_eq_none, check]
  cases repeatedKind? [] bundle.kinds with
  | some kind => simp
  | none => cases bundle.unknownParent? <;> simp

/-! ### Ids of kinds -/

/-- The id of the type of a kind. -/
def typeId (bundle : Bundle) (ids : Ids) (kind : EntityKind) : String :=
  (bundle.idOfKind? ids kind).getD ""

/-- The entity type that a type of a bundle becomes. -/
def embodied (bundle : Bundle) (ids : Ids) (versionId : String) (type : BundledType) : EntityType :=
  type.toDefinition (bundle.typeId ids type.kind) versionId (type.parent.map (bundle.typeId ids))

theorem nodup_withOffsets {α : Type} {size children : α → Nat}
    (hsize : ∀ item, size item = 1 + children item) (start : Nat) (items : List α) :
    ((withOffsets size start items).map (·.1)).Nodup :=
  (List.nodup_append.mp
    ((perm_withOffsets hsize start items).nodup_iff.mpr List.nodup_range')).1

theorem nodup_placedTypes (hids : Function.Injective ids) :
    (bundle.placedTypes.map fun placed => ids placed.1).Nodup := by
  have hnodup := (@nodup_withOffsets _ BundledType.idCount (·.members.length) (fun _ => rfl) 0
    bundle.entityTypes).map hids
  rwa [List.map_map] at hnodup

theorem nodup_placedRelationships (hids : Function.Injective ids) :
    (bundle.placedRelationships.map fun placed => ids placed.1).Nodup := by
  have hnodup := (@nodup_withOffsets _ BundledRelationship.idCount (·.attributes.length)
    (fun _ => rfl) bundle.relationshipStart bundle.relationships).map hids
  rwa [List.map_map] at hnodup

theorem exists_placed {type : BundledType} (htype : type ∈ bundle.entityTypes) :
    ∃ position, (position, type) ∈ bundle.placedTypes := by
  have hitems : bundle.placedTypes.map (·.2) = bundle.entityTypes :=
    (map_withOffsets_congr fun _ _ => rfl).trans (List.map_id _)
  rw [← hitems] at htype
  obtain ⟨⟨position, type⟩, hplaced, rfl⟩ := List.mem_map.mp htype
  exact ⟨position, hplaced⟩

section Kinds

variable (hkinds : bundle.kinds.Nodup)
include hkinds

theorem typeOf?_of_mem {type : BundledType} (htype : type ∈ bundle.entityTypes) :
    bundle.typeOf? type.kind = some type :=
  find?_key_eq_some hkinds htype

theorem idOfKind?_of_placed {position : Nat} {type : BundledType}
    (hplaced : (position, type) ∈ bundle.placedTypes) :
    bundle.idOfKind? ids type.kind = some (ids position) := by
  have hnodup : (bundle.placedTypes.map (·.2.kind)).Nodup := by
    rw [placedTypes, map_withOffsets_congr fun _ _ => rfl]
    exact hkinds
  rw [idOfKind?, find?_key_eq_some hnodup hplaced]
  rfl

theorem typeId_of_placed {position : Nat} {type : BundledType}
    (hplaced : (position, type) ∈ bundle.placedTypes) :
    bundle.typeId ids type.kind = ids position := by
  rw [typeId, idOfKind?_of_placed hkinds hplaced]
  rfl

theorem idOfKind?_of_mem {kind : EntityKind} (hkind : kind ∈ bundle.kinds) :
    bundle.idOfKind? ids kind = some (bundle.typeId ids kind) := by
  obtain ⟨type, htype, rfl⟩ := List.mem_map.mp hkind
  obtain ⟨position, hplaced⟩ := exists_placed htype
  rw [idOfKind?_of_placed hkinds hplaced, typeId_of_placed hkinds hplaced]

theorem typeId_injective (hids : Function.Injective ids) :
    ∀ first ∈ bundle.entityTypes, ∀ second ∈ bundle.entityTypes,
      bundle.typeId ids first.kind = bundle.typeId ids second.kind → first = second := by
  intro first hfirst second hsecond hsame
  obtain ⟨position, hplaced⟩ := exists_placed hfirst
  obtain ⟨other, hother⟩ := exists_placed hsecond
  rw [typeId_of_placed hkinds hplaced, typeId_of_placed hkinds hother] at hsame
  exact congrArg Prod.snd (List.inj_on_of_nodup_map (nodup_placedTypes hids) hplaced hother hsame)

theorem resolvedTypes_eq (hparents : ∀ type ∈ bundle.entityTypes, ∀ parent ∈ type.parent,
      parent ∈ bundle.kinds) :
    bundle.resolvedTypes ids versionId = bundle.entityTypes.map (bundle.embodied ids versionId) := by
  refine map_withOffsets_congr fun placed hplaced => ?_
  have hparent : placed.2.parent.bind (bundle.idOfKind? ids) =
      placed.2.parent.map (bundle.typeId ids) := by
    have hknown := hparents _ (mem_of_mem_withOffsets hplaced)
    cases hnamed : placed.2.parent with
    | none => rfl
    | some parent => exact idOfKind?_of_mem hkinds (hknown parent hnamed)
  rw [embodied, typeId_of_placed hkinds hplaced, ← hparent]

/-- The fields of a type say what its declarations say. -/
theorem declarations_resolvedFields (hids : Function.Injective ids) {type : BundledType}
    (htype : type ∈ bundle.entityTypes) :
    ((bundle.resolvedFields ids).filter
        (·.entityTypeId == bundle.typeId ids type.kind)).map Field.declaration =
      type.declarations := by
  obtain ⟨position, hplaced⟩ := exists_placed htype
  have hfields := @filter_flatMap_key (Nat × BundledType) Field String _ _
    (fun placed => ids placed.1) Field.entityTypeId bundle.placedTypes (position, type)
    (fun placed => placed.2.members.zipIdx.map fun field =>
      field.1.toDefinition (ids (placed.1 + 1 + field.2)) (ids placed.1) field.2)
    (nodup_placedTypes hids)
    (fun placed _ => List.forall_mem_map.mpr fun _ _ => rfl) hplaced
  rw [typeId_of_placed hkinds hplaced]
  refine (congrArg (List.map Field.declaration) hfields).trans ?_
  rw [List.map_map]
  rfl

end Kinds

/-- The attributes of a relationship type are its own. -/
theorem attributes_resolvedAttributes (hids : Function.Injective ids) {position : Nat}
    {relationship : BundledRelationship}
    (hplaced : (position, relationship) ∈ bundle.placedRelationships) :
    ((bundle.resolvedAttributes ids).filter (·.relationshipTypeId == ids position)).map
        (fun attr => (attr.name, attr.dataType, attr.isRequired)) =
      relationship.attributes.map fun attr => (attr.name, attr.dataType, attr.isRequired) := by
  have hattributes := @filter_flatMap_key (Nat × BundledRelationship) RelationshipAttribute String
    _ _ (fun placed => ids placed.1) RelationshipAttribute.relationshipTypeId
    bundle.placedRelationships (position, relationship)
    (fun placed => placed.2.attributes.zipIdx.map fun attr =>
      attr.1.toDefinition (ids (placed.1 + 1 + attr.2)) (ids placed.1))
    (nodup_placedRelationships hids)
    (fun placed _ => List.forall_mem_map.mpr fun _ _ => rfl) hplaced
  refine (congrArg (List.map _) hattributes).trans ?_
  rw [List.map_map]
  exact map_zipIdx_congr fun _ _ => rfl

end Bundle

end KnowledgeSchema
