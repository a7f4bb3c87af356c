import KnowledgeSchema.Proofs.Compiling.Arrangement
import KnowledgeSchema.Proofs.Compiling.Assembly
import KnowledgeSchema.Proofs.Compiling.Reading
import KnowledgeSchema.Proofs.Inheritance.Renaming

/-!
# What the definitions of a version compile to

The types of one version are told apart by their ids and belong together. So a parent is whatever type
has its id, the fields of a type are those that name it as their owner, and what is out of order
follows from the types and the relationship types of the artifact.
-/

namespace KnowledgeSchema

/-- What is out of order with the types and the relationship types of an artifact, in their order. -/
def Artifact.reported (artifact : Artifact) (maxDepth : UInt64) : List Warning :=
  let types := artifact.entityTypes.map (·.definition)
  (types.filterMap (Hierarchy.alarm? { types, own := fun _ => [], maxDepth })).eraseDups ++
    artifact.relationshipTypes.flatMap fun relationship =>
      Content.relationshipWarnings (types.map (·.kind)) relationship.definition relationship.attributes

/-- Definitions that belong to one version, told apart by their ids. -/
structure DefinitionSet.IsOf (set : DefinitionSet) (versionId : String) : Prop where
  owned : set.rows.IsOwned versionId
  distinct : ∀ table, (set.rows.idsIn table).Nodup

theorem Store.Holds.isOf {store : Store} {versionId : String} {set : DefinitionSet}
    (hholds : store.Holds versionId set) : set.IsOf versionId where
  owned := hholds.rows.symm.isOwned (store.isOwned_rowsOf versionId)
  distinct table := (hholds.rows.idsIn table).nodup_iff.mp (hholds.consistent.nodup_idsIn table)

theorem Store.Holds.compiled {store : Store} {versionId : String} {set : DefinitionSet}
    (hholds : store.Holds versionId set) {version : Version} {blueprint : Blueprint}
    (hversion : store.version? versionId = .ok (some version))
    (hblueprint : store.blueprint? version.blueprintId = .ok (some blueprint)) (maxDepth : UInt64) :
    store.compiled maxDepth versionId = .ok (set.arranged.assemble blueprint version maxDepth) := by
  have hid : version.id = versionId := id_of_version? hversion
  rw [Store.compiled, hversion]
  simp only [hblueprint, hid, hholds.content, bind, Except.bind]
  rfl

namespace DefinitionSet

variable {set : DefinitionSet} {versionId : String} {blueprint : Blueprint} {version : Version}
  {maxDepth : UInt64}

theorem types_arranged (set : DefinitionSet) : set.arranged.types = set.orderedTypes := by
  rw [Content.types, arranged, List.map_map]
  exact List.map_id _

theorem mem_types_arranged {type : EntityType} :
    type ∈ set.arranged.types ↔ type ∈ set.entityTypes := by
  rw [types_arranged]
  exact Store.mem_ordered

theorem fieldsOf_arranged {type : EntityType} (htype : type ∈ set.entityTypes) :
    set.arranged.fieldsOf type.id = set.fieldsIn type.id := by
  rw [Content.fieldsOf]
  cases hfound : set.arranged.entityTypes.reverse.find? (·.1.id == type.id) with
  | none =>
    have hmem : (type, set.fieldsIn type.id) ∈ set.arranged.entityTypes :=
      List.mem_map_of_mem (Store.mem_ordered.mpr htype)
    have hnone := List.find?_eq_none.mp hfound _ (List.mem_reverse.mpr hmem)
    simp at hnone
  | some item =>
    have hmem := List.mem_reverse.mp (List.mem_of_find?_eq_some hfound)
    obtain ⟨found, -, rfl⟩ := List.mem_map.mp hmem
    have hid : found.id = type.id := by simpa using List.find?_some hfound
    exact congrArg set.fieldsIn hid

/-! ### Relationship types -/

theorem relationshipTypes_arranged (set : DefinitionSet) :
    (set.arranged.assemble blueprint version maxDepth).relationshipTypes =
      set.orderedRelationshipTypes.map fun relationship =>
        { definition := relationship, attributes := set.attributesIn relationship.id } := by
  have hown : ∀ relationship : RelationshipType,
      Content.effectiveRelationship relationship (set.attributesIn relationship.id) =
        { definition := relationship, attributes := set.attributesIn relationship.id } := by
    intro relationship
    refine congrArg _ (List.filter_eq_self.mpr fun attr hattr => ?_)
    exact (List.mem_filter.mp (Store.mem_ordered.mp hattr)).2
  calc
    (set.arranged.assemble blueprint version maxDepth).relationshipTypes =
        set.arranged.relationships.map fun relationship =>
          Content.effectiveRelationship relationship.1 relationship.2 := rfl
    _ = set.orderedRelationshipTypes.map fun relationship =>
          Content.effectiveRelationship relationship (set.attributesIn relationship.id) := by
      rw [arranged, List.map_map]
      rfl
    _ = _ := List.map_congr_left fun relationship _ => hown relationship

/-- With attributes of its own only the kinds of a relationship type may be unknown. -/
theorem relationshipWarnings_own {kinds : List EntityKind} {relationship : RelationshipType}
    {attributes : List RelationshipAttribute}
    (hown : ∀ attr ∈ attributes, attr.relationshipTypeId = relationship.id) :
    Content.relationshipWarnings kinds relationship attributes =
      ((Content.endpoints relationship).filter (!kinds.contains ·)).map
        (.unknownEndpoint relationship.id) := by
  have hnone : attributes.filter (·.relationshipTypeId != relationship.id) = [] := by
    refine List.filter_eq_nil_iff.mpr fun attr hattr => ?_
    rw [hown attr hattr, bne_self_eq_false]
    exact Bool.false_ne_true
  rw [Content.relationshipWarnings, hnone, List.map_nil, List.nil_append]

theorem relationshipWarnings_arranged (set : DefinitionSet) (kinds : List EntityKind) :
    set.arranged.relationships.flatMap (fun relationship =>
      Content.relationshipWarnings kinds relationship.1 relationship.2) =
        set.orderedRelationshipTypes.flatMap fun relationship =>
          ((Content.endpoints relationship).filter (!kinds.contains ·)).map
            (.unknownEndpoint relationship.id) := by
  rw [arranged, List.flatMap_map]
  refine List.flatMap_congr fun relationship _ => relationshipWarnings_own fun attr hattr => ?_
  exact beq_iff_eq.mp (List.mem_filter.mp (Store.mem_ordered.mp hattr)).2

/-! ### Types -/

namespace IsOf

variable (hset : set.IsOf versionId)
include hset

theorem nodup_types : (set.arranged.types.map (·.id)).Nodup := by
  have hnodup := hset.distinct .entityTypes
  have hids : set.rows.idsIn .entityTypes = set.entityTypes.map (·.id) := by
    simp only [DefinitionRows.idsIn, Store.keysIn, DefinitionRows.store, rows, List.map_map]
    rfl
  rw [hids] at hnodup
  rw [types_arranged]
  exact ((Store.ordered_perm _ _).map _).nodup_iff.mpr hnodup

theorem versionId_eq {type : EntityType} (htype : type ∈ set.entityTypes) :
    type.versionId = versionId :=
  hset.owned.entityTypes type.toRow (List.mem_map_of_mem htype)

theorem parent?_eq {type : EntityType} (htype : type ∈ set.entityTypes) :
    (set.arranged.hierarchy maxDepth).parent? type =
      type.parentId.bind (set.arranged.hierarchy maxDepth).type? := by
  rw [Hierarchy.parent?]
  refine congrArg _ (funext fun parentId => ?_)
  cases hfound : (set.arranged.hierarchy maxDepth).type? parentId with
  | none => rfl
  | some parent =>
    have hmem : parent ∈ set.entityTypes :=
      mem_types_arranged.mp (List.mem_reverse.mp (List.mem_of_find?_eq_some hfound))
    refine Option.filter_eq_some_iff.mpr ⟨rfl, ?_⟩
    rw [hset.versionId_eq hmem, hset.versionId_eq htype, beq_self_eq_true]

theorem knows {type : EntityType} (htype : type ∈ set.entityTypes) :
    (set.arranged.hierarchy maxDepth).Knows type :=
  Hierarchy.knows_of_nodup hset.nodup_types (mem_types_arranged.mpr htype)

theorem entityTypeId_mem {field : Field} (hfield : field ∈ set.fields) :
    ∃ type ∈ set.entityTypes, field.entityTypeId = type.id := by
  have hmem := hset.owned.fields field.toRow (List.mem_map_of_mem hfield)
  obtain ⟨row, hrow, hid⟩ := List.mem_map.mp hmem
  obtain ⟨type, htype, rfl⟩ := List.mem_map.mp hrow
  exact ⟨type, htype, hid.symm⟩

theorem relationshipTypeId_mem {attr : RelationshipAttribute} (hattr : attr ∈ set.attributes) :
    ∃ type ∈ set.relationshipTypes, attr.relationshipTypeId = type.id := by
  have hmem := hset.owned.attributes attr.toRow (List.mem_map_of_mem hattr)
  obtain ⟨row, hrow, hid⟩ := List.mem_map.mp hmem
  obtain ⟨type, htype, rfl⟩ := List.mem_map.mp hrow
  exact ⟨type, htype, hid.symm⟩

omit hset in
theorem profileId_eq {profile : ExtractionProfile} (hprofile : set.profile = some profile)
    {profileId : String} (howner : profileId ∈ set.rows.profiles.map (·.id)) :
    profileId = profile.id := by
  rw [rows, hprofile] at howner
  exact List.mem_singleton.mp howner

theorem profileId_of_mapping {profile : ExtractionProfile} (hprofile : set.profile = some profile)
    {mapping : LabelMapping} (hmapping : mapping ∈ set.labelMappings) :
    mapping.profileId = profile.id :=
  profileId_eq hprofile (hset.owned.labelMappings mapping.toRow (List.mem_map_of_mem hmapping))

theorem profileId_of_entry {profile : ExtractionProfile} (hprofile : set.profile = some profile)
    {entry : IgnoreEntry} (hentry : entry ∈ set.ignoreEntries) : entry.profileId = profile.id :=
  profileId_eq hprofile (hset.owned.ignoreEntries entry.toRow (List.mem_map_of_mem hentry))

theorem types_assemble :
    (set.arranged.assemble blueprint version maxDepth).entityTypes.map (·.definition) =
      set.orderedTypes := by
  have houtlines := congrArg (List.map Outline.definition)
    (@Content.outlines_assemble _ blueprint version maxDepth hset.nodup_types)
  rw [List.map_map, types_arranged] at houtlines
  refine Eq.trans ?_ (houtlines.trans (List.map_id _))
  rw [Artifact.outlines, List.map_map]
  conv_lhs => rw [← List.zipIdx_map_fst 0 (Artifact.entityTypes _), List.map_map]
  rfl

/-- Diagnostics follow the types and the relationship types in their order. -/
theorem diagnostics_arranged :
    (set.arranged.assemble blueprint version maxDepth).diagnostics =
      (set.arranged.assemble blueprint version maxDepth).reported maxDepth := by
  have hrelationships : set.arranged.relationships.flatMap (fun relationship =>
      Content.relationshipWarnings (set.orderedTypes.map (·.kind)) relationship.1 relationship.2) =
        (set.arranged.assemble blueprint version maxDepth).relationshipTypes.flatMap
          fun relationship => Content.relationshipWarnings (set.orderedTypes.map (·.kind))
            relationship.definition relationship.attributes := by
    rw [relationshipTypes_arranged, arranged, List.flatMap_map, List.flatMap_map]
  have halarms : set.orderedTypes.filterMap (set.arranged.hierarchy maxDepth).alarm? =
      set.orderedTypes.filterMap
        (Hierarchy.alarm? { types := set.orderedTypes, own := fun _ => [], maxDepth }) := by
    refine List.filterMap_congr fun type htype => ?_
    rw [← types_arranged] at htype ⊢
    exact (@Hierarchy.alarm?_congr (set.arranged.hierarchy maxDepth)
      { types := set.arranged.types, own := fun _ => [], maxDepth } type rfl rfl htype).symm
  rw [Content.diagnostics_assemble hset.nodup_types, Artifact.reported, hset.types_assemble,
    types_arranged, hrelationships, halarms]

end IsOf

end DefinitionSet

end KnowledgeSchema
