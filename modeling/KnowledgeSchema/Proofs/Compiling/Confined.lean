import KnowledgeSchema.Proofs.Store.Permuted

/-!
# A compile sees its own version alone

Ids are shared by all versions of a store, and a type names its parent by a bare id. Still nothing of
another version gets into an artifact: every query asks for one owner, and the owners that a compile
asks for are the version, its types and its profile. So two stores that have the same version give
the same outcome, whatever else they hold.
-/

namespace KnowledgeSchema

namespace Store

/-! ### Rows that two tables share -/

section Shared

variable {ρ : Type} {rows others : List ρ} {id owner : ρ → String} {wanted : String}

theorem perm_filter_of_shared (hrows : rows.Nodup) (hothers : others.Nodup)
    (hshared : ∀ row, owner row = wanted → (row ∈ rows ↔ row ∈ others)) :
    (rows.filter (owner · == wanted)).Perm (others.filter (owner · == wanted)) := by
  rw [List.perm_ext_iff_of_nodup (hrows.filter _) (hothers.filter _)]
  intro row
  rw [List.mem_filter, List.mem_filter, beq_iff_eq]
  exact and_congr_left (hshared row)

/-- Rows under distinct ids are listed the same from every table that has them. -/
theorem ordered_of_shared (order : ρ → ρ → Ordering) [Std.TransCmp order]
    (hid : ∀ row row', order row row' = .eq → id row = id row')
    (hrows : ((rows.map fun row => (id row, owner row)).map (·.1)).Nodup)
    (hothers : ((others.map fun row => (id row, owner row)).map (·.1)).Nodup)
    (hshared : ∀ row, owner row = wanted → (row ∈ rows ↔ row ∈ others)) :
    ordered order (rows.filter (owner · == wanted)) =
      ordered order (others.filter (owner · == wanted)) :=
  ordered_congr (perm_filter_of_shared hrows.of_map.of_map hothers.of_map.of_map hshared)
    fun row hrow row' hrow' hsame => injective_of_nodup hrows row (List.mem_of_mem_filter hrow) row'
      (List.mem_of_mem_filter hrow') (hid row row' hsame)

/-- A row under a key that no other row has is found in every table that has it. -/
theorem find?_of_shared (hrows : (rows.map owner).Nodup) (hothers : (others.map owner).Nodup)
    (hshared : ∀ row, owner row = wanted → (row ∈ rows ↔ row ∈ others)) :
    rows.find? (owner · == wanted) = others.find? (owner · == wanted) := by
  rw [← @find?_filter_self _ rows, ← @find?_filter_self _ others]
  refine find?_perm (perm_filter_of_shared hrows.of_map hothers.of_map hshared)
    (fun row hrow row' hrow' => ?_) wanted
  exact List.inj_on_of_nodup_map hrows (List.mem_of_mem_filter hrow) (List.mem_of_mem_filter hrow')

end Shared

/-! ### Stores that share a version -/

/-- Two stores that have one row of a version, one row of its blueprint, and the same rows that
belong to the version or to a type or profile of it. -/
structure SharesVersion (first second : Store) (versionId : String) : Prop where
  versions : ∀ row, row.id = versionId → (row ∈ first.versions ↔ row ∈ second.versions)
  blueprints : ∀ version ∈ first.versions, version.id = versionId →
    ∀ row, row.id = version.blueprintId → (row ∈ first.blueprints ↔ row ∈ second.blueprints)
  entityTypes : ∀ row, row.versionId = versionId →
    (row ∈ first.entityTypes ↔ row ∈ second.entityTypes)
  fields : ∀ type ∈ first.entityTypes, type.versionId = versionId →
    ∀ row, row.entityTypeId = type.id → (row ∈ first.fields ↔ row ∈ second.fields)
  relationshipTypes : ∀ row, row.versionId = versionId →
    (row ∈ first.relationshipTypes ↔ row ∈ second.relationshipTypes)
  attributes : ∀ type ∈ first.relationshipTypes, type.versionId = versionId →
    ∀ row, row.relationshipTypeId = type.id → (row ∈ first.attributes ↔ row ∈ second.attributes)
  viewTemplates : ∀ row, row.versionId = versionId →
    (row ∈ first.viewTemplates ↔ row ∈ second.viewTemplates)
  mapsOfContent : ∀ row, row.versionId = versionId →
    (row ∈ first.mapsOfContent ↔ row ∈ second.mapsOfContent)
  profiles : ∀ row, row.versionId = versionId → (row ∈ first.profiles ↔ row ∈ second.profiles)
  labelMappings : ∀ profile ∈ first.profiles, profile.versionId = versionId →
    ∀ row, row.profileId = profile.id → (row ∈ first.labelMappings ↔ row ∈ second.labelMappings)
  ignoreEntries : ∀ profile ∈ first.profiles, profile.versionId = versionId →
    ∀ row, row.profileId = profile.id → (row ∈ first.ignoreEntries ↔ row ∈ second.ignoreEntries)

namespace SharesVersion

variable {first second : Store} {versionId : String} (hshares : first.SharesVersion second versionId)
  (hfirst : first.IsKeyed) (hsecond : second.IsKeyed)

include hshares hfirst hsecond

theorem row?_eq : first.row? versionId = second.row? versionId :=
  find?_of_shared hfirst.versions hsecond.versions hshares.versions

theorem version?_eq : first.version? versionId = second.version? versionId :=
  congrArg (Option.mapM VersionRow.toVersion) (hshares.row?_eq hfirst hsecond)

theorem blueprint?_eq {version : Version}
    (hversion : first.version? versionId = .ok (some version)) :
    first.blueprint? version.blueprintId = second.blueprint? version.blueprintId := by
  obtain ⟨row, hrow, hread⟩ := version?_eq_some hversion
  rw [(VersionRow.eq_of_toVersion hread).2.1]
  exact congrArg (Option.mapM BlueprintRow.toBlueprint)
    (find?_of_shared hfirst.blueprints hsecond.blueprints
      (hshares.blueprints row (List.mem_of_find?_eq_some hrow) (row?_id hrow)))

theorem listEntityTypes_eq : first.listEntityTypes versionId = second.listEntityTypes versionId :=
  congrArg (List.map EntityTypeRow.toDefinition)
    (ordered_of_shared (byKey EntityTypeRow.kind EntityTypeRow.id)
      (fun _ _ hsame => (byKey_eq_eq hsame).2) (hfirst.consistent.distinct .entityTypes)
      (hsecond.consistent.distinct .entityTypes) hshares.entityTypes)

theorem listFields_eq {type : EntityType} (htype : type ∈ first.listEntityTypes versionId) :
    first.listFields type.id = second.listFields type.id := by
  obtain ⟨row, hrow, rfl⟩ := List.mem_map.mp htype
  rw [mem_ordered, List.mem_filter, beq_iff_eq] at hrow
  exact congrArg (List.mapM FieldRow.toDefinition)
    (ordered_of_shared (compareLex (compareOn FieldRow.order) (byKey FieldRow.name FieldRow.id))
      (fun _ _ hsame => (byKey_eq_eq (compareLex_eq_eq.mp hsame).2).2)
      (hfirst.consistent.distinct .fields) (hsecond.consistent.distinct .fields)
      (hshares.fields row hrow.1 hrow.2))

theorem listRelationshipTypes_eq :
    first.listRelationshipTypes versionId = second.listRelationshipTypes versionId :=
  congrArg (List.map RelationshipTypeRow.toDefinition)
    (ordered_of_shared (byKey RelationshipTypeRow.name RelationshipTypeRow.id)
      (fun _ _ hsame => (byKey_eq_eq hsame).2) (hfirst.consistent.distinct .relationshipTypes)
      (hsecond.consistent.distinct .relationshipTypes) hshares.relationshipTypes)

theorem listAttributes_eq {type : RelationshipType}
    (htype : type ∈ first.listRelationshipTypes versionId) :
    first.listAttributes type.id = second.listAttributes type.id := by
  obtain ⟨row, hrow, rfl⟩ := List.mem_map.mp htype
  rw [mem_ordered, List.mem_filter, beq_iff_eq] at hrow
  exact congrArg (List.map AttributeRow.toDefinition)
    (ordered_of_shared (byKey AttributeRow.name AttributeRow.id)
      (fun _ _ hsame => (byKey_eq_eq hsame).2) (hfirst.consistent.distinct .attributes)
      (hsecond.consistent.distinct .attributes) (hshares.attributes row hrow.1 hrow.2))

theorem listViewTemplates_eq :
    first.listViewTemplates versionId = second.listViewTemplates versionId :=
  congrArg (List.mapM ViewTemplateRow.toDefinition)
    (ordered_of_shared (byKey ViewTemplateRow.name ViewTemplateRow.id)
      (fun _ _ hsame => (byKey_eq_eq hsame).2) (hfirst.consistent.distinct .viewTemplates)
      (hsecond.consistent.distinct .viewTemplates) hshares.viewTemplates)

theorem listMapsOfContent_eq :
    first.listMapsOfContent versionId = second.listMapsOfContent versionId :=
  congrArg (List.mapM MapOfContentRow.toDefinition)
    (ordered_of_shared (byKey MapOfContentRow.name MapOfContentRow.id)
      (fun _ _ hsame => (byKey_eq_eq hsame).2) (hfirst.consistent.distinct .mapsOfContent)
      (hsecond.consistent.distinct .mapsOfContent) hshares.mapsOfContent)

theorem profile?_eq : first.profile? versionId = second.profile? versionId := by
  have hsingle : ∀ {store : Store}, store.IsKeyed → (store.profiles.map (·.versionId)).Nodup := by
    intro store hkeyed
    have hsingle := hkeyed.consistent.single
    rwa [keysIn, List.map_map] at hsingle
  exact congrArg (Option.map ProfileRow.toDefinition)
    (find?_of_shared (hsingle hfirst) (hsingle hsecond) hshares.profiles)

theorem profileContent_eq {profile : ExtractionProfile}
    (hprofile : first.profile? versionId = some profile) :
    first.profileContent profile = second.profileContent profile := by
  obtain ⟨row, hrow, rfl⟩ := Option.map_eq_some_iff.mp hprofile
  have hmem := List.mem_of_find?_eq_some hrow
  have howner : row.versionId = versionId := by simpa using List.find?_some hrow
  have hmappings : first.listLabelMappings row.id = second.listLabelMappings row.id :=
    congrArg (List.map LabelMappingRow.toDefinition)
      (ordered_of_shared
        (compareLex (compareOn LabelMappingRow.priority)
          (byKey LabelMappingRow.label LabelMappingRow.id))
        (fun _ _ hsame => (byKey_eq_eq (compareLex_eq_eq.mp hsame).2).2)
        (hfirst.consistent.distinct .labelMappings) (hsecond.consistent.distinct .labelMappings)
        (hshares.labelMappings row hmem howner))
  have hentries : first.listIgnoreEntries row.id = second.listIgnoreEntries row.id :=
    congrArg (List.map IgnoreEntryRow.toDefinition)
      (ordered_of_shared (byKey IgnoreEntryRow.term IgnoreEntryRow.id)
        (fun _ _ hsame => (byKey_eq_eq hsame).2) (hfirst.consistent.distinct .ignoreEntries)
        (hsecond.consistent.distinct .ignoreEntries) (hshares.ignoreEntries row hmem howner))
  exact congrArg₂ (fun labelMappings ignoreEntries =>
    ({ definition := row.toDefinition, labelMappings, ignoreEntries } : EffectiveProfile))
    hmappings hentries

theorem content_eq : first.content versionId = second.content versionId := by
  have htypes : ∀ type ∈ first.listEntityTypes versionId,
      first.typeContent type = second.typeContent type := by
    intro type htype
    rw [typeContent, typeContent, hshares.listFields_eq hfirst hsecond htype]
  have hrelationships : ∀ type ∈ first.listRelationshipTypes versionId,
      (type, first.listAttributes type.id) = (type, second.listAttributes type.id) := by
    intro type htype
    rw [hshares.listAttributes_eq hfirst hsecond htype]
  have hprofile : ∀ profile, first.profile? versionId = some profile →
      first.profileContent profile = second.profileContent profile :=
    fun profile hprofile => hshares.profileContent_eq hfirst hsecond hprofile
  rw [content, content, Outcome.mapM_congr htypes, List.map_congr_left hrelationships,
    Option.map_congr hprofile, hshares.listEntityTypes_eq hfirst hsecond,
    hshares.listRelationshipTypes_eq hfirst hsecond, hshares.listViewTemplates_eq hfirst hsecond,
    hshares.listMapsOfContent_eq hfirst hsecond, hshares.profile?_eq hfirst hsecond]

theorem compiled_eq (maxDepth : UInt64) :
    first.compiled maxDepth versionId = second.compiled maxDepth versionId := by
  rw [compiled, compiled, ← hshares.version?_eq hfirst hsecond]
  cases hversion : first.version? versionId with
  | error failure => rfl
  | ok version? =>
    cases version? with
    | none => rfl
    | some version =>
      simp only [bind, Except.bind, hshares.blueprint?_eq hfirst hsecond hversion,
        id_of_version? hversion, hshares.content_eq hfirst hsecond]

end SharesVersion

end Store

/-! ### One outcome -/

/-- In worlds whose stores share a version the version compiles to the same artifact, or fails with
the same failure. -/
theorem World.compile_eq_of_sharesVersion {here there : World} {versionId : String}
    (hhere : here.IsServing) (hthere : there.IsServing) (hkeyed : here.store.IsKeyed)
    (hkeyed' : there.store.IsKeyed) (hshares : here.store.SharesVersion there.store versionId)
    (agent other : Agent) (maxDepth : UInt64) (limit limit' : Option Nat) :
    (here.perform agent (Operation.compile maxDepth limit versionId)).1 =
      (there.perform other (Operation.compile maxDepth limit' versionId)).1 := by
  rw [yields_compile hhere maxDepth limit versionId, yields_compile hthere maxDepth limit' versionId,
    hshares.compiled_eq hkeyed hkeyed' maxDepth]

/-! ### A parent in another version -/

/-- A type whose parent is no type of its version. -/
def EntityType.orphan : EntityType :=
  { EntityType.new "t" "v" .event with parentId := some "u" }

def Write.orphaned : List Write :=
  [.blueprint (.new "b" "Novel" .epoch), .version (.draft "v" "b" 1 .epoch),
    .definition (.entityType .orphan)]

/-- Another version, in which the missing parent is a type with a field. -/
def Write.parental : List Write :=
  [.blueprint (.new "c" "Film" .epoch), .version (.draft "w" "c" 1 .epoch),
    .definition (.entityType (.new "u" "w" .character)),
    .definition (.field (.new "f" "u" "name" .text))]

/-- The world after some writes. -/
def World.written (writes : List Write) : World where
  store := (Store.writeAll {} writes).toOption.getD {}
  ids := .tally
  clock := fun _ => .epoch

theorem World.isServing_written (writes : List Write) : (written writes).IsServing :=
  ⟨⟨rfl, rfl⟩, rfl, rfl⟩

theorem World.isKeyed_written (writes : List Write) : (written writes).store.IsKeyed := by
  rw [written]
  cases hwrites : Store.writeAll {} writes with
  | error failure => exact Store.IsReachable.empty.isKeyed
  | ok store => exact Store.IsReachable.empty.isKeyed.writeAll hwrites

theorem Store.sharesVersion_orphaned : (World.written Write.orphaned).store.SharesVersion
    (World.written (Write.parental ++ Write.orphaned)).store "v" := by
  have hhere : (World.written Write.orphaned).store =
      { blueprints := [(Blueprint.new "b" "Novel" .epoch).toRow]
        versions := [(Version.draft "v" "b" 1 .epoch).toRow]
        entityTypes := [EntityType.orphan.toRow] } := by rfl
  have hthere : (World.written (Write.parental ++ Write.orphaned)).store =
      { blueprints :=
          [(Blueprint.new "c" "Film" .epoch).toRow, (Blueprint.new "b" "Novel" .epoch).toRow]
        versions :=
          [(Version.draft "w" "c" 1 .epoch).toRow, (Version.draft "v" "b" 1 .epoch).toRow]
        entityTypes := [(EntityType.new "u" "w" .character).toRow, EntityType.orphan.toRow]
        fields := [(Field.new "f" "u" "name" .text).toRow] } := by rfl
  rw [hhere, hthere]
  -- what simp leaves are the rows of the other version, each under an owner of its own
  constructor <;>
    simp [Blueprint.new, Blueprint.toRow, Version.draft, Version.toRow, EntityType.orphan,
      EntityType.new, EntityType.toRow, Field.new, Field.toRow] <;>
    rintro row howner rfl <;>
    exact absurd howner (by decide)

theorem World.compile_eq_orphaned :
    (written Write.orphaned).store.SharesVersion
        (written (Write.parental ++ Write.orphaned)).store "v" ∧
      ((written Write.orphaned).perform {} (Operation.compile 8 none "v")).1 =
        ((written (Write.parental ++ Write.orphaned)).perform {}
          (Operation.compile 8 none "v")).1 :=
  ⟨Store.sharesVersion_orphaned, compile_eq_of_sharesVersion (isServing_written _)
    (isServing_written _) (isKeyed_written _) (isKeyed_written _) Store.sharesVersion_orphaned {} {} 8
    none none⟩

end KnowledgeSchema
