import KnowledgeSchema.Proofs.Program.Outcome
import KnowledgeSchema.Proofs.Program.Sequential
import KnowledgeSchema.Proofs.Store.Definitions

/-!
# What a version compiles to

Compiling only reads. Its outcome is a function of the store, and of the store it depends only on the
row of the version, the row of the blueprint and the definitions of the version.
-/

namespace KnowledgeSchema

namespace Store

def typeContent (store : Store) (type : EntityType) : Except Failure (EntityType × List Field) := do
  return (type, ← store.listFields type.id)

def profileContent (store : Store) (profile : ExtractionProfile) : EffectiveProfile where
  definition := profile
  labelMappings := store.listLabelMappings profile.id
  ignoreEntries := store.listIgnoreEntries profile.id

def content (store : Store) (versionId : String) : Except Failure Content := do
  let entityTypes ← (store.listEntityTypes versionId).mapM store.typeContent
  let viewTemplates ← store.listViewTemplates versionId
  let mapsOfContent ← store.listMapsOfContent versionId
  return {
    entityTypes
    relationships := (store.listRelationshipTypes versionId).map fun relationship =>
      (relationship, store.listAttributes relationship.id)
    viewTemplates
    mapsOfContent
    profile := (store.profile? versionId).map store.profileContent }

/-- The artifact of a version, or the first failure to read it. -/
def compiled (store : Store) (maxDepth : UInt64) (versionId : String) : Except Failure Artifact := do
  let some version ← store.version? versionId | throw (.versionNotFound versionId)
  let some blueprint ← store.blueprint? version.blueprintId
    | throw (.blueprintNotFound version.blueprintId)
  let content ← store.content version.id
  return content.assemble blueprint version maxDepth

end Store

namespace World

variable {world : World} {agent : Agent}

theorem yields_readContent (hserving : world.IsServing) (limit : Option Nat) (versionId : String) :
    world.Yields agent (Operation.readContent limit versionId) (world.store.content versionId) := by
  have hfields : ∀ type, world.Yields agent (Operation.withFields limit type)
      (world.store.typeContent type) := fun type =>
    (yields_callWithin hserving rfl).bind fun fields _ => yields_pure (type, fields)
  have hattributes : ∀ relationship, world.Yields agent (Operation.withAttributes limit relationship)
      (.ok (relationship, world.store.listAttributes relationship.id)) := fun relationship =>
    (yields_callWithin hserving rfl).bind_ok (yields_pure _)
  have hlists : ∀ profile, world.Yields agent (Operation.withLists limit profile)
      (.ok (world.store.profileContent profile)) := fun profile =>
    (yields_callWithin hserving rfl).bind_ok
      ((yields_callWithin hserving rfl).bind_ok (yields_pure _))
  have hprofile : world.Yields agent ((world.store.profile? versionId).mapM
      (Operation.withLists limit))
      (.ok ((world.store.profile? versionId).map world.store.profileContent)) := by
    cases world.store.profile? versionId with
    | none => exact yields_pure none
    | some profile =>
      rw [Yields, Option.mapM_some, perform_map, hlists profile]
      rfl
  have hrelationships : world.Yields agent
      ((world.store.listRelationshipTypes versionId).mapM (Operation.withAttributes limit))
      (.ok ((world.store.listRelationshipTypes versionId).map fun relationship =>
        (relationship, world.store.listAttributes relationship.id))) := by
    have hmapM := Yields.mapM hattributes (world.store.listRelationshipTypes versionId)
    rwa [Outcome.mapM_ok fun _ _ => rfl] at hmapM
  refine (yields_callWithin hserving rfl).bind_ok ?_
  refine (Yields.mapM hfields _).bind fun entityTypes _ => ?_
  refine (yields_callWithin hserving rfl).bind_ok (hrelationships.bind_ok ?_)
  refine (yields_callWithin hserving rfl).bind fun views _ => ?_
  refine (yields_callWithin hserving rfl).bind fun maps _ => ?_
  exact (yields_callWithin hserving rfl).bind_ok (hprofile.bind_ok (yields_pure _))

/-- Compiling reads what the store holds at that moment, and leaves everything as it is. -/
theorem yields_compile (hserving : world.IsServing) (maxDepth : UInt64) (limit : Option Nat)
    (versionId : String) :
    world.Yields agent (Operation.compile maxDepth limit versionId)
      (world.store.compiled maxDepth versionId) := by
  refine (yields_callWithin hserving rfl).bind fun version? _ => ?_
  cases version? with
  | none => exact yields_throw _
  | some version =>
    refine (yields_callWithin hserving rfl).bind fun blueprint? _ => ?_
    cases blueprint? with
    | none => exact yields_throw _
    | some blueprint =>
      exact (yields_readContent hserving limit version.id).bind fun content _ => yields_pure _

end World

/-! ### What the outcome depends on -/

/-- A store with the definitions of one version. -/
def DefinitionRows.store (rows : DefinitionRows) : Store where
  entityTypes := rows.entityTypes
  fields := rows.fields
  relationshipTypes := rows.relationshipTypes
  attributes := rows.attributes
  viewTemplates := rows.viewTemplates
  mapsOfContent := rows.mapsOfContent
  profiles := rows.profiles
  labelMappings := rows.labelMappings
  ignoreEntries := rows.ignoreEntries

namespace Store

variable {store after : Store} {versionId : String}

theorem mem_ordered {ρ : Type} {order : ρ → ρ → Ordering} {rows : List ρ} {row : ρ} :
    row ∈ ordered order rows ↔ row ∈ rows :=
  List.mem_mergeSort

theorem filter_owned {ρ : Type} {rows : List ρ} {owner : ρ → String} {owns : String → Bool}
    {id : String} (howns : owns id = true) :
    (rows.filter (owns <| owner ·)).filter (owner · == id) = rows.filter (owner · == id) := by
  rw [List.filter_filter]
  apply List.filter_congr
  intro row _
  by_cases hrow : owner row = id
  · simp [hrow, howns]
  · simp [hrow]

theorem filter_idem {ρ : Type} {rows : List ρ} {keeps : ρ → Bool} :
    (rows.filter keeps).filter keeps = rows.filter keeps := by
  rw [List.filter_filter]
  simp

theorem ownsEntityType_of_mem {type : EntityType} (htype : type ∈ store.listEntityTypes versionId) :
    store.ownsEntityType versionId type.id = true := by
  obtain ⟨row, hrow, rfl⟩ := List.mem_map.mp htype
  rw [mem_ordered, List.mem_filter] at hrow
  exact List.any_eq_true.mpr ⟨row, hrow.1, by simpa [EntityTypeRow.toDefinition] using hrow.2⟩

theorem ownsRelationshipType_of_mem {relationship : RelationshipType}
    (hrelationship : relationship ∈ store.listRelationshipTypes versionId) :
    store.ownsRelationshipType versionId relationship.id = true := by
  obtain ⟨row, hrow, rfl⟩ := List.mem_map.mp hrelationship
  rw [mem_ordered, List.mem_filter] at hrow
  exact List.any_eq_true.mpr
    ⟨row, hrow.1, by simpa [RelationshipTypeRow.toDefinition] using hrow.2⟩

theorem ownsProfile_of_profile? {profile : ExtractionProfile}
    (hprofile : store.profile? versionId = some profile) :
    store.ownsProfile versionId profile.id = true := by
  obtain ⟨row, hrow, rfl⟩ := Option.map_eq_some_iff.mp hprofile
  have howner : row.versionId = versionId := by simpa using List.find?_some hrow
  exact List.any_eq_true.mpr
    ⟨row, List.mem_of_find?_eq_some hrow, by simp [ProfileRow.toDefinition, howner]⟩

theorem find?_filter_self {ρ : Type} {rows : List ρ} {wanted : ρ → Bool} :
    (rows.filter wanted).find? wanted = rows.find? wanted := by
  rw [List.find?_filter]
  simp

/-- Reading the content of a version takes nothing but its own rows. -/
theorem content_rowsOf (store : Store) (versionId : String) :
    (store.rowsOf versionId).store.content versionId = store.content versionId := by
  have htypes : (store.rowsOf versionId).store.listEntityTypes versionId =
      store.listEntityTypes versionId := by
    simp only [listEntityTypes, DefinitionRows.store, rowsOf, filter_idem]
  have hrelationships : (store.rowsOf versionId).store.listRelationshipTypes versionId =
      store.listRelationshipTypes versionId := by
    simp only [listRelationshipTypes, DefinitionRows.store, rowsOf, filter_idem]
  have hviews : (store.rowsOf versionId).store.listViewTemplates versionId =
      store.listViewTemplates versionId := by
    simp only [listViewTemplates, DefinitionRows.store, rowsOf, filter_idem]
  have hmaps : (store.rowsOf versionId).store.listMapsOfContent versionId =
      store.listMapsOfContent versionId := by
    simp only [listMapsOfContent, DefinitionRows.store, rowsOf, filter_idem]
  have hprofile : (store.rowsOf versionId).store.profile? versionId = store.profile? versionId := by
    simp only [profile?, DefinitionRows.store, rowsOf, find?_filter_self]
  have hfields : ∀ type ∈ store.listEntityTypes versionId,
      (store.rowsOf versionId).store.typeContent type = store.typeContent type := by
    intro type htype
    simp only [typeContent, listFields, DefinitionRows.store, rowsOf,
      filter_owned (ownsEntityType_of_mem htype)]
  have hattributes : ∀ relationship ∈ store.listRelationshipTypes versionId,
      (store.rowsOf versionId).store.listAttributes relationship.id =
        store.listAttributes relationship.id := by
    intro relationship hrelationship
    simp only [listAttributes, DefinitionRows.store, rowsOf,
      filter_owned (ownsRelationshipType_of_mem hrelationship)]
  have hlists : ∀ profile, store.profile? versionId = some profile →
      (store.rowsOf versionId).store.profileContent profile = store.profileContent profile := by
    intro profile hprofile
    simp only [profileContent, listLabelMappings, listIgnoreEntries, DefinitionRows.store, rowsOf,
      filter_owned (ownsProfile_of_profile? hprofile)]
  simp only [content, htypes, hrelationships, hviews, hmaps, hprofile]
  rw [Outcome.mapM_congr hfields, Option.map_congr hlists, List.map_congr_left fun relationship hmem =>
    congrArg (Prod.mk relationship) (hattributes relationship hmem)]

theorem content_congr (hrows : after.rowsOf versionId = store.rowsOf versionId) :
    after.content versionId = store.content versionId := by
  rw [← content_rowsOf after, hrows, content_rowsOf]

theorem id_of_version? {version : Version}
    (hversion : store.version? versionId = .ok (some version)) : version.id = versionId := by
  obtain ⟨row, hrow, hread⟩ := version?_eq_some hversion
  exact (VersionRow.eq_of_toVersion hread).1.trans (row?_id hrow)

theorem compiled_eq_ok {maxDepth : UInt64} {artifact : Artifact}
    (hcompiled : store.compiled maxDepth versionId = .ok artifact) :
    ∃ version blueprint content, store.version? versionId = .ok (some version) ∧
      store.blueprint? version.blueprintId = .ok (some blueprint) ∧
      store.content versionId = .ok content ∧
      artifact = content.assemble blueprint version maxDepth := by
  obtain ⟨version?, hversion, hcompiled⟩ := Outcome.bind_eq_ok.mp hcompiled
  cases version? with
  | none => cases hcompiled
  | some version =>
    obtain ⟨blueprint?, hblueprint, hcompiled⟩ := Outcome.bind_eq_ok.mp hcompiled
    cases blueprint? with
    | none => cases hcompiled
    | some blueprint =>
      obtain ⟨content, hcontent, hartifact⟩ := Outcome.bind_eq_ok.mp hcompiled
      cases hartifact
      exact ⟨version, blueprint, content, hversion, hblueprint, id_of_version? hversion ▸ hcontent, rfl⟩

end Store

end KnowledgeSchema
