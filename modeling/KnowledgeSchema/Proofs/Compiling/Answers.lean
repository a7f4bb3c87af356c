import KnowledgeSchema.Proofs.Compiling.Diagnostics
import KnowledgeSchema.Proofs.Concurrent.System
import KnowledgeSchema.Proofs.Inheritance.Chains
import KnowledgeSchema.Proofs.Program.Laws
import KnowledgeSchema.Proofs.Store.Versions
import KnowledgeSchema.Scripted

/-!
# Compiling from any store

Whatever definitions a store lists, a version of it is compiled, and what is told to be out of order
is what is. Nothing is assumed of the store but that its reading calls succeed: the definitions may
belong to other versions, stand under wrong owners or refer to anything.
-/

namespace KnowledgeSchema

/-- What a store that takes every call answers to each. -/
abbrev Store.Answers : Type :=
  (call : Store.Call) → call.Result

namespace Operation

variable {σ α β : Type} {handle : (r : Request) → StateM σ r.Answer}

/-- Whether an operation comes to a value in every state. -/
def ComesTo (handle : (r : Request) → StateM σ r.Answer) (operation : Operation α) (value : α) :
    Prop :=
  ∀ state, (Program.run handle operation.run state).1 = .ok value

theorem comesTo_pure (value : α) : ComesTo handle (pure value : Operation α) value := fun _ => rfl

theorem ComesTo.bind {operation : Operation α} {value : α} {next : α → Operation β} {result : β}
    (hfirst : ComesTo handle operation value) (hnext : ComesTo handle (next value) result) :
    ComesTo handle (operation >>= next) result := by
  intro state
  rw [Operation.run_bind, Program.run_bind_state, hfirst state]
  exact hnext _

theorem ComesTo.map {operation : Operation α} {value : α} (f : α → β)
    (hoperation : ComesTo handle operation value) : ComesTo handle (f <$> operation) (f value) := by
  rw [← bind_pure_comp]
  exact hoperation.bind (comesTo_pure _)

theorem ComesTo.mapM {f : α → Operation β} {value : α → β}
    (hf : ∀ item, ComesTo handle (f item) (value item)) (items : List α) :
    ComesTo handle (items.mapM f) (items.map value) := by
  induction items with
  | nil => exact comesTo_pure []
  | cons item rest ih =>
    rw [List.mapM_cons, List.map_cons]
    exact (hf item).bind (ih.bind (comesTo_pure _))

theorem ComesTo.mapM_option {f : α → Operation β} {value : α → β}
    (hf : ∀ item, ComesTo handle (f item) (value item)) (item? : Option α) :
    ComesTo handle (item?.mapM f) (item?.map value) := by
  cases item? with
  | none => exact comesTo_pure none
  | some item => exact (hf item).map some

end Operation

namespace Store.Answers

open Operation

variable {σ : Type} {handle : (r : Request) → StateM σ r.Answer} {answers : Store.Answers}
  {version : Version} {blueprint : Blueprint} {maxDepth : UInt64} {limit : Option Nat}

/-- Whether reading calls succeed with these answers, in whatever state the store is. -/
def AreGivenBy (answers : Store.Answers) (handle : (r : Request) → StateM σ r.Answer) : Prop :=
  ∀ call limit state, call.isReading = true → (handle (.store call limit) state).1 = .ok (answers call)

/-- The content of a version as it is listed. -/
def content (answers : Store.Answers) (versionId : String) : Content where
  entityTypes := (answers (.listEntityTypes versionId)).map fun type =>
    (type, answers (.listFields type.id))
  relationships := (answers (.listRelationshipTypes versionId)).map fun relationship =>
    (relationship, answers (.listAttributes relationship.id))
  viewTemplates := answers (.listViewTemplates versionId)
  mapsOfContent := answers (.listMapsOfContent versionId)
  profile := (answers (.getProfile versionId)).map fun profile =>
    { definition := profile
      labelMappings := answers (.listLabelMappings profile.id)
      ignoreEntries := answers (.listIgnoreEntries profile.id) }

/-! ### Reading -/

section

variable (hanswers : answers.AreGivenBy handle)
include hanswers

theorem AreGivenBy.callWithin (call : Store.Call) (hcall : call.isReading = true) :
    ComesTo handle (Operation.callWithin limit call) (answers call) := fun state =>
  hanswers call limit state hcall

theorem AreGivenBy.readContent (versionId : String) :
    ComesTo handle (Operation.readContent limit versionId) (answers.content versionId) := by
  have hfields : ∀ type, ComesTo handle (withFields limit type)
      (type, answers (.listFields type.id)) := fun type =>
    (hanswers.callWithin _ rfl).bind (comesTo_pure _)
  have hattributes : ∀ relationship, ComesTo handle (withAttributes limit relationship)
      (relationship, answers (.listAttributes relationship.id)) := fun relationship =>
    (hanswers.callWithin _ rfl).bind (comesTo_pure _)
  have hlists : ∀ profile, ComesTo handle (withLists limit profile)
      { definition := profile
        labelMappings := answers (.listLabelMappings profile.id)
        ignoreEntries := answers (.listIgnoreEntries profile.id) } := fun profile =>
    (hanswers.callWithin _ rfl).bind ((hanswers.callWithin _ rfl).bind (comesTo_pure _))
  refine (hanswers.callWithin _ rfl).bind ((ComesTo.mapM hfields _).bind ?_)
  refine (hanswers.callWithin _ rfl).bind ((ComesTo.mapM hattributes _).bind ?_)
  refine (hanswers.callWithin _ rfl).bind ((hanswers.callWithin _ rfl).bind ?_)
  exact (hanswers.callWithin _ rfl).bind ((ComesTo.mapM_option hlists _).bind (comesTo_pure _))

theorem AreGivenBy.compile {versionId : String}
    (hversion : answers (.getVersion versionId) = some version)
    (hblueprint : answers (.getBlueprint version.blueprintId) = some blueprint) :
    ComesTo handle (Operation.compile maxDepth limit versionId)
      ((answers.content version.id).assemble blueprint version maxDepth) := by
  refine (hanswers.callWithin _ rfl).bind ?_
  rw [hversion]
  refine (hanswers.callWithin _ rfl).bind ?_
  rw [hblueprint]
  exact (hanswers.readContent version.id).bind (comesTo_pure _)

end

/-! ### What is out of order -/

variable {versionId : String}

/-- Whether the definitions that are listed for a version are in order. -/
structure AreInOrder (answers : Store.Answers) (versionId : String) (maxDepth : UInt64) : Prop where
  rooted : AreRooted (answers (.listEntityTypes versionId)) maxDepth
  endpoints : ∀ relationship ∈ answers (.listRelationshipTypes versionId),
    (∃ type ∈ answers (.listEntityTypes versionId), type.kind = relationship.source) ∧
      ∃ type ∈ answers (.listEntityTypes versionId), type.kind = relationship.target
  attributes : ∀ relationship ∈ answers (.listRelationshipTypes versionId),
    ∀ attr ∈ answers (.listAttributes relationship.id), attr.relationshipTypeId = relationship.id

theorem types_content (answers : Store.Answers) (versionId : String) :
    (answers.content versionId).types = answers (.listEntityTypes versionId) := by
  rw [Content.types, content, List.map_map]
  exact List.map_id _

theorem relationshipWarnings_eq_nil {kinds : List EntityKind} {relationship : RelationshipType}
    {attributes : List RelationshipAttribute} :
    Content.relationshipWarnings kinds relationship attributes = [] ↔
      (relationship.source ∈ kinds ∧ relationship.target ∈ kinds) ∧
        ∀ attr ∈ attributes, attr.relationshipTypeId = relationship.id := by
  rw [Content.relationshipWarnings, Content.endpoints_eq, List.append_eq_nil_iff,
    List.map_eq_nil_iff, List.map_eq_nil_iff, List.filter_eq_nil_iff, List.filter_eq_nil_iff, and_comm]
  simp

theorem diagnostics_eq_nil (hnodup : ((answers (.listEntityTypes versionId)).map (·.id)).Nodup) :
    ((answers.content versionId).assemble blueprint version maxDepth).diagnostics = [] ↔
      answers.AreInOrder versionId maxDepth := by
  have htypes := types_content answers versionId
  have halarms : ((answers.content versionId).types.filterMap
      ((answers.content versionId).hierarchy maxDepth).alarm?).eraseDups = [] ↔
        AreRooted (answers (.listEntityTypes versionId)) maxDepth := by
    have hrooted := @Hierarchy.alarms_eq_nil ((answers.content versionId).hierarchy maxDepth)
      (by rw [Content.hierarchy, htypes]; exact hnodup)
    rw [Content.hierarchy, htypes] at hrooted
    rw [← hrooted, Content.hierarchy, htypes]
    simp only [List.eq_nil_iff_forall_not_mem, List.mem_eraseDups]
  have hrelationships : ((answers.content versionId).relationships.flatMap fun relationship =>
      Content.relationshipWarnings ((answers.content versionId).types.map (·.kind)) relationship.1
        relationship.2) = [] ↔
      ∀ relationship ∈ answers (.listRelationshipTypes versionId),
        (relationship.source ∈ (answers (.listEntityTypes versionId)).map (·.kind) ∧
          relationship.target ∈ (answers (.listEntityTypes versionId)).map (·.kind)) ∧
          ∀ attr ∈ answers (.listAttributes relationship.id),
            attr.relationshipTypeId = relationship.id := by
    rw [List.flatMap_eq_nil_iff, htypes, content, List.forall_mem_map]
    exact forall₂_congr fun _ _ => relationshipWarnings_eq_nil
  rw [Content.diagnostics_assemble (by rw [htypes]; exact hnodup), List.append_eq_nil_iff, halarms,
    hrelationships]
  constructor
  · rintro ⟨hrooted, hrelationships⟩
    exact ⟨hrooted, fun relationship hmem => by simpa using (hrelationships relationship hmem).1,
      fun relationship hmem => (hrelationships relationship hmem).2⟩
  · intro horder
    exact ⟨horder.rooted, fun relationship hmem =>
      ⟨by simpa using horder.endpoints relationship hmem, horder.attributes relationship hmem⟩⟩

/-- What an artifact has to say of the definitions that are listed for a version. -/
structure AreShownBy (answers : Store.Answers) (versionId : String) (maxDepth : UInt64)
    (artifact : Artifact) : Prop where
  entityTypes : artifact.entityTypes.map (·.definition) = answers (.listEntityTypes versionId)
  /-- Each relationship type has those of its attributes that are its own. -/
  relationshipTypes : artifact.relationshipTypes =
    (answers (.listRelationshipTypes versionId)).map fun relationship =>
      { definition := relationship
        attributes := (answers (.listAttributes relationship.id)).filter
          (·.relationshipTypeId == relationship.id) }
  /-- Kinds that no type has, each once for a relationship type. -/
  unknownEndpoints : artifact.diagnostics.filter (·.isUnknownEndpoint) =
    (answers (.listRelationshipTypes versionId)).flatMap fun relationship =>
      ([relationship.source, relationship.target].eraseDups.filter
        (· ∉ (answers (.listEntityTypes versionId)).map (·.kind))).map
          (.unknownEndpoint relationship.id)
  /-- Attributes of others, as often as they are listed. -/
  orphanedAttributes : artifact.diagnostics.filter (·.isOrphanedAttribute) =
    (answers (.listRelationshipTypes versionId)).flatMap fun relationship =>
      ((answers (.listAttributes relationship.id)).filter
        (·.relationshipTypeId != relationship.id)).map
          fun attr => .orphanedAttribute attr.id relationship.id
  inOrder : ((answers (.listEntityTypes versionId)).map (·.id)).Nodup →
    (artifact.diagnostics = [] ↔ answers.AreInOrder versionId maxDepth)
  lineages : ((answers (.listEntityTypes versionId)).map (·.id)).Nodup →
    artifact.diagnostics = [] → ∀ type ∈ artifact.entityTypes,
      IsFullLineage (answers (.listEntityTypes versionId)) type.definition type.lineage

theorem areShownBy_assemble (answers : Store.Answers) (versionId : String) :
    answers.AreShownBy versionId maxDepth
      ((answers.content versionId).assemble blueprint version maxDepth) := by
  have htypes := types_content answers versionId
  constructor
  · rw [Content.definitions_assemble, htypes]
  · exact List.map_map
  · rw [Content.unknownEndpoints_assemble, htypes, content, List.flatMap_map]
  · rw [Content.orphanedAttributes_assemble, content, List.flatMap_map]
  · exact diagnostics_eq_nil
  · intro hnodup hnone type htype
    have hids : (((answers.content versionId).hierarchy maxDepth).types.map (·.id)).Nodup := by
      rw [Content.hierarchy, htypes]
      exact hnodup
    have hmem : (type.definition, type.lineage) ∈ (answers.content versionId).types.map
        fun type => (type, ((answers.content versionId).hierarchy maxDepth).lineageOf type.id) := by
      rw [← @Content.lineages_assemble _ blueprint version maxDepth hids]
      exact List.mem_map_of_mem htype
    obtain ⟨definition, hlisted, hpair⟩ := List.mem_map.mp hmem
    obtain ⟨rfl, hlineage⟩ := Prod.mk.inj hpair
    rw [Content.diagnostics_assemble hids, List.append_eq_nil_iff] at hnone
    have halarm : ((answers.content versionId).hierarchy maxDepth).alarm? type.definition = none := by
      have hnothing := List.eq_nil_iff_forall_not_mem.mp hnone.1
      simp only [List.mem_eraseDups, List.mem_filterMap] at hnothing
      exact Option.eq_none_iff_forall_ne_some.mpr fun warning hwarning =>
        hnothing warning ⟨type.definition, hlisted, hwarning⟩
    rw [← hlineage, ← htypes]
    exact Hierarchy.isFullLineage_of_alarm?_eq_none hids hlisted halarm

/-- A version that a store returns with its blueprint is compiled, whatever else the store lists, and
the artifact shows all that is listed and what of it is out of order. -/
theorem compile_shows (hanswers : answers.AreGivenBy handle)
    (hversion : answers (.getVersion versionId) = some version)
    (hblueprint : answers (.getBlueprint version.blueprintId) = some blueprint)
    (maxDepth : UInt64) (limit : Option Nat) :
    ∃ artifact, ComesTo handle (Operation.compile maxDepth limit versionId) artifact ∧
      answers.AreShownBy version.id maxDepth artifact :=
  ⟨_, hanswers.compile hversion hblueprint, areShownBy_assemble answers version.id⟩

end Store.Answers

/-! ### Stores by script -/

instance (call : Store.Call) : Inhabited call.Result := by
  cases call <;> exact inferInstance

/-- What a script answers when no call fails. -/
def Script.answers (script : Script) : Store.Answers := fun call =>
  match script.content call with
  | .ok result => result
  | .error _ => default

theorem Script.areGivenBy {script : Script} (hpunctual : ∀ name, script.delay name = 0)
    (hsound : ∀ name, script.fails name = false) (ids : Ids) (time : Timestamp) :
    script.answers.AreGivenBy fun r => (pure (script.handle ids time r) : StateM Unit r.Answer) := by
  intro call limit state hcall
  have hanswer : script.answer call = .ok (script.answers call) := by
    rw [Script.answer, hsound]
    cases call <;> first | rfl | cases hcall
  change Operation.withTimeout limit call.name (script.delay call.name) (script.answer call) = _
  rw [hanswer, hpunctual]
  cases limit <;> rfl

/-- A type below one of another version, and a relationship type with an attribute of another one. -/
def Script.muddled : Script where
  blueprints := [.new "b" "Novel" .epoch]
  versions := [.draft "v" "b" 1 .epoch]
  entityTypes := [{ EntityType.new "t" "v" .event with parentId := some "u" }, .new "u" "w" .item]
  relationshipTypes := [.new "r" "v" "holds" .event .location]
  attributes := fun _ => [.new "a" "s" "since" .date]

theorem Store.Answers.compile_shows_muddled :
    Script.muddled.answers.AreGivenBy
        (fun r => (pure (Script.muddled.handle .tally .epoch r) : StateM Unit r.Answer)) ∧
      ∃ artifact, Operation.ComesTo
          (fun r => (pure (Script.muddled.handle .tally .epoch r) : StateM Unit r.Answer))
          (Operation.compile defaultMaxDepth none "v") artifact ∧
        Script.muddled.answers.AreShownBy "v" defaultMaxDepth artifact := by
  have hgiven := @Script.areGivenBy Script.muddled (fun _ => rfl) (fun _ => rfl) .tally .epoch
  have hversion : Script.muddled.answers (.getVersion "v") = some (.draft "v" "b" 1 .epoch) := rfl
  have hblueprint : Script.muddled.answers (.getBlueprint "b") =
      some (.new "b" "Novel" .epoch) := rfl
  exact ⟨hgiven, compile_shows hgiven hversion hblueprint defaultMaxDepth none⟩

end KnowledgeSchema
