import KnowledgeSchema.Proofs.Artifact.Coverage
import KnowledgeSchema.Proofs.Compiling.Diagnostics
import KnowledgeSchema.Proofs.Documents.Portable
import KnowledgeSchema.Proofs.Documents.Rereading

/-!
# Artifacts that documents can hold

An artifact of portable definitions is reread from its own document, its positions left out, and the
document holds no double but finite ones.

An artifact that is assembled of portable content is one. Every field of a type in it is one of the
fields that were read, every kind that a warning tells of is one that a relationship type joins, and all
else is taken over as it was read.
-/

namespace KnowledgeSchema

open Json

variable {depth : Nat}

structure EffectiveType.IsPortable (depth : Nat) (type : EffectiveType) : Prop where
  kind : type.kind.IsNormal
  fields : ∀ field ∈ type.fields, field.IsPortable depth

structure EffectiveProfile.IsPortable (profile : EffectiveProfile) : Prop where
  definition : profile.definition.IsPortable
  normal : profile.IsNormal

/-- An artifact whose document leaves `depth` to a validation. -/
structure Artifact.IsPortable (depth : Nat) (artifact : Artifact) : Prop where
  entityTypes : ∀ type ∈ artifact.entityTypes, type.IsPortable depth
  relationshipTypes : ∀ relationship ∈ artifact.relationshipTypes, relationship.IsNormal
  viewTemplates : ∀ view ∈ artifact.viewTemplates, view.IsPortable (depth + 2)
  mapsOfContent : ∀ map ∈ artifact.mapsOfContent, map.IsPortable (depth + 2)
  profile : ∀ profile ∈ artifact.profile, profile.IsPortable
  diagnostics : ∀ warning ∈ artifact.diagnostics, warning.IsNormal

/-! ### Reading again -/

theorem Field.IsPortable.rereads {field : Field} (hportable : field.IsPortable depth) :
    Field.codec.Rereads (depth + 1) field :=
  Field.rereads hportable.dataType fun json hjson =>
    ⟨(hportable.validation json hjson).fits, (hportable.solid json hjson).ne_null⟩

theorem EffectiveType.IsPortable.rereads {type : EffectiveType} (hportable : type.IsPortable depth) :
    EffectiveType.codec.Rereads (depth + 3) type.detached :=
  EffectiveType.rereads hportable.kind (fun field hfield => (hportable.fields field hfield).rereads)
    rfl rfl

theorem EffectiveRelationship.IsNormal.rereads {relationship : EffectiveRelationship}
    (hnormal : relationship.IsNormal) :
    EffectiveRelationship.codec.Rereads (depth + 3) relationship :=
  EffectiveRelationship.rereads hnormal.source hnormal.target hnormal.dataTypes

theorem Artifact.IsPortable.rereads {artifact : Artifact} (hportable : artifact.IsPortable depth) :
    Artifact.codec.Rereads (depth + 5) artifact.detached := by
  refine Codec.rereads_record isExact ⟨Blueprint.rereads _, Version.rereads _, ?types,
    ?relationships, ?views, ?maps, ?profile, Codec.rereads_text _, ?diagnostics, trivial⟩ _ _
  case types =>
    refine Codec.Rereads.list fun type htype => ?_
    obtain ⟨attached, hattached, rfl⟩ := List.mem_map.mp htype
    exact (hportable.entityTypes attached hattached).rereads
  case relationships =>
    exact Codec.Rereads.list fun relationship hrelationship =>
      (hportable.relationshipTypes relationship hrelationship).rereads
  case views =>
    refine Codec.Rereads.list fun view hview => ?_
    have hconfig := hportable.viewTemplates view hview
    exact ViewTemplate.rereads hconfig.kind hconfig.config.fits
  case maps =>
    refine Codec.Rereads.list fun map hmap => ?_
    have hconfig := hportable.mapsOfContent map hmap
    exact MapOfContent.rereads hconfig.kinds hconfig.config.fits
  case profile =>
    exact Codec.rereads_optional
      (fun profile hprofile => EffectiveProfile.rereads (hportable.profile profile hprofile).normal)
      fun _ _ => nofun
  case diagnostics =>
    exact Codec.Rereads.list fun warning hwarning =>
      Warning.rereads (hportable.diagnostics warning hwarning)

/-! ### Finite doubles -/

section Finite

open Codec

theorem Blueprint.writesFinite (blueprint : Blueprint) : codec.WritesFinite blueprint :=
  writesFinite_record fields
    ⟨.of_nil rfl, .of_nil rfl, .optional_text _, .texts _, .of_nil rfl, .of_nil rfl, .of_nil rfl,
      trivial⟩ _ _

theorem Version.writesFinite (version : Version) : codec.WritesFinite version :=
  writesFinite_record fields
    ⟨.of_nil rfl, .of_nil rfl, .of_nil rfl, .of_nil rfl, .optional_text _, .of_nil rfl,
      .optional fun _ _ => .of_nil rfl, trivial⟩ _ _

theorem EntityType.writeFinite (type : EntityType) : fields.WriteFinite type :=
  ⟨.of_nil rfl, .of_nil rfl, .of_nil rfl, .of_nil rfl, .optional_text _, .optional_text _,
    .of_nil rfl, trivial⟩

theorem Field.IsPortable.writesFinite {field : Field} (hportable : field.IsPortable depth) :
    codec.WritesFinite field :=
  writesFinite_record fields
    ⟨.of_nil rfl, .of_nil rfl, .of_nil rfl, .of_nil rfl, .of_nil rfl, .of_nil rfl, .of_nil rfl,
      .optional_text _, .optional fun json hjson => (hportable.validation json hjson).finite,
      trivial⟩ _ _

theorem RelationshipType.writeFinite (type : RelationshipType) : fields.WriteFinite type :=
  ⟨.of_nil rfl, .of_nil rfl, .of_nil rfl, .of_nil rfl, .of_nil rfl, .of_nil rfl, .of_nil rfl,
    .of_nil rfl, .optional_text _, trivial⟩

theorem EffectiveType.IsPortable.writesFinite {type : EffectiveType}
    (hportable : type.IsPortable depth) : codec.WritesFinite type :=
  writesFinite_extended ownMembers (EntityType.writeFinite type.definition)
    ⟨.list fun field hfield => (hportable.fields field hfield).writesFinite, .texts _, trivial⟩ _

theorem EffectiveRelationship.writesFinite (relationship : EffectiveRelationship) :
    codec.WritesFinite relationship :=
  writesFinite_extended ownMembers (RelationshipType.writeFinite relationship.definition)
    ⟨.list fun _ _ => .of_nil rfl, trivial⟩ _

theorem ViewTemplate.IsPortable.writesFinite {view : ViewTemplate}
    (hportable : view.IsPortable depth) : codec.WritesFinite view :=
  writesFinite_record fields
    ⟨.of_nil rfl, .of_nil rfl, .of_nil rfl, .optional fun _ _ => .of_nil rfl, hportable.config.finite,
      trivial⟩ _ _

theorem MapOfContent.IsPortable.writesFinite {map : MapOfContent} (hportable : map.IsPortable depth) :
    codec.WritesFinite map :=
  writesFinite_record fields
    ⟨.of_nil rfl, .of_nil rfl, .of_nil rfl, .list fun _ _ => .of_nil rfl, hportable.config.finite,
      trivial⟩ _ _

theorem EffectiveProfile.IsPortable.writesFinite {profile : EffectiveProfile}
    (hportable : profile.IsPortable) : codec.WritesFinite profile := by
  have hdefinition : ExtractionProfile.fields.WriteFinite profile.definition :=
    ⟨.of_nil rfl, .of_nil rfl, .of_nil rfl, .of_nil rfl, .double hportable.definition.threshold,
      trivial⟩
  exact writesFinite_extended ownMembers hdefinition
    ⟨.list fun _ _ => .of_nil rfl, .list fun _ _ => .of_nil rfl, trivial⟩ _

theorem Warning.writesFinite (warning : Warning) : codec.WritesFinite warning := by
  cases warning with
  | inheritanceCycle entityTypeId cycle =>
    have hcycle := WritesFinite.texts cycle
    exact isFinite_obj (List.forall_mem_cons.mpr ⟨List.forall_mem_nil _,
      List.forall_mem_cons.mpr ⟨List.forall_mem_nil _, List.forall_mem_singleton.mpr hcycle⟩⟩)
  | _ => exact .of_nil rfl

theorem Artifact.IsPortable.writesFinite {artifact : Artifact} (hportable : artifact.IsPortable depth) :
    codec.WritesFinite artifact :=
  writesFinite_record fields
    ⟨artifact.blueprint.writesFinite, artifact.version.writesFinite,
      .list fun type htype => (hportable.entityTypes type htype).writesFinite,
      .list fun relationship _ => relationship.writesFinite,
      .list fun view hview => (hportable.viewTemplates view hview).writesFinite,
      .list fun map hmap => (hportable.mapsOfContent map hmap).writesFinite,
      .optional fun profile hprofile => (hportable.profile profile hprofile).writesFinite,
      .of_nil rfl, .list fun warning _ => warning.writesFinite, trivial⟩ _ _

end Finite

/-! ### Fields and warnings of assembled artifacts -/

theorem Hierarchy.mem_own_of_mem_effective {hierarchy : Hierarchy} {id : String} {field : Field}
    (hfield : field ∈ (hierarchy.effective id).fields) : ∃ owner, field ∈ hierarchy.own owner := by
  obtain ⟨owner, -, hown⟩ := mem_own_of_nearest? (mem_effectiveFields.mp hfield)
  exact ⟨owner, hown⟩

theorem Warning.isNormal_of_isAboutAncestors {warning : Warning}
    (habout : warning.isAboutAncestors = true) : warning.IsNormal := by
  cases warning with
  | unknownEndpoint => cases habout
  | _ => trivial

namespace Content

variable {content : Content}

theorem mem_fieldsOf {id : String} {field : Field} (hfield : field ∈ content.fieldsOf id) :
    ∃ item ∈ content.entityTypes, field ∈ item.2 := by
  rw [fieldsOf] at hfield
  split at hfield
  next type fields hfound =>
    exact ⟨(type, fields), List.mem_reverse.mp (List.mem_of_find?_eq_some hfound), hfield⟩
  next => cases hfield

/-- Whatever was resolved before, each type has the fields that it has by definition. -/
theorem fields_resolveTypes {hierarchy : Hierarchy} {resolver : Resolver}
    (htrusts : hierarchy.Trusts resolver.memo) (types : List EntityType) :
    ∀ type ∈ (resolveTypes hierarchy resolver types).1,
      type.fields = (hierarchy.effective type.id).fields := by
  induction types generalizing resolver with
  | nil => exact List.forall_mem_nil _
  | cons type rest ih =>
    obtain ⟨hresolved, hnext⟩ := htrusts.resolve type.id
    exact List.forall_mem_cons.mpr ⟨congrArg ResolvedFields.fields hresolved, ih hnext⟩

theorem mem_endpoints {relationship : RelationshipType} {kind : EntityKind}
    (hkind : kind ∈ endpoints relationship) :
    kind = relationship.source ∨ kind = relationship.target := by
  rw [endpoints_eq, List.mem_eraseDups] at hkind
  simpa using hkind

theorem isNormal_relationshipWarnings {relationship : RelationshipType}
    (hsource : relationship.source.IsNormal) (htarget : relationship.target.IsNormal)
    (kinds : List EntityKind) (attributes : List RelationshipAttribute) :
    ∀ warning ∈ relationshipWarnings kinds relationship attributes, warning.IsNormal := by
  intro warning hwarning
  rcases List.mem_append.mp hwarning with hwarning | hwarning
  · obtain ⟨attr, -, rfl⟩ := List.mem_map.mp hwarning
    trivial
  · obtain ⟨kind, hkind, rfl⟩ := List.mem_map.mp hwarning
    rcases mem_endpoints (List.mem_of_mem_filter hkind) with rfl | rfl
    · exact hsource
    · exact htarget

end Content

/-! ### Assembled artifacts -/

namespace Artifact.IsPortable

variable {artifact : Artifact}

theorem rebuildNavigation (hportable : artifact.IsPortable depth) :
    artifact.rebuildNavigation.IsPortable depth where
  entityTypes := by
    intro type htype
    obtain ⟨position, hposition⟩ := List.mem_iff_getElem?.mp htype
    rw [getElem?_rebuildNavigation] at hposition
    obtain ⟨original, hmem, rfl⟩ := Option.map_eq_some_iff.mp hposition
    have horiginal := hportable.entityTypes original (List.mem_of_getElem? hmem)
    exact ⟨horiginal.kind, horiginal.fields⟩
  relationshipTypes := hportable.relationshipTypes
  viewTemplates := hportable.viewTemplates
  mapsOfContent := hportable.mapsOfContent
  profile := hportable.profile
  diagnostics := hportable.diagnostics

theorem fingerprinted (hportable : artifact.IsPortable depth) :
    artifact.fingerprinted.IsPortable depth where
  entityTypes := hportable.entityTypes
  relationshipTypes := hportable.relationshipTypes
  viewTemplates := hportable.viewTemplates
  mapsOfContent := hportable.mapsOfContent
  profile := hportable.profile
  diagnostics := hportable.diagnostics

end Artifact.IsPortable

/-- What is assembled of portable definitions is portable. -/
theorem Content.IsPortable.assemble {content : Content} (hportable : content.IsPortable depth)
    (blueprint : Blueprint) (version : Version) (maxDepth : UInt64) :
    (content.assemble blueprint version maxDepth).IsPortable depth := by
  refine Artifact.IsPortable.fingerprinted (Artifact.IsPortable.rebuildNavigation
    { entityTypes := ?types, relationshipTypes := ?relationships, viewTemplates := hportable.views
      mapsOfContent := hportable.maps, profile := ?profile, diagnostics := ?diagnostics })
  case types =>
    intro type htype
    have hdefinition : type.definition ∈ content.types :=
      definitions_resolveTypes {} content.types ▸ List.mem_map_of_mem htype
    obtain ⟨item, hitem, hsame⟩ := List.mem_map.mp hdefinition
    refine ⟨?_, fun field hfield => ?_⟩
    · rw [EffectiveType.kind, ← hsame]
      exact hportable.kinds item hitem
    · rw [fields_resolveTypes Hierarchy.trusts_nil content.types type htype] at hfield
      obtain ⟨owner, hown⟩ := Hierarchy.mem_own_of_mem_effective hfield
      obtain ⟨owned, howned, hmem⟩ := mem_fieldsOf hown
      exact hportable.fields owned howned field hmem
  case relationships =>
    intro relationship hrelationship
    obtain ⟨item, hitem, rfl⟩ := List.mem_map.mp hrelationship
    exact ⟨hportable.sources item hitem, hportable.targets item hitem, fun attr hattr =>
      hportable.dataTypes item hitem attr (List.mem_of_mem_filter hattr)⟩
  case profile =>
    exact fun profile hprofile =>
      ⟨hportable.profile profile hprofile, hportable.mappings profile hprofile⟩
  case diagnostics =>
    intro warning hwarning
    rcases List.mem_append.mp hwarning with hwarning | hwarning
    · exact Warning.isNormal_of_isAboutAncestors
        (isAboutAncestors_resolveTypes (List.forall_mem_nil _) content.types warning hwarning)
    · obtain ⟨item, hitem, hwarning⟩ := List.mem_flatMap.mp hwarning
      exact isNormal_relationshipWarnings (hportable.sources item hitem)
        (hportable.targets item hitem) _ _ warning hwarning

end KnowledgeSchema
