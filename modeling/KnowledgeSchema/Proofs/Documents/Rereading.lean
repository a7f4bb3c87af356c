import KnowledgeSchema.Artifact.Basic
import KnowledgeSchema.Blueprint.Event
import KnowledgeSchema.Proofs.Documents.Bundles

/-!
# Documents read again

Every type that has documents, and what a document of each is good for: what is read from it is
written as another one, which is read as the same again.

Warnings, events and what artifacts are made of are reread from their own documents. Positions of
parents and children are no part of a document, so an artifact that is read has none.
-/

namespace KnowledgeSchema

open Json

variable {depth : Nat}

/-! ### Warnings -/

namespace Warning

/-- Whether the kind that a warning is about is spelled as kinds are. -/
def IsNormal : Warning → Prop
  | unknownEndpoint _ kind => kind.IsNormal
  | _ => True

theorem rereads {warning : Warning} (hnormal : warning.IsNormal) :
    codec.Rereads (depth + 2) warning := by
  cases warning with
  | danglingParent entityTypeId parentId =>
    exact Codec.rereads_arm (entityTypeId, parentId) (rfl : danglingParentArm = _) rfl rfl rfl
      ⟨by decide, fun _ => rfl, fun _ => rfl⟩ (by decide)
      ⟨Codec.restores_text _, Codec.restores_text _, trivial⟩
  | depthExceeded entityTypeId maxDepth =>
    exact Codec.rereads_arm (entityTypeId, maxDepth) (rfl : depthExceededArm = _) rfl rfl rfl
      ⟨by decide, fun _ => rfl, fun _ => rfl⟩ (by decide)
      ⟨Codec.restores_text _, Codec.restores_count _, trivial⟩
  | inheritanceCycle entityTypeId cycle =>
    exact Codec.rereads_arm (entityTypeId, cycle) (rfl : inheritanceCycleArm = _) rfl rfl rfl
      ⟨by decide, fun _ => rfl, fun _ => rfl⟩ (by decide)
      ⟨Codec.restores_text _, .list fun id _ => Codec.restores_text id, trivial⟩
  | unknownEndpoint relationshipTypeId kind =>
    exact Codec.rereads_arm (relationshipTypeId, kind) (rfl : unknownEndpointArm = _) rfl rfl rfl
      ⟨by decide, fun _ => rfl, fun _ => rfl⟩ (by decide)
      ⟨Codec.restores_text _, EntityKind.restores hnormal, trivial⟩
  | orphanedAttribute attributeId relationshipTypeId =>
    exact Codec.rereads_arm (attributeId, relationshipTypeId) (rfl : orphanedAttributeArm = _) rfl
      rfl rfl ⟨by decide, fun _ => rfl, fun _ => rfl⟩ (by decide)
      ⟨Codec.restores_text _, Codec.restores_text _, trivial⟩

theorem isNormal_of_mayGiveAt {warning : Warning} (hgives : codec.MayGiveAt depth warning) :
    warning.IsNormal := by
  rcases hgives with ⟨input, rest, hread⟩ | habsent
  · obtain ⟨arm, harm, hof⟩ := Codec.from_read_tagged hread
    simp only [List.mem_cons, List.not_mem_nil, or_false] at harm
    rcases harm with rfl | rfl | rfl | rfl | rfl <;>
      obtain ⟨values, rfl, hfrom⟩ := Codec.from_arm rfl hof
    case inr.inr.inr.inl => exact hfrom.2.1.elim EntityKind.isNormal_of_mayTake nofun
    all_goals trivial
  · cases habsent

theorem isStable : codec.IsStable (depth + 2) := fun _ hgives =>
  rereads (isNormal_of_mayGiveAt hgives)

end Warning

/-! ### Events -/

theorem Event.rereads (event : Event) : codec.Rereads (depth + 1) event := by
  cases event with
  | blueprintCreated blueprintId name time =>
    exact Codec.rereads_arm (blueprintId, name, time) (rfl : blueprintCreatedArm = _) rfl rfl rfl
      ⟨by decide, fun _ => rfl, fun _ => rfl⟩ (by decide)
      ⟨Codec.restores_text _, Codec.restores_text _, Codec.restores_timestamp _, trivial⟩
  | versionCreated blueprintId versionId number source time =>
    exact Codec.rereads_arm (blueprintId, versionId, number, source, time)
      (rfl : versionCreatedArm = _) rfl rfl rfl ⟨by decide, fun _ => rfl, fun _ => rfl⟩ (by decide)
      ⟨Codec.restores_text _, Codec.restores_text _, Codec.restores_signed _,
        Codec.restores_optional_text _, Codec.restores_timestamp _, trivial⟩
  | statusChanged versionId before after time =>
    exact Codec.rereads_arm (versionId, before, after, time) (rfl : statusChangedArm = _) rfl rfl rfl
      ⟨by decide, fun _ => rfl, fun _ => rfl⟩ (by decide)
      ⟨Codec.restores_text _, Codec.restores_named before.pick_name,
        Codec.restores_named after.pick_name, Codec.restores_timestamp _, trivial⟩
  | versionCompiled versionId fingerprint warnings time =>
    exact Codec.rereads_arm (versionId, fingerprint, warnings, time) (rfl : versionCompiledArm = _)
      rfl rfl rfl ⟨by decide, fun _ => rfl, fun _ => rfl⟩ (by decide)
      ⟨Codec.restores_text _, Codec.restores_text _, Codec.restores_count _,
        Codec.restores_timestamp _, trivial⟩

/-! ### Parts of artifacts -/

namespace EffectiveType

theorem nodup_names : (EntityType.fields.names ++ ownMembers.names).Nodup := by decide

theorem rereads {type : EffectiveType} (hkind : type.kind.IsNormal)
    (hfields : ∀ field ∈ type.fields, Field.codec.Rereads depth field)
    (hparent : type.parent = none) (hchildren : type.children = []) :
    codec.Rereads (depth + 2) type := by
  refine Codec.rereads_extended EntityType.isExact nodup_names
    ⟨.list hfields, Codec.rereads_list_text _, trivial⟩ (EntityType.restored hkind) ?_ _
  cases type
  subst hparent hchildren
  rfl

theorem isStable : codec.IsStable (depth + 3) :=
  Codec.isStable_extended EntityType.isExact nodup_names
    (fun _ hfrom => EntityType.restored (hfrom.2.2.1.elim EntityKind.isNormal_of_mayTake nofun))
    ⟨Field.isStable.list, Codec.isStable_list_text, trivial⟩ (fun _ _ => rfl) (fun _ _ => rfl) _

end EffectiveType

namespace EffectiveRelationship

theorem nodup_names : (RelationshipType.fields.names ++ ownMembers.names).Nodup := by decide

theorem rereads {relationship : EffectiveRelationship}
    (hsource : relationship.definition.source.IsNormal)
    (htarget : relationship.definition.target.IsNormal)
    (hattributes : ∀ attr ∈ relationship.attributes, attr.dataType.IsNormal) :
    codec.Rereads (depth + 3) relationship :=
  Codec.rereads_extended RelationshipType.isExact nodup_names
    ⟨.list fun attr hattr => RelationshipAttribute.rereads (hattributes attr hattr), trivial⟩
    (RelationshipType.restored hsource htarget) rfl _

theorem isStable : codec.IsStable (depth + 3) :=
  Codec.isStable_extended RelationshipType.isExact nodup_names
    (fun _ hfrom => RelationshipType.restored
      (hfrom.2.2.2.2.1.elim EntityKind.isNormal_of_mayTake nofun)
      (hfrom.2.2.2.2.2.1.elim EntityKind.isNormal_of_mayTake nofun))
    ⟨RelationshipAttribute.isStable.list, trivial⟩ (fun _ _ => rfl) (fun _ _ => rfl) _

end EffectiveRelationship

namespace EffectiveProfile

theorem nodup_names : (ExtractionProfile.fields.names ++ ownMembers.names).Nodup := by decide

theorem rereads {profile : EffectiveProfile}
    (hmappings : ∀ mapping ∈ profile.labelMappings, mapping.kind.IsNormal) :
    codec.Rereads (depth + 3) profile :=
  Codec.rereads_extended ExtractionProfile.isExact nodup_names
    ⟨.list fun mapping hmapping => LabelMapping.rereads (hmappings mapping hmapping),
      .list fun entry _ => entry.rereads, trivial⟩
    (ExtractionProfile.restored _) rfl _

theorem isStable : codec.IsStable (depth + 3) :=
  Codec.isStable_extended ExtractionProfile.isExact nodup_names (fun profile _ => profile.restored)
    ⟨LabelMapping.isStable.list, Codec.IsStable.list fun entry _ => entry.rereads, trivial⟩
    (fun _ _ => rfl) (fun _ _ => rfl) _

end EffectiveProfile

/-! ### Artifacts -/

namespace Artifact

theorem isExact : fields.IsExact mk := ⟨by decide, fun _ => rfl, fun _ => rfl⟩

theorem isStable : codec.IsStable (depth + 5) :=
  Codec.isStable_record isExact
    ⟨fun blueprint _ => blueprint.rereads, fun version _ => version.rereads, EffectiveType.isStable.list,
      EffectiveRelationship.isStable.list, ViewTemplate.isStable.list, MapOfContent.isStable.list,
      EffectiveProfile.isStable.optional nofun, Codec.isStable_text, Warning.isStable.list, trivial⟩
    _ _

end Artifact

/-! ### All documents -/

/-- The types whose values are documents, those of the names in them included. -/
inductive Document where
  | entityKind | dataType | status | direction | cardinality
  | blueprint | version
  | entityType | field | relationshipType | relationshipAttribute | viewTemplate | mapOfContent
  | extractionProfile | labelMapping | ignoreEntry
  | warning | event
  | effectiveType | effectiveRelationship | effectiveProfile | artifact
  | bundledField | bundledType | bundledAttribute | bundledRelationship | bundledView | bundledMap
  | bundledMapping | bundledTerm | bundledProfile | bundle

namespace Document

@[reducible]
def Value : Document → Type
  | entityKind => EntityKind
  | dataType => DataType
  | status => Status
  | direction => Direction
  | cardinality => Cardinality
  | blueprint => Blueprint
  | version => Version
  | entityType => EntityType
  | field => Field
  | relationshipType => RelationshipType
  | relationshipAttribute => RelationshipAttribute
  | viewTemplate => ViewTemplate
  | mapOfContent => MapOfContent
  | extractionProfile => ExtractionProfile
  | labelMapping => LabelMapping
  | ignoreEntry => IgnoreEntry
  | warning => Warning
  | event => Event
  | effectiveType => EffectiveType
  | effectiveRelationship => EffectiveRelationship
  | effectiveProfile => EffectiveProfile
  | artifact => Artifact
  | bundledField => BundledField
  | bundledType => BundledType
  | bundledAttribute => BundledAttribute
  | bundledRelationship => BundledRelationship
  | bundledView => BundledView
  | bundledMap => BundledMap
  | bundledMapping => BundledMapping
  | bundledTerm => BundledTerm
  | bundledProfile => BundledProfile
  | bundle => Bundle

def codec : (document : Document) → Codec document.Value
  | entityKind => EntityKind.codec
  | dataType => DataType.codec
  | status => Status.codec
  | direction => Direction.codec
  | cardinality => Cardinality.codec
  | blueprint => Blueprint.codec
  | version => Version.codec
  | entityType => EntityType.codec
  | field => Field.codec
  | relationshipType => RelationshipType.codec
  | relationshipAttribute => RelationshipAttribute.codec
  | viewTemplate => ViewTemplate.codec
  | mapOfContent => MapOfContent.codec
  | extractionProfile => ExtractionProfile.codec
  | labelMapping => LabelMapping.codec
  | ignoreEntry => IgnoreEntry.codec
  | warning => Warning.codec
  | event => Event.codec
  | effectiveType => EffectiveType.codec
  | effectiveRelationship => EffectiveRelationship.codec
  | effectiveProfile => EffectiveProfile.codec
  | artifact => Artifact.codec
  | bundledField => BundledField.codec
  | bundledType => BundledType.codec
  | bundledAttribute => BundledAttribute.codec
  | bundledRelationship => BundledRelationship.codec
  | bundledView => BundledView.codec
  | bundledMap => BundledMap.codec
  | bundledMapping => BundledMapping.codec
  | bundledTerm => BundledTerm.codec
  | bundledProfile => BundledProfile.codec
  | bundle => Bundle.codec

/-- A text may go deeper than any document does of itself. -/
theorem isStable (document : Document) : document.codec.IsStable maxDepth := by
  cases document with
  | entityKind => exact EntityKind.isStable
  | dataType => exact DataType.isStable
  | status => exact fun status _ => Codec.rereads_named status.pick_name
  | direction => exact Direction.isStable
  | cardinality => exact Cardinality.isStable
  | blueprint => exact fun blueprint _ => blueprint.rereads
  | version => exact fun version _ => version.rereads
  | entityType => exact EntityType.isStable
  | field => exact Field.isStable
  | relationshipType => exact RelationshipType.isStable
  | relationshipAttribute => exact RelationshipAttribute.isStable
  | viewTemplate => exact ViewTemplate.isStable
  | mapOfContent => exact MapOfContent.isStable
  | extractionProfile => exact ExtractionProfile.isStable
  | labelMapping => exact LabelMapping.isStable
  | ignoreEntry => exact fun entry _ => entry.rereads
  | warning => exact Warning.isStable
  | event => exact fun event _ => event.rereads
  | effectiveType => exact EffectiveType.isStable
  | effectiveRelationship => exact EffectiveRelationship.isStable
  | effectiveProfile => exact EffectiveProfile.isStable
  | artifact => exact Artifact.isStable
  | bundledField => exact BundledField.isStable
  | bundledType => exact BundledType.isStable
  | bundledAttribute => exact BundledAttribute.isStable
  | bundledRelationship => exact BundledRelationship.isStable
  | bundledView => exact BundledView.isStable
  | bundledMap => exact BundledMap.isStable
  | bundledMapping => exact BundledMapping.isStable
  | bundledTerm => exact BundledTerm.isStable
  | bundledProfile => exact BundledProfile.isStable
  | bundle => exact Bundle.isStable

/-- What is read from a document is read again from the document that is written for it, if each double
in it is read back from its own text. -/
theorem parse_write_of_parse (document : Document) {text : String} {value : document.Value}
    (hparse : document.codec.parse text = .ok value) (hsteady : (document.codec.encode value).IsSteady) :
    document.codec.parse (document.codec.write value) = .ok value := by
  have hgives : document.codec.MayGiveAt maxDepth value := Codec.mayGiveAt_of_parse hparse
  have hrereads : document.codec.Rereads maxDepth value := document.isStable value hgives
  exact hrereads.parse_write hsteady

/-- A profile that stands as an array, with a double that is written in another way. -/
theorem parse_write_of_parse_profile :
    ∃ profile : ExtractionProfile,
      extractionProfile.codec.parse "[\"p\", \"v\", \"Names\", true, 5e-1]" = .ok profile ∧
      (extractionProfile.codec.encode profile).IsSteady ∧
      extractionProfile.codec.write profile ≠ "[\"p\", \"v\", \"Names\", true, 5e-1]" ∧
      extractionProfile.codec.parse (extractionProfile.codec.write profile) = .ok profile := by
  have hshown : (extractionProfile.codec.parse
        "[\"p\", \"v\", \"Names\", true, 5e-1]").toOption.map (fun profile =>
      (decide (extractionProfile.codec.encode profile).IsSteady,
        extractionProfile.codec.write profile)) =
      some (true, "\x7b\"id\":\"p\",\"version_id\":\"v\",\"name\":\"Names\"," ++
        "\"enabled\":true,\"confidence_threshold\":0.5\x7d") := by
    decide +kernel
  obtain ⟨profile, hparse, hfacts⟩ := Option.map_eq_some_iff.mp hshown
  rw [Outcome.toOption_eq_some] at hparse
  obtain ⟨hsteady, hwrite⟩ := Prod.mk.inj hfacts
  rw [decide_eq_true_eq] at hsteady
  refine ⟨profile, hparse, hsteady, ?_, parse_write_of_parse extractionProfile hparse hsteady⟩
  rw [hwrite]
  decide

end Document

end KnowledgeSchema
