import KnowledgeSchema.Operation.Content
import KnowledgeSchema.Proofs.Concurrent.Ids
import KnowledgeSchema.Proofs.Store.Isolation

/-!
# Ids of written definitions

The definitions of a bundle and the copies of a version's definitions take all their ids from those
that were given out for them, and own nothing but one another.
-/

namespace KnowledgeSchema

variable {ids : Ids} {versionId : String}

/-- What an item takes lies behind the start and within what all of them take. -/
theorem mem_withOffsets {α : Type} {size : α → Nat} {start position : Nat} {items : List α}
    {item : α} (hmem : (position, item) ∈ withOffsets size start items) :
    position + size item ≤ start + totalSize size items := by
  induction items generalizing start with
  | nil => cases hmem
  | cons first rest ih =>
    rw [withOffsets, List.mem_cons] at hmem
    rw [totalSize, List.foldr_cons, ← totalSize]
    rcases hmem with heq | hmem
    · cases heq
      omega
    · have hrest := ih hmem
      omega

theorem mem_zipIdx_lt {α : Type} {items : List α} {item : α} {place : Nat}
    (hmem : (item, place) ∈ items.zipIdx) : place < items.length := by
  have hlt := List.snd_lt_add_of_mem_zipIdx hmem
  omega

/-! ### Bundles -/

namespace Bundle

variable {bundle : Bundle}

theorem position_type {position : Nat} {type : BundledType}
    (hmem : (position, type) ∈ bundle.placedTypes) :
    position + 1 + type.members.length ≤ bundle.idCount := by
  have hwithin := mem_withOffsets hmem
  rw [BundledType.idCount] at hwithin
  simp only [idCount, profileStart, mapStart, viewStart, relationshipStart]
  omega

theorem position_relationship {position : Nat} {relationship : BundledRelationship}
    (hmem : (position, relationship) ∈ bundle.placedRelationships) :
    position + 1 + relationship.attributes.length ≤ bundle.idCount := by
  have hwithin := mem_withOffsets hmem
  rw [BundledRelationship.idCount] at hwithin
  simp only [idCount, profileStart, mapStart, viewStart]
  omega

theorem position_profile {profile : BundledProfile} (hprofile : bundle.profile = some profile) :
    bundle.idCount =
      bundle.profileStart + (1 + profile.mappings.length + profile.ignored.length) := by
  simp [idCount, hprofile, BundledProfile.idCount]

theorem resolve_eq_ok {set : DefinitionSet} :
    bundle.resolve ids versionId = .ok set ↔
      bundle.check = .ok () ∧ bundle.definitions ids versionId = set := by
  rw [resolve]
  cases bundle.check with
  | error failure => exact ⟨fun hresolve => (nomatch hresolve), fun hset => (nomatch hset.1)⟩
  | ok _ => exact ⟨fun hresolve => ⟨rfl, Except.ok.inj hresolve⟩, fun hset => congrArg _ hset.2⟩

theorem isWithin_definitions (bundle : Bundle) (ids : Ids) (versionId : String) :
    ∀ definition ∈ (bundle.definitions ids versionId).definitions,
      definition.IsWithin (ids.upTo bundle.idCount) versionId := by
  simp only [DefinitionSet.definitions, List.forall_mem_append, List.forall_mem_map]
  refine ⟨⟨⟨⟨⟨⟨⟨⟨?types, ?fields⟩, ?relationships⟩, ?attributes⟩, ?views⟩, ?maps⟩, ?profile⟩,
    ?mappings⟩, ?entries⟩
  case types =>
    intro type htype
    obtain ⟨⟨position, bundled⟩, hmem, rfl⟩ := List.mem_map.mp htype
    have hposition := position_type hmem
    exact ⟨Ids.mem_upTo (by omega), rfl⟩
  case fields =>
    intro field hfield
    obtain ⟨⟨position, type⟩, hmem, hfield⟩ := List.mem_flatMap.mp hfield
    obtain ⟨⟨bundled, place⟩, hplace, rfl⟩ := List.mem_map.mp hfield
    have hposition := position_type hmem
    have hlt := mem_zipIdx_lt hplace
    exact ⟨Ids.mem_upTo (by omega), Ids.mem_upTo (by omega)⟩
  case relationships =>
    intro relationship hrelationship
    obtain ⟨⟨position, bundled⟩, hmem, rfl⟩ := List.mem_map.mp hrelationship
    have hposition := position_relationship hmem
    exact ⟨Ids.mem_upTo (by omega), rfl⟩
  case attributes =>
    intro attr hattr
    obtain ⟨⟨position, relationship⟩, hmem, hattr⟩ := List.mem_flatMap.mp hattr
    obtain ⟨⟨bundled, place⟩, hplace, rfl⟩ := List.mem_map.mp hattr
    have hposition := position_relationship hmem
    have hlt := mem_zipIdx_lt hplace
    exact ⟨Ids.mem_upTo (by omega), Ids.mem_upTo (by omega)⟩
  case views =>
    intro view hview
    obtain ⟨⟨bundled, place⟩, hplace, rfl⟩ := List.mem_map.mp hview
    have hlt := mem_zipIdx_lt hplace
    refine ⟨Ids.mem_upTo ?_, rfl⟩
    simp only [idCount, profileStart, mapStart]
    omega
  case maps =>
    intro map hmap
    obtain ⟨⟨bundled, place⟩, hplace, rfl⟩ := List.mem_map.mp hmap
    have hlt := mem_zipIdx_lt hplace
    refine ⟨Ids.mem_upTo ?_, rfl⟩
    simp only [idCount, profileStart]
    omega
  case profile =>
    intro definition hdefinition
    obtain ⟨profile, hprofile, rfl⟩ := Option.map_eq_some_iff.mp (Option.mem_toList.mp hdefinition)
    have hcount := position_profile hprofile
    exact ⟨Ids.mem_upTo (by omega), rfl⟩
  case mappings =>
    intro mapping hmapping
    obtain ⟨profile, hprofile, hmapping⟩ := List.mem_flatMap.mp hmapping
    obtain ⟨⟨bundled, place⟩, hplace, rfl⟩ := List.mem_map.mp hmapping
    have hcount := position_profile (Option.mem_toList.mp hprofile)
    have hlt := mem_zipIdx_lt hplace
    exact ⟨Ids.mem_upTo (by omega), Ids.mem_upTo (by omega)⟩
  case entries =>
    intro entry hentry
    obtain ⟨profile, hprofile, hentry⟩ := List.mem_flatMap.mp hentry
    obtain ⟨⟨bundled, place⟩, hplace, rfl⟩ := List.mem_map.mp hentry
    have hcount := position_profile (Option.mem_toList.mp hprofile)
    have hlt := mem_zipIdx_lt hplace
    exact ⟨Ids.mem_upTo (by omega), Ids.mem_upTo (by omega)⟩

end Bundle

/-! ### Copies -/

namespace Content

variable {content : Content}

theorem position_type {position : Nat} {type : EntityType} {fields : List Field}
    (hmem : (position, type, fields) ∈ content.placedTypes) :
    position + 1 + fields.length ≤ content.idCount := by
  have hwithin := mem_withOffsets hmem
  rw [typeSize] at hwithin
  simp only [idCount, profileStart, mapStart, viewStart, relationshipStart]
  omega

theorem position_relationship {position : Nat} {relationship : RelationshipType}
    {attributes : List RelationshipAttribute}
    (hmem : (position, relationship, attributes) ∈ content.placedRelationships) :
    position + 1 + attributes.length ≤ content.idCount := by
  have hwithin := mem_withOffsets hmem
  rw [relationshipSize] at hwithin
  simp only [idCount, profileStart, mapStart, viewStart]
  omega

theorem position_profile {profile : EffectiveProfile} (hprofile : content.profile = some profile) :
    content.idCount =
      content.profileStart + (1 + profile.labelMappings.length + profile.ignoreEntries.length) := by
  simp [idCount, hprofile, profileSize]

theorem isWithin_copy (content : Content) (ids : Ids) (versionId : String) :
    ∀ definition ∈ (content.copy ids versionId).definitions,
      definition.IsWithin (ids.upTo content.idCount) versionId := by
  simp only [DefinitionSet.definitions, List.forall_mem_append, List.forall_mem_map]
  refine ⟨⟨⟨⟨⟨⟨⟨⟨?types, ?fields⟩, ?relationships⟩, ?attributes⟩, ?views⟩, ?maps⟩, ?profile⟩,
    ?mappings⟩, ?entries⟩
  case types =>
    intro type htype
    obtain ⟨⟨position, original, fields⟩, hmem, rfl⟩ := List.mem_map.mp htype
    have hposition := position_type hmem
    exact ⟨Ids.mem_upTo (by omega), rfl⟩
  case fields =>
    intro field hfield
    obtain ⟨⟨position, type, fields⟩, hmem, hfield⟩ := List.mem_flatMap.mp hfield
    obtain ⟨⟨original, place⟩, hplace, rfl⟩ := List.mem_map.mp hfield
    have hposition := position_type hmem
    have hlt := mem_zipIdx_lt hplace
    exact ⟨Ids.mem_upTo (by omega), Ids.mem_upTo (by omega)⟩
  case relationships =>
    intro relationship hrelationship
    obtain ⟨⟨position, original, attributes⟩, hmem, rfl⟩ := List.mem_map.mp hrelationship
    have hposition := position_relationship hmem
    exact ⟨Ids.mem_upTo (by omega), rfl⟩
  case attributes =>
    intro attr hattr
    obtain ⟨⟨position, relationship, attributes⟩, hmem, hattr⟩ := List.mem_flatMap.mp hattr
    obtain ⟨⟨original, place⟩, hplace, rfl⟩ := List.mem_map.mp hattr
    have hposition := position_relationship hmem
    have hlt := mem_zipIdx_lt hplace
    exact ⟨Ids.mem_upTo (by omega), Ids.mem_upTo (by omega)⟩
  case views =>
    intro view hview
    obtain ⟨⟨original, place⟩, hplace, rfl⟩ := List.mem_map.mp hview
    have hlt := mem_zipIdx_lt hplace
    refine ⟨Ids.mem_upTo ?_, rfl⟩
    simp only [idCount, profileStart, mapStart]
    omega
  case maps =>
    intro map hmap
    obtain ⟨⟨original, place⟩, hplace, rfl⟩ := List.mem_map.mp hmap
    have hlt := mem_zipIdx_lt hplace
    refine ⟨Ids.mem_upTo ?_, rfl⟩
    simp only [idCount, profileStart]
    omega
  case profile =>
    intro definition hdefinition
    obtain ⟨profile, hprofile, rfl⟩ := Option.map_eq_some_iff.mp (Option.mem_toList.mp hdefinition)
    have hcount := position_profile hprofile
    exact ⟨Ids.mem_upTo (by omega), rfl⟩
  case mappings =>
    intro mapping hmapping
    obtain ⟨profile, hprofile, hmapping⟩ := List.mem_flatMap.mp hmapping
    obtain ⟨⟨original, place⟩, hplace, rfl⟩ := List.mem_map.mp hmapping
    have hcount := position_profile (Option.mem_toList.mp hprofile)
    have hlt := mem_zipIdx_lt hplace
    exact ⟨Ids.mem_upTo (by omega), Ids.mem_upTo (by omega)⟩
  case entries =>
    intro entry hentry
    obtain ⟨profile, hprofile, hentry⟩ := List.mem_flatMap.mp hentry
    obtain ⟨⟨original, place⟩, hplace, rfl⟩ := List.mem_map.mp hentry
    have hcount := position_profile (Option.mem_toList.mp hprofile)
    have hlt := mem_zipIdx_lt hplace
    exact ⟨Ids.mem_upTo (by omega), Ids.mem_upTo (by omega)⟩

end Content

end KnowledgeSchema
