import KnowledgeSchema.Artifact.Fingerprint
import KnowledgeSchema.Proofs.Json.Revealing
import KnowledgeSchema.Proofs.Json.Unique
import KnowledgeSchema.Time.Epoch

/-!
# What a fingerprint covers

The bytes under a fingerprint are those of all content and of nothing else: two artifacts have equal
bytes exactly when they agree on everything but their fingerprints, their diagnostics and the
positions of parents and children. Only a validation of null is not told from none.
-/

namespace KnowledgeSchema

/-! ### Definitions -/

theorem Blueprint.tells : Blueprint.codec.Tells fun _ => True := by
  refine Codec.record_reveals fun blueprint other _ _ => ?_
  cases blueprint
  cases other
  simp [fields]

theorem Version.tells : Version.codec.Tells fun _ => True := by
  refine Codec.record_reveals fun version other _ _ => ?_
  cases version
  cases other
  simp [fields]

/-- The field as it is encoded: without a validation it has that of null. -/
def Field.settled (field : Field) : Field :=
  { field with validation := some (field.validation.getD .null) }

theorem Field.reveals : Field.codec.Reveals (fun field => field.dataType.IsNormal) settled := by
  refine Codec.record_reveals fun field other hfield hother => ?_
  have hdataType := DataType.tells _ _ hfield hother
  cases field
  cases other
  simp [fields, settled, hdataType]

theorem RelationshipAttribute.tells :
    RelationshipAttribute.codec.Tells fun attr => attr.dataType.IsNormal := by
  refine Codec.record_reveals fun attr other hattr hother => ?_
  have hdataType := DataType.tells _ _ hattr hother
  cases attr
  cases other
  simp [fields, hdataType]

namespace ViewTemplate

def IsNormal (view : ViewTemplate) : Prop :=
  ∀ kind ∈ view.kind, kind.IsNormal

theorem tells : ViewTemplate.codec.Tells IsNormal := by
  refine Codec.record_reveals fun view other hview hother => ?_
  have hkind := EntityKind.tells.optional (fun _ hnull => nomatch hnull) _ _ hview hother
  cases view
  cases other
  simp [fields, hkind]

end ViewTemplate

namespace MapOfContent

def IsNormal (map : MapOfContent) : Prop :=
  ∀ kind ∈ map.kinds, kind.IsNormal

theorem tells : MapOfContent.codec.Tells IsNormal := by
  refine Codec.record_reveals fun map other hmap hother => ?_
  have hkinds := EntityKind.tells.list _ _ hmap hother
  cases map
  cases other
  simp [fields, hkinds]

end MapOfContent

theorem LabelMapping.tells : LabelMapping.codec.Tells fun mapping => mapping.kind.IsNormal := by
  refine Codec.record_reveals fun mapping other hmapping hother => ?_
  have hkind := EntityKind.tells _ _ hmapping hother
  cases mapping
  cases other
  simp [fields, hkind]

theorem IgnoreEntry.tells : IgnoreEntry.codec.Tells fun _ => True := by
  refine Codec.record_reveals fun entry other _ _ => ?_
  cases entry
  cases other
  simp [fields]

/-! ### Types and profiles in their place -/

namespace EffectiveType

/-- Whether its kind and the data types of its fields are in their own spelling. -/
structure IsNormal (type : EffectiveType) : Prop where
  kind : type.definition.kind.IsNormal
  dataTypes : ∀ field ∈ type.fields, field.dataType.IsNormal

/-- The type as it is encoded, without positions of other types. -/
def settled (type : EffectiveType) : EffectiveType :=
  { type with fields := type.fields.map Field.settled, parent := none, children := [] }

theorem reveals : EffectiveType.codec.Reveals IsNormal settled := by
  refine Codec.extended_reveals fun type other htype hother => ?_
  have hkind := EntityKind.tells _ _ htype.kind hother.kind
  have hfields := Field.reveals.list _ _ htype.dataTypes hother.dataTypes
  obtain ⟨definition, fields, lineage, _, _⟩ := type
  obtain ⟨definition', fields', lineage', _, _⟩ := other
  cases definition
  cases definition'
  simp_all [EntityType.fields, ownMembers, settled, and_assoc]

end EffectiveType

namespace EffectiveRelationship

structure IsNormal (relationship : EffectiveRelationship) : Prop where
  source : relationship.definition.source.IsNormal
  target : relationship.definition.target.IsNormal
  dataTypes : ∀ attr ∈ relationship.attributes, attr.dataType.IsNormal

theorem tells : EffectiveRelationship.codec.Tells IsNormal := by
  refine Codec.extended_reveals fun relationship other hrelationship hother => ?_
  have hsource := EntityKind.tells _ _ hrelationship.source hother.source
  have htarget := EntityKind.tells _ _ hrelationship.target hother.target
  have hattributes := RelationshipAttribute.tells.list _ _ hrelationship.dataTypes hother.dataTypes
  obtain ⟨definition, attributes⟩ := relationship
  obtain ⟨definition', attributes'⟩ := other
  cases definition
  cases definition'
  simp_all [RelationshipType.fields, ownMembers, and_assoc]

end EffectiveRelationship

namespace EffectiveProfile

def IsNormal (profile : EffectiveProfile) : Prop :=
  ∀ mapping ∈ profile.labelMappings, mapping.kind.IsNormal

theorem tells : EffectiveProfile.codec.Tells IsNormal := by
  refine Codec.extended_reveals fun profile other hprofile hother => ?_
  have hmappings := LabelMapping.tells.list _ _ hprofile hother
  have hentries := IgnoreEntry.tells.list profile.ignoreEntries other.ignoreEntries
    (fun _ _ => trivial) fun _ _ => trivial
  obtain ⟨definition, mappings, entries⟩ := profile
  obtain ⟨definition', mappings', entries'⟩ := other
  cases definition
  cases definition'
  simp_all [ExtractionProfile.fields, ownMembers, and_assoc]

end EffectiveProfile

/-! ### Artifacts -/

/-- The content of a byte array as a list. -/
theorem toList_loop (bytes : ByteArray) (position : Nat) (taken : List UInt8) :
    ByteArray.toList.loop bytes position taken =
      taken.reverse ++ bytes.data.toList.drop position := by
  induction position, taken using ByteArray.toList.loop.induct bytes with
  | case1 position taken hless ih =>
    have hposition : position < bytes.data.toList.length := by simpa using hless
    have hget : bytes.get! position = bytes.data.toList[position] := by
      rw [Array.getElem_toList]
      exact getElem!_pos bytes.data position (by simpa using hless)
    rw [ByteArray.toList.loop, if_pos hless, ih, List.drop_eq_getElem_cons hposition, hget,
      List.reverse_cons, List.append_assoc, List.singleton_append]
  | case2 position taken hge =>
    have hposition : bytes.data.toList.length ≤ position := by simpa using hge
    rw [ByteArray.toList.loop, if_neg hge, List.drop_eq_nil_of_le hposition, List.append_nil]

theorem toList_injective {bytes others : ByteArray} (hsame : bytes.toList = others.toList) :
    bytes = others := by
  rw [ByteArray.toList, ByteArray.toList, toList_loop, toList_loop] at hsame
  exact ByteArray.ext (Array.toList_inj.mp hsame)

namespace Artifact

/-- Whether all kinds and data types are in their own spelling. -/
structure IsNormal (artifact : Artifact) : Prop where
  entityTypes : ∀ type ∈ artifact.entityTypes, type.IsNormal
  relationshipTypes : ∀ relationship ∈ artifact.relationshipTypes, relationship.IsNormal
  viewTemplates : ∀ view ∈ artifact.viewTemplates, view.IsNormal
  mapsOfContent : ∀ map ∈ artifact.mapsOfContent, map.IsNormal
  profile : ∀ profile ∈ artifact.profile, profile.IsNormal

/-- The artifact without what no fingerprint covers. -/
def covered (artifact : Artifact) : Artifact :=
  { artifact with
    entityTypes := artifact.entityTypes.map EffectiveType.settled
    fingerprint := ""
    diagnostics := [] }

variable {artifact other : Artifact}

theorem contentBytes_inj : artifact.contentBytes = other.contentBytes ↔
    artifact.content.text = other.content.text := by
  rw [contentBytes, contentBytes]
  exact ⟨fun hsame => String.toByteArray_inj.mp (toList_injective hsame),
    fun hsame => by rw [hsame]⟩

theorem content_inj (hartifact : artifact.IsNormal) (hother : other.IsNormal) :
    artifact.content = other.content ↔ artifact.covered = other.covered := by
  have hblueprint := Blueprint.tells artifact.blueprint other.blueprint trivial trivial
  have hversion := Version.tells artifact.version other.version trivial trivial
  have htypes := EffectiveType.reveals.list _ _ hartifact.entityTypes hother.entityTypes
  have hrelationships := EffectiveRelationship.tells.list _ _ hartifact.relationshipTypes
    hother.relationshipTypes
  have hviews := ViewTemplate.tells.list _ _ hartifact.viewTemplates hother.viewTemplates
  have hmaps := MapOfContent.tells.list _ _ hartifact.mapsOfContent hother.mapsOfContent
  have hprofile := EffectiveProfile.tells.optional (fun _ hnull => nomatch hnull) _ _
    hartifact.profile hother.profile
  simp [content, fields, Fields.encode, covered, hblueprint, hversion, htypes, hrelationships,
    hviews, hmaps, hprofile]

/-- The fingerprint covers all content and nothing else. -/
theorem contentBytes_eq_iff (hartifact : artifact.IsNormal) (hother : other.IsNormal)
    (htold : Json.AreTold artifact.content.doubles other.content.doubles) :
    artifact.contentBytes = other.contentBytes ↔ artifact.covered = other.covered := by
  rw [contentBytes_inj, ← content_inj hartifact hother]
  exact ⟨Json.eq_of_text_eq htold, fun hsame => by rw [hsame]⟩

/-- A blueprint of one type with one field. -/
def sketch (label : String) (validation : Option Json) (parent : Option Nat)
    (diagnostics : List Warning) : Artifact where
  blueprint := .new "a" "Novel" ((Timestamp.ofEpoch? 0 0).get (by decide))
  version := .draft "b" "a" 1 ((Timestamp.ofEpoch? 0 0).get (by decide))
  entityTypes := [{
    definition := .new "c" "b" (.custom "SHIP")
    fields := [{ Field.new "d" "c" "crew" .number with label, validation }]
    lineage := []
    parent }]
  relationshipTypes := []
  viewTemplates := []
  mapsOfContent := []
  profile := some { definition := .new "e" "b" "Default", labelMappings := [], ignoreEntries := [] }
  fingerprint := ""
  diagnostics

theorem isNormal_sketch (label : String) (validation : Option Json) (parent : Option Nat)
    (diagnostics : List Warning) : (sketch label validation parent diagnostics).IsNormal where
  entityTypes type htype := by
    obtain rfl := List.mem_singleton.mp htype
    refine ⟨?_, fun field hfield => ?_⟩
    · change EntityKind.parse "SHIP" = .custom "SHIP"
      decide +kernel
    · obtain rfl := List.mem_singleton.mp hfield
      change DataType.parse "number" = .number
      decide +kernel
  relationshipTypes _ hrelationship := absurd hrelationship List.not_mem_nil
  viewTemplates _ hview := absurd hview List.not_mem_nil
  mapsOfContent _ hmap := absurd hmap List.not_mem_nil
  profile profile hprofile := by
    obtain rfl := Option.mem_some_iff.mp hprofile
    exact fun _ hmapping => absurd hmapping List.not_mem_nil

theorem contentBytes_eq_iff_sketch :
    (sketch "Crew" none none []).contentBytes =
        (sketch "Crew" (some .null) (some 0) [.danglingParent "c" "d"]).contentBytes ∧
      (sketch "Crew" none none []).contentBytes ≠ (sketch "Hands" none none []).contentBytes := by
  constructor
  · refine (contentBytes_eq_iff (isNormal_sketch _ _ _ _) (isNormal_sketch _ _ _ _) ?_).mpr rfl
    exact ⟨by decide, by decide, by decide⟩
  · refine (contentBytes_eq_iff (isNormal_sketch _ _ _ _) (isNormal_sketch _ _ _ _) ?_).not.mpr ?_
    · exact ⟨by decide, by decide, by decide⟩
    · intro hsame
      have hlabels := congrArg (fun each => each.entityTypes.map (·.fields.map (·.label))) hsame
      exact absurd hlabels (by decide)

end Artifact

end KnowledgeSchema
