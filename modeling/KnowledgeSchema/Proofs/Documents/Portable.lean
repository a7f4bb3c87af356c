import KnowledgeSchema.Operation.Content
import KnowledgeSchema.Proofs.Documents.Bundles
import KnowledgeSchema.Proofs.Forking.Copying
import KnowledgeSchema.Proofs.Importing.Grammar
import KnowledgeSchema.Proofs.Json.Finite

/-!
# Definitions that documents can hold

A definition is portable when a document of an artifact, which holds it at a place of its own, is read
as what it was written for: names are spelled as they are read, JSON goes no deeper than a document
lets it there, and doubles are finite. What is read as a bundle stands for such definitions, because
every definition has the same place in a bundle as in an artifact.
-/

namespace KnowledgeSchema

open Json

variable {depth : Nat}

/-! ### Definitions -/

/-- JSON that goes no deeper than it may and whose doubles are finite. -/
structure Json.IsPortable (depth : Nat) (json : Json) : Prop where
  fits : json.Fits depth
  finite : json.IsFinite

theorem Codec.isPortable_of_free {json : Json} (hgives : free.MayGiveAt depth json) :
    json.IsPortable depth :=
  ⟨fits_of_free hgives, isFinite_of_free hgives⟩

/-- JSON that is written and read again may be read as something else, but not as something that goes
deeper. -/
theorem Json.IsPortable.of_parse_text {json found : Json} (hportable : json.IsPortable depth)
    (hparse : Codec.free.parse json.text = .ok found) : found.IsPortable depth :=
  ⟨fits_of_parse_text hportable.fits hparse,
    Codec.isFinite_of_free (Codec.mayGiveAt_of_parse hparse)⟩

/-- A validation of null would be read as none. -/
structure Field.IsPortable (depth : Nat) (field : Field) : Prop where
  dataType : field.dataType.IsNormal
  validation : ∀ json ∈ field.validation, json.IsPortable depth
  solid : ∀ json ∈ field.validation, json.IsSolid

structure ViewTemplate.IsPortable (depth : Nat) (view : ViewTemplate) : Prop where
  kind : ∀ kind ∈ view.kind, kind.IsNormal
  config : view.config.IsPortable depth

structure MapOfContent.IsPortable (depth : Nat) (map : MapOfContent) : Prop where
  kinds : ∀ kind ∈ map.kinds, kind.IsNormal
  config : map.config.IsPortable depth

structure ExtractionProfile.IsPortable (profile : ExtractionProfile) : Prop where
  threshold : profile.threshold.isFinite = true

/-- A document that leaves `depth` to a validation leaves two more to a config. -/
def Definition.IsPortable (depth : Nat) : Definition → Prop
  | entityType type => type.kind.IsNormal
  | field definition => definition.IsPortable depth
  | relationshipType type => type.source.IsNormal ∧ type.target.IsNormal
  | relationshipAttribute attr => attr.dataType.IsNormal
  | viewTemplate view => view.IsPortable (depth + 2)
  | mapOfContent map => map.IsPortable (depth + 2)
  | profile definition => definition.IsPortable
  | labelMapping mapping => mapping.kind.IsNormal
  | ignoreEntry _ => True

def DefinitionSet.IsPortable (depth : Nat) (set : DefinitionSet) : Prop :=
  ∀ definition ∈ set.definitions, definition.IsPortable depth

/-- How deep a validation may go in a document of an artifact or of a bundle. -/
def validationDepth : Nat :=
  Json.maxDepth - 5

/-! ### Bundles -/

/-- What a bundle holds beside names. -/
structure Bundle.IsPortable (depth : Nat) (bundle : Bundle) : Prop where
  normal : bundle.IsNormal
  validations : ∀ type ∈ bundle.entityTypes, ∀ field ∈ type.members, ∀ json ∈ field.validation,
    json.IsPortable depth ∧ json.IsSolid
  views : ∀ view ∈ bundle.views, view.config.IsPortable (depth + 2)
  maps : ∀ map ∈ bundle.maps, map.config.IsPortable (depth + 2)
  threshold : ∀ profile ∈ bundle.profile, profile.threshold.isNumber = true

theorem Json.isPortable_emptyObject : emptyObject.IsPortable (depth + 1) :=
  ⟨fits_emptyObject, isFinite_obj (List.forall_mem_nil _)⟩

/-- The items of a list that may be left out were read, if there are any. -/
theorem Codec.mayGiveAt_of_mem {α : Type} {codec : Codec α} {items : List α}
    (hitems : (list codec).MayGiveAt (depth + 1) items ∨ some [] = some items) :
    ∀ item ∈ items, codec.MayGiveAt depth item := by
  rcases hitems with hitems | hnone
  · obtain ⟨below, hbelow, hall⟩ := mayGiveAt_of_list hitems
    cases hbelow
    exact hall
  · rw [← Option.some.inj hnone]
    exact List.forall_mem_nil _

theorem BundledField.isPortable_validation {field : BundledField}
    (hgives : codec.MayGiveAt (depth + 1) field) :
    ∀ json ∈ field.validation, json.IsPortable depth ∧ json.IsSolid := by
  obtain ⟨-, -, -, -, -, -, hvalidation, -⟩ := Codec.from_record isExact hgives
  intro json hjson
  change Codec.free.optional.MayGiveAt depth field.validation ∨ some none = some field.validation
    at hvalidation
  rw [Option.mem_def.mp hjson] at hvalidation
  rcases hvalidation with hvalidation | hnone
  · obtain ⟨input, rest, -, hread⟩ := Codec.optional_eq_some hvalidation
    exact ⟨Codec.isPortable_of_free (Or.inl ⟨_, _, hread⟩),
      (Codec.fits_of_optional_free hvalidation).2⟩
  · cases hnone

theorem BundledType.isPortable_validation {type : BundledType}
    (hgives : codec.MayGiveAt (depth + 3) type) :
    ∀ field ∈ type.members, ∀ json ∈ field.validation, json.IsPortable depth ∧ json.IsSolid := by
  obtain ⟨-, -, -, -, -, hmembers, -⟩ := Codec.from_record isExact hgives
  exact fun field hfield =>
    BundledField.isPortable_validation (Codec.mayGiveAt_of_mem hmembers field hfield)

/-- A config was read, or it is an empty object. -/
theorem Json.isPortable_config {config : Json}
    (hconfig : Codec.free.MayGiveAt (depth + 1) config ∨ some emptyObject = some config) :
    config.IsPortable (depth + 1) := by
  rcases hconfig with hconfig | hnone
  · exact Codec.isPortable_of_free hconfig
  · exact Option.some.inj hnone ▸ isPortable_emptyObject

theorem BundledView.isPortable_config {view : BundledView}
    (hgives : codec.MayGiveAt (depth + 2) view) : view.config.IsPortable (depth + 1) := by
  obtain ⟨-, -, hconfig, -⟩ := Codec.from_record isExact hgives
  exact Json.isPortable_config hconfig

theorem BundledMap.isPortable_config {map : BundledMap} (hgives : codec.MayGiveAt (depth + 2) map) :
    map.config.IsPortable (depth + 1) := by
  obtain ⟨-, -, hconfig, -⟩ := Codec.from_record isExact hgives
  exact Json.isPortable_config hconfig

theorem BundledProfile.isNumber_threshold {profile : BundledProfile}
    (hgives : codec.MayGiveAt (depth + 1) profile) : profile.threshold.isNumber = true := by
  obtain ⟨-, -, hthreshold, -⟩ := Codec.from_record isExact hgives
  rcases hthreshold with hthreshold | hnone
  · exact Codec.isNumber_of_double hthreshold
  · have hhalf : Double.half = profile.threshold := Option.some.inj hnone
    rw [← hhalf]
    decide

namespace Bundle

variable {bundle : Bundle}

theorem isPortable_of_mayGiveAt (hgives : codec.MayGiveAt (depth + 5) bundle) :
    bundle.IsPortable depth := by
  obtain ⟨htypes, -, hviews, hmaps, hprofile, -⟩ := Codec.from_record isExact hgives
  refine ⟨Bundle.gives bundle hgives.mayGive, fun type htype => ?_, fun view hview => ?_,
    fun map hmap => ?_, fun profile hmem => ?_⟩
  · exact BundledType.isPortable_validation (Codec.mayGiveAt_of_mem htypes type htype)
  · exact BundledView.isPortable_config (Codec.mayGiveAt_of_mem hviews view hview)
  · exact BundledMap.isPortable_config (Codec.mayGiveAt_of_mem hmaps map hmap)
  · change (Codec.optional BundledProfile.codec).MayGiveAt (depth + 4) bundle.profile ∨
      some none = some bundle.profile at hprofile
    rw [Option.mem_def.mp hmem] at hprofile
    rcases hprofile with hprofile | hnone
    · obtain ⟨input, rest, -, hread⟩ := Codec.optional_eq_some hprofile
      exact BundledProfile.isNumber_threshold (Or.inl ⟨_, _, hread⟩)
    · cases hnone

theorem isPortable_of_parse {text : String} (hparse : codec.parse text = .ok bundle) :
    bundle.IsPortable validationDepth :=
  isPortable_of_mayGiveAt (Codec.mayGiveAt_of_parse hparse)

/-- A bundle stands for definitions that an artifact can hold as the bundle does. -/
theorem IsPortable.definitions (hportable : bundle.IsPortable depth) (ids : Ids)
    (versionId : String) : (bundle.definitions ids versionId).IsPortable depth := by
  simp only [DefinitionSet.IsPortable, DefinitionSet.definitions, List.forall_mem_append,
    List.forall_mem_map]
  refine ⟨⟨⟨⟨⟨⟨⟨⟨?types, ?fields⟩, ?relationships⟩, ?attributes⟩, ?views⟩, ?maps⟩, ?profile⟩,
    ?mappings⟩, ?entries⟩
  case types =>
    intro type htype
    obtain ⟨placed, hplaced, rfl⟩ := List.mem_map.mp htype
    exact (hportable.normal.entityTypes _ (mem_of_mem_withOffsets hplaced)).kind
  case fields =>
    intro field hfield
    obtain ⟨placed, hplaced, hfield⟩ := List.mem_flatMap.mp hfield
    obtain ⟨child, hchild, rfl⟩ := List.mem_map.mp hfield
    have htype := mem_of_mem_withOffsets hplaced
    have hmember := List.fst_mem_of_mem_zipIdx hchild
    have hvalidation := hportable.validations _ htype _ hmember
    exact ⟨(hportable.normal.entityTypes _ htype).dataTypes _ hmember,
      fun json hjson => (hvalidation json hjson).1, fun json hjson => (hvalidation json hjson).2⟩
  case relationships =>
    intro relationship hrelationship
    obtain ⟨placed, hplaced, rfl⟩ := List.mem_map.mp hrelationship
    have hends := hportable.normal.relationships _ (mem_of_mem_withOffsets hplaced)
    exact ⟨hends.source, hends.target⟩
  case attributes =>
    intro attr hattr
    obtain ⟨placed, hplaced, hattr⟩ := List.mem_flatMap.mp hattr
    obtain ⟨child, hchild, rfl⟩ := List.mem_map.mp hattr
    exact (hportable.normal.relationships _ (mem_of_mem_withOffsets hplaced)).dataTypes _
      (List.fst_mem_of_mem_zipIdx hchild)
  case views =>
    intro view hview
    obtain ⟨child, hchild, rfl⟩ := List.mem_map.mp hview
    have hbundled := List.fst_mem_of_mem_zipIdx hchild
    exact ⟨hportable.normal.views _ hbundled, hportable.views _ hbundled⟩
  case maps =>
    intro map hmap
    obtain ⟨child, hchild, rfl⟩ := List.mem_map.mp hmap
    have hbundled := List.fst_mem_of_mem_zipIdx hchild
    exact ⟨hportable.normal.maps _ hbundled, hportable.maps _ hbundled⟩
  case profile =>
    intro definition hdefinition
    obtain ⟨profile, hprofile, rfl⟩ := Option.map_eq_some_iff.mp (Option.mem_toList.mp hdefinition)
    exact ⟨Double.isFinite_clampUnit (hportable.threshold profile hprofile)⟩
  case mappings =>
    intro mapping hmapping
    obtain ⟨profile, hprofile, hmapping⟩ := List.mem_flatMap.mp hmapping
    obtain ⟨child, hchild, rfl⟩ := List.mem_map.mp hmapping
    exact hportable.normal.profile _ (Option.mem_toList.mp hprofile) _
      (List.fst_mem_of_mem_zipIdx hchild)
  case entries => exact fun _ _ => trivial

/-- The threshold of a profile is a number in what a bundle that was read stands for. -/
theorem isNumber_definitions {text : String} (hparse : codec.parse text = .ok bundle) (ids : Ids)
    (versionId : String) :
    ∀ profile ∈ (bundle.definitions ids versionId).profile, profile.threshold.isNumber = true := by
  intro profile hprofile
  have hmem : .profile profile ∈ (bundle.definitions ids versionId).definitions := by
    simp [DefinitionSet.definitions, Option.mem_def.mp hprofile]
  have hportable : profile.IsPortable :=
    (isPortable_of_parse hparse).definitions ids versionId _ hmem
  exact Double.isNumber_of_isFinite hportable.threshold

end Bundle

/-! ### Content -/

/-- Content whose definitions are portable. -/
structure Content.IsPortable (depth : Nat) (content : Content) : Prop where
  kinds : ∀ item ∈ content.entityTypes, item.1.kind.IsNormal
  fields : ∀ item ∈ content.entityTypes, ∀ field ∈ item.2, field.IsPortable depth
  sources : ∀ item ∈ content.relationships, item.1.source.IsNormal
  targets : ∀ item ∈ content.relationships, item.1.target.IsNormal
  dataTypes : ∀ item ∈ content.relationships, ∀ attr ∈ item.2, attr.dataType.IsNormal
  views : ∀ view ∈ content.viewTemplates, view.IsPortable (depth + 2)
  maps : ∀ map ∈ content.mapsOfContent, map.IsPortable (depth + 2)
  profile : ∀ profile ∈ content.profile, profile.definition.IsPortable
  mappings : ∀ profile ∈ content.profile, ∀ mapping ∈ profile.labelMappings, mapping.kind.IsNormal

/-- A copy stands under other ids and is otherwise the same. -/
theorem Content.IsPortable.copy {content : Content} (hportable : content.IsPortable depth) (ids : Ids)
    (versionId : String) : (content.copy ids versionId).IsPortable depth := by
  simp only [DefinitionSet.IsPortable, DefinitionSet.definitions, List.forall_mem_append,
    List.forall_mem_map]
  refine ⟨⟨⟨⟨⟨⟨⟨⟨?types, ?fields⟩, ?relationships⟩, ?attributes⟩, ?views⟩, ?maps⟩, ?profile⟩,
    ?mappings⟩, ?entries⟩
  case types =>
    intro type htype
    obtain ⟨placed, hplaced, rfl⟩ := List.mem_map.mp htype
    exact hportable.kinds _ (mem_of_mem_withOffsets hplaced)
  case fields =>
    intro field hfield
    obtain ⟨placed, hplaced, hfield⟩ := List.mem_flatMap.mp hfield
    obtain ⟨child, hchild, rfl⟩ := List.mem_map.mp hfield
    have horiginal := hportable.fields _ (mem_of_mem_withOffsets hplaced) _
      (List.fst_mem_of_mem_zipIdx hchild)
    exact ⟨horiginal.dataType, horiginal.validation, horiginal.solid⟩
  case relationships =>
    intro relationship hrelationship
    obtain ⟨placed, hplaced, rfl⟩ := List.mem_map.mp hrelationship
    have horiginal := mem_of_mem_withOffsets hplaced
    exact ⟨hportable.sources _ horiginal, hportable.targets _ horiginal⟩
  case attributes =>
    intro attr hattr
    obtain ⟨placed, hplaced, hattr⟩ := List.mem_flatMap.mp hattr
    obtain ⟨child, hchild, rfl⟩ := List.mem_map.mp hattr
    have horiginal := hportable.dataTypes _ (mem_of_mem_withOffsets hplaced) _
      (List.fst_mem_of_mem_zipIdx hchild)
    exact horiginal
  case views =>
    intro view hview
    obtain ⟨child, hchild, rfl⟩ := List.mem_map.mp hview
    have horiginal := hportable.views _ (List.fst_mem_of_mem_zipIdx hchild)
    exact ⟨horiginal.kind, horiginal.config⟩
  case maps =>
    intro map hmap
    obtain ⟨child, hchild, rfl⟩ := List.mem_map.mp hmap
    have horiginal := hportable.maps _ (List.fst_mem_of_mem_zipIdx hchild)
    exact ⟨horiginal.kinds, horiginal.config⟩
  case profile =>
    intro definition hdefinition
    obtain ⟨profile, hprofile, rfl⟩ := Option.map_eq_some_iff.mp (Option.mem_toList.mp hdefinition)
    exact ⟨(hportable.profile profile hprofile).threshold⟩
  case mappings =>
    intro mapping hmapping
    obtain ⟨profile, hprofile, hmapping⟩ := List.mem_flatMap.mp hmapping
    obtain ⟨child, hchild, rfl⟩ := List.mem_map.mp hmapping
    have horiginal := hportable.mappings _ (Option.mem_toList.mp hprofile) _
      (List.fst_mem_of_mem_zipIdx hchild)
    exact horiginal
  case entries => exact fun _ _ => trivial

end KnowledgeSchema
