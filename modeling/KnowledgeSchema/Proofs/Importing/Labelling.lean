import Mathlib.Data.List.Duplicate
import KnowledgeSchema.Proofs.Importing.Resolved
import KnowledgeSchema.Proofs.Number.Clamping

/-!
# A bundle is resolved by labelling it

The definitions of a bundle are its items, in their order and saying what they say, each under an id
of its own. Where an item is nested under another, or names the kind of another, its definition has
the id of the definition of that item. A bundle is refused only when its kinds do not lead to ids.
-/

namespace KnowledgeSchema

/-! ### What is nested -/

section Nested

variable {π ι κ δ γ : Type}

/-- What is nested under items, in order: the definition of the item that it is nested under, itself,
and its place there. -/
def nestedIn (children : ι → List κ) (items : List ι) (definitions : List δ) :
    List (δ × κ × Nat) :=
  (items.zip definitions).flatMap fun (item, definition) =>
    (children item).zipIdx.map (definition, ·)

theorem nestedIn_map {children : ι → List κ} {item : π → ι} {placed : List π}
    {definitions : List δ} :
    nestedIn children (placed.map item) definitions =
      nestedIn (fun each => children (item each)) placed definitions := by
  rw [nestedIn, nestedIn, List.zip_map_left, List.flatMap_map]
  rfl

/-- What is made of nested items, item by item, is made under the definitions of the items. -/
theorem forall₂_nestedIn {children : ι → List κ} {definition : ι → δ}
    {nested : ι → κ × Nat → γ} {R : δ × κ × Nat → γ → Prop} {items : List ι}
    (hnested : ∀ item ∈ items, ∀ child ∈ (children item).zipIdx,
      R (definition item, child) (nested item child)) :
    List.Forall₂ R (nestedIn children items (items.map definition))
      (items.flatMap fun item => (children item).zipIdx.map (nested item)) := by
  induction items with
  | nil => exact .nil
  | cons item rest ih =>
    rw [nestedIn, List.map_cons, List.zip_cons_cons, List.flatMap_cons, List.flatMap_cons]
    refine List.rel_append ?_ (ih fun other hother => hnested other (List.mem_cons_of_mem _ hother))
    rw [List.forall₂_map_left_iff, List.forall₂_map_right_iff, List.forall₂_same]
    exact hnested item List.mem_cons_self

theorem forall₂_zipIdx {definition : ι × Nat → δ} {R : ι → δ → Prop} {items : List ι}
    (hitems : ∀ item ∈ items.zipIdx, R item.1 (definition item)) :
    List.Forall₂ R items (items.zipIdx.map definition) := by
  have hlabels : List.Forall₂ R (items.zipIdx.map Prod.fst) (items.zipIdx.map definition) := by
    rw [List.forall₂_map_left_iff, List.forall₂_map_right_iff, List.forall₂_same]
    exact hitems
  rwa [List.zipIdx_map_fst] at hlabels

end Nested

/-! ### Labelled items

A definition is given by what its item says and by ids alone. -/

def BundledType.IsLabelledAs (item : BundledType) (versionId : String) (type : EntityType) : Prop :=
  type =
    { id := type.id
      versionId := versionId
      kind := item.kind
      displayName := item.displayName.getD item.kind.text
      description := item.description
      parentId := type.parentId
      isAbstract := item.isAbstract }

def BundledField.IsLabelledAs (item : BundledField) (entityTypeId : String) (place : Nat)
    (field : Field) : Prop :=
  field =
    { id := field.id
      entityTypeId := entityTypeId
      name := item.name
      label := item.label.getD item.name
      dataType := item.dataType
      isRequired := item.isRequired
      order := item.order.getD (Int64.ofNat place)
      default := item.default
      validation := item.validation }

def BundledRelationship.IsLabelledAs (item : BundledRelationship) (versionId : String)
    (type : RelationshipType) : Prop :=
  type =
    { id := type.id
      versionId := versionId
      name := item.name
      label := item.label.getD item.name
      source := item.source
      target := item.target
      direction := item.direction
      cardinality := item.cardinality
      reverseLabel := item.reverseLabel }

def BundledAttribute.IsLabelledAs (item : BundledAttribute) (relationshipTypeId : String)
    (attr : RelationshipAttribute) : Prop :=
  attr =
    { id := attr.id
      relationshipTypeId := relationshipTypeId
      name := item.name
      dataType := item.dataType
      isRequired := item.isRequired }

def BundledView.IsLabelledAs (item : BundledView) (versionId : String) (view : ViewTemplate) : Prop :=
  view =
    { id := view.id, versionId := versionId, name := item.name, kind := item.kind,
      config := item.config }

def BundledMap.IsLabelledAs (item : BundledMap) (versionId : String) (map : MapOfContent) : Prop :=
  map =
    { id := map.id, versionId := versionId, name := item.name, kinds := item.kinds,
      config := item.config }

/-- The threshold is moved into the unit interval. -/
def BundledProfile.IsLabelledAs (item : BundledProfile) (versionId : String)
    (profile : ExtractionProfile) : Prop :=
  profile =
      { id := profile.id, versionId := versionId, name := item.name, enabled := item.enabled,
        threshold := profile.threshold } ∧
    profile.threshold.IsClampOf item.threshold

def BundledMapping.IsLabelledAs (item : BundledMapping) (profileId : String)
    (mapping : LabelMapping) : Prop :=
  mapping =
    { id := mapping.id, profileId := profileId, label := item.label, kind := item.kind,
      priority := item.priority }

def BundledTerm.IsLabelledAs (item : BundledTerm) (profileId : String) (entry : IgnoreEntry) : Prop :=
  entry =
    { id := entry.id, profileId := profileId, term := item.term,
      caseSensitive := item.caseSensitive }

/-- An id stands for a kind when it is that of the one type with that kind. -/
def DefinitionSet.Links (set : DefinitionSet) : Option EntityKind → Option String → Prop
  | none, id => id = none
  | some kind, id =>
    ∃ linked ∈ set.entityTypes, id = some linked.id ∧
      ∀ type ∈ set.entityTypes, type.kind = kind ↔ type = linked

namespace Bundle

/-- A set is a bundle under ids: its definitions are the items of the bundle, in order. -/
structure IsLabelledAs (bundle : Bundle) (versionId : String) (set : DefinitionSet) : Prop where
  ids : (set.definitions.map (·.key.1)).Nodup
  entityTypes : List.Forall₂ (fun item type =>
      item.IsLabelledAs versionId type ∧ set.Links item.parent type.parentId)
    bundle.entityTypes set.entityTypes
  fields : List.Forall₂ (fun (type, item, place) field => item.IsLabelledAs type.id place field)
    (nestedIn (·.members) bundle.entityTypes set.entityTypes) set.fields
  relationshipTypes : List.Forall₂ (·.IsLabelledAs versionId ·)
    bundle.relationships set.relationshipTypes
  attributes : List.Forall₂ (fun (type, item, _) attr => item.IsLabelledAs type.id attr)
    (nestedIn (·.attributes) bundle.relationships set.relationshipTypes) set.attributes
  viewTemplates : List.Forall₂ (·.IsLabelledAs versionId ·) bundle.views set.viewTemplates
  mapsOfContent : List.Forall₂ (·.IsLabelledAs versionId ·) bundle.maps set.mapsOfContent
  profile : List.Forall₂ (·.IsLabelledAs versionId ·) bundle.profile.toList set.profile.toList
  labelMappings : List.Forall₂ (fun (profile, item, _) mapping =>
      item.IsLabelledAs profile.id mapping)
    (nestedIn (·.mappings) bundle.profile.toList set.profile.toList) set.labelMappings
  ignoreEntries : List.Forall₂ (fun (profile, item, _) entry => item.IsLabelledAs profile.id entry)
    (nestedIn (·.ignored) bundle.profile.toList set.profile.toList) set.ignoreEntries

/-- What is wrong with a bundle that is refused. Parents count only when the kinds are distinct. -/
inductive Blames (bundle : Bundle) : Failure → Prop
  | repeated {kind : EntityKind} (hrepeated : List.Duplicate kind bundle.kinds) :
    Blames bundle (.invalidInput (.repeatedKind kind.text))
  | unknown {type : BundledType} {parent : EntityKind} (hkinds : bundle.kinds.Nodup)
    (htype : type ∈ bundle.entityTypes) (hparent : parent ∈ type.parent)
    (hunknown : parent ∉ bundle.kinds) :
    Blames bundle (.invalidInput (.unknownParent type.kind.text parent.text))

theorem Blames.exists_fault {bundle : Bundle} {failure : Failure} (hblames : bundle.Blames failure) :
    ∃ fault, failure = .invalidInput fault := by
  cases hblames with
  | repeated => exact ⟨_, rfl⟩
  | unknown => exact ⟨_, rfl⟩

variable {bundle : Bundle} {ids : Ids} {versionId : String}

/-! ### Refused bundles -/

theorem repeatedKind?_eq_some {seen kinds : List EntityKind} {kind : EntityKind}
    (hfound : repeatedKind? seen kinds = some kind) :
    kind ∈ seen ∧ kind ∈ kinds ∨ List.Duplicate kind kinds := by
  induction kinds generalizing seen with
  | nil => cases hfound
  | cons first rest ih =>
    rw [repeatedKind?] at hfound
    split_ifs at hfound with hseen
    · cases hfound
      exact Or.inl ⟨hseen, List.mem_cons_self⟩
    · rcases ih hfound with ⟨hmem, hrest⟩ | hrepeated
      · rcases List.mem_cons.mp hmem with rfl | hmem
        · exact Or.inr (.cons_mem hrest)
        · exact Or.inl ⟨hmem, List.mem_cons_of_mem _ hrest⟩
      · exact Or.inr (.cons_duplicate hrepeated)

theorem unknownParent?_eq_some {kind parent : EntityKind}
    (hfound : bundle.unknownParent? = some (kind, parent)) :
    ∃ type ∈ bundle.entityTypes, type.kind = kind ∧ parent ∈ type.parent ∧
      parent ∉ bundle.kinds := by
  obtain ⟨type, htype, hfound⟩ := List.exists_of_findSome?_eq_some hfound
  obtain ⟨named, hnamed, hpair⟩ := Option.map_eq_some_iff.mp hfound
  obtain ⟨hnamed, hunknown⟩ := Option.filter_eq_some_iff.mp hnamed
  cases hpair
  exact ⟨type, htype, rfl, hnamed, by simpa using hunknown⟩

theorem blames_of_check {failure : Failure} (herror : bundle.check = .error failure) :
    bundle.Blames failure := by
  rw [check] at herror
  split at herror
  next kind hrepeated =>
    cases herror
    rcases repeatedKind?_eq_some hrepeated with ⟨hmem, -⟩ | hrepeated
    · cases hmem
    · exact .repeated hrepeated
  next hnone =>
    split at herror
    next kind parent hunknown =>
      cases herror
      obtain ⟨type, htype, rfl, hparent, hunknown⟩ := unknownParent?_eq_some hunknown
      exact .unknown (repeatedKind?_eq_none.mp hnone).2 htype hparent hunknown
    next => cases herror

theorem resolve_eq_error {failure : Failure} :
    bundle.resolve ids versionId = .error failure ↔ bundle.check = .error failure := by
  rw [resolve]
  cases bundle.check with
  | ok _ => constructor <;> (intro herror; cases herror)
  | error _ => constructor <;> (intro herror; cases herror; rfl)

/-! ### Labels of a resolved bundle -/

theorem map_placedTypes (bundle : Bundle) : bundle.placedTypes.map (·.2) = bundle.entityTypes :=
  (map_withOffsets_congr fun _ _ => rfl).trans (List.map_id _)

theorem map_placedRelationships (bundle : Bundle) :
    bundle.placedRelationships.map (·.2) = bundle.relationships :=
  (map_withOffsets_congr fun _ _ => rfl).trans (List.map_id _)

theorem links_definitions (hkinds : bundle.kinds.Nodup) {named : Option EntityKind}
    (hnamed : ∀ kind ∈ named, kind ∈ bundle.kinds) :
    (bundle.definitions ids versionId).Links named (named.bind (bundle.idOfKind? ids)) := by
  cases named with
  | none => rfl
  | some kind =>
    obtain ⟨item, hitem, rfl⟩ := List.mem_map.mp (hnamed kind rfl)
    obtain ⟨position, hplaced⟩ := exists_placed hitem
    refine ⟨_, List.mem_map_of_mem hplaced, idOfKind?_of_placed hkinds hplaced, ?_⟩
    intro type htype
    obtain ⟨other, hother, rfl⟩ := List.mem_map.mp htype
    have hnodup : (bundle.placedTypes.map (·.2.kind)).Nodup := by
      rw [placedTypes, map_withOffsets_congr fun _ _ => rfl]
      exact hkinds
    constructor
    · intro hkind
      rw [List.inj_on_of_nodup_map hnodup hother hplaced hkind]
    · intro hsame
      exact congrArg EntityType.kind hsame

theorem isLabelledAs_definitions (hids : Function.Injective ids) (hkinds : bundle.kinds.Nodup)
    (hparents : ∀ type ∈ bundle.entityTypes, ∀ parent ∈ type.parent, parent ∈ bundle.kinds) :
    bundle.IsLabelledAs versionId (bundle.definitions ids versionId) where
  ids := bundle.nodup_definitions hids versionId
  entityTypes := by
    rw [← map_placedTypes, definitions, resolvedTypes, List.forall₂_map_left_iff,
      List.forall₂_map_right_iff, List.forall₂_same]
    intro placed hplaced
    exact ⟨rfl, links_definitions hkinds (hparents _ (mem_of_mem_withOffsets hplaced))⟩
  fields := by
    rw [← map_placedTypes, nestedIn_map]
    exact forall₂_nestedIn fun _ _ _ _ => rfl
  relationshipTypes := by
    rw [← map_placedRelationships, definitions, resolvedRelationships, List.forall₂_map_left_iff,
      List.forall₂_map_right_iff, List.forall₂_same]
    exact fun _ _ => rfl
  attributes := by
    rw [← map_placedRelationships, nestedIn_map]
    exact forall₂_nestedIn fun _ _ _ _ => rfl
  viewTemplates := forall₂_zipIdx fun _ _ => rfl
  mapsOfContent := forall₂_zipIdx fun _ _ => rfl
  profile := by
    rw [definitions, Option.toList_map, List.forall₂_map_right_iff, List.forall₂_same]
    exact fun profile _ => ⟨rfl, profile.threshold.isClampOf_clampUnit⟩
  labelMappings := by
    rw [definitions, Option.toList_map]
    exact forall₂_nestedIn fun _ _ _ _ => rfl
  ignoreEntries := by
    rw [definitions, Option.toList_map]
    exact forall₂_nestedIn fun _ _ _ _ => rfl

/-- Resolving fails exactly when two types have one kind or a parent kind is that of no type, and
then says so. Otherwise it labels the bundle. -/
theorem resolve_labels (bundle : Bundle) (hids : Function.Injective ids) (versionId : String) :
    ((∃ fault, bundle.resolve ids versionId = .error (.invalidInput fault)) ↔
      ¬bundle.kinds.Nodup ∨
        ∃ type ∈ bundle.entityTypes, ∃ parent ∈ type.parent, parent ∉ bundle.kinds) ∧
    (∀ failure, bundle.resolve ids versionId = .error failure → bundle.Blames failure) ∧
    ((∀ fault, bundle.resolve ids versionId ≠ .error (.invalidInput fault)) →
      ∃ set, bundle.resolve ids versionId = .ok set ∧ bundle.IsLabelledAs versionId set) := by
  have hblames : ∀ failure, bundle.resolve ids versionId = .error failure → bundle.Blames failure :=
    fun failure herror => blames_of_check (resolve_eq_error.mp herror)
  have hrefused : bundle.check ≠ .ok () →
      ∃ fault, bundle.resolve ids versionId = .error (.invalidInput fault) := by
    intro hcheck
    cases hfailed : bundle.check with
    | ok _ => exact absurd hfailed hcheck
    | error failure =>
      have herror := (@resolve_eq_error bundle ids versionId _).mpr hfailed
      obtain ⟨fault, rfl⟩ := (hblames _ herror).exists_fault
      exact ⟨fault, herror⟩
  refine ⟨⟨?_, fun hwrong => hrefused fun hcheck => ?_⟩, hblames, fun hkept => ?_⟩
  · rintro ⟨fault, herror⟩
    cases hblames _ herror with
    | repeated hrepeated => exact Or.inl hrepeated.not_nodup
    | unknown _ htype hparent hunknown => exact Or.inr ⟨_, htype, _, hparent, hunknown⟩
  · obtain ⟨hkinds, hparents⟩ := check_eq_ok.mp hcheck
    rcases hwrong with hrepeated | ⟨type, htype, parent, hparent, hunknown⟩
    · exact hrepeated hkinds
    · exact hunknown (hparents type htype parent hparent)
  · have hcheck : bundle.check = .ok () := by
      by_contra hcheck
      obtain ⟨fault, herror⟩ := hrefused hcheck
      exact hkept fault herror
    obtain ⟨hkinds, hparents⟩ := check_eq_ok.mp hcheck
    exact ⟨_, resolve_eq_ok.mpr ⟨hcheck, rfl⟩, isLabelledAs_definitions hids hkinds hparents⟩

/-- Three types, of which the first has a parent that comes after it and the last is its own. -/
def kin : Bundle where
  entityTypes :=
    [⟨.character, none, none, some (.custom "HERO"), false, []⟩,
      ⟨.custom "HERO", none, none, none, true, []⟩,
      ⟨.location, none, none, some .location, false, [⟨"name", none, .text, true, none, none, none⟩]⟩]
  relationships := []
  views := []
  maps := []
  profile := none

theorem resolve_labels_kin :
    ∃ set, kin.resolve .tally "v" = .ok set ∧ kin.IsLabelledAs "v" set := by
  have hresolve : kin.resolve .tally "v" = .ok (kin.definitions .tally "v") :=
    resolve_eq_ok.mpr ⟨rfl, rfl⟩
  refine (resolve_labels kin Ids.tally_injective "v").2.2 fun fault herror => ?_
  rw [hresolve] at herror
  cases herror

end Bundle

end KnowledgeSchema
