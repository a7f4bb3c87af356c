import Mathlib.Data.Option.Basic
import KnowledgeSchema.Proofs.Forking.Hierarchy
import KnowledgeSchema.Proofs.Forking.Ties

/-!
# What a renamed version compiles to

A renamed version compiles to the artifact of the original under the new ids. Types that tie on
their kind, and other definitions that tie on their name, may have changed places: ids decide between
them.
-/

namespace KnowledgeSchema

/-! ### Types -/

def Outline.renamed (ρ : Renaming) (versionId : String) (outline : Outline) : Outline where
  definition := outline.definition.renamed ρ versionId
  fields := outline.fields.map (·.renamed ρ)
  lineage := outline.lineage.map (ρ .entityTypes)
  parent := outline.parent.map (ρ .entityTypes)
  children := outline.children.map (ρ .entityTypes)

section Types

variable {ρ : Renaming} {versionId : String} {types others : List EntityType} {type : EntityType}

theorem parentIn_renamed (hperm : others.Perm (types.map (·.renamed ρ versionId)))
    (hapart : ∀ parent ∈ types, ∀ parentId ∈ type.parentId,
      ρ .entityTypes parentId = ρ .entityTypes parent.id → parentId = parent.id)
    (htype : type ∈ types) :
    parentIn others (type.renamed ρ versionId) = (parentIn types type).map (ρ .entityTypes) := by
  rw [parentIn, parentIn, EntityType.renamed]
  cases hparentId : type.parentId with
  | none => rfl
  | some parentId =>
    have hsame : ∀ parent ∈ types,
        ρ .entityTypes parent.id = ρ .entityTypes parentId ↔ parent.id = parentId :=
      fun parent hparent =>
        ⟨fun heq => (hapart parent hparent parentId hparentId heq.symm).symm, congrArg _⟩
    have hself : (ρ .entityTypes parentId != ρ .entityTypes type.id) = (parentId != type.id) := by
      rw [Bool.eq_iff_iff, bne_iff_ne, bne_iff_ne, ne_comm, ne_eq, hsame type htype, ← ne_eq, ne_comm]
    have hany : others.any (·.id == ρ .entityTypes parentId) = types.any (·.id == parentId) := by
      rw [hperm.any_eq, List.any_map, Bool.eq_iff_iff, List.any_eq_true, List.any_eq_true]
      refine exists_congr fun parent => and_congr_right fun hparent => ?_
      rw [Function.comp_apply, beq_iff_eq, beq_iff_eq]
      exact hsame parent hparent
    rw [Option.map_some, Option.filter_some, Option.filter_some, hself, hany, apply_ite (Option.map _)]
    rfl

theorem childrenIn_renamed (hperm : others.Perm (types.map (·.renamed ρ versionId)))
    (hids : ∀ child ∈ types,
      ρ .entityTypes child.id = ρ .entityTypes type.id → child.id = type.id)
    (hparents : ∀ child ∈ types, ∀ parentId ∈ child.parentId,
      ρ .entityTypes parentId = ρ .entityTypes type.id → parentId = type.id) :
    childrenIn others (type.renamed ρ versionId) =
      (childrenIn types type).map (ρ .entityTypes) := by
  have hkept : ∀ child ∈ types,
      ((child.renamed ρ versionId).parentId == some (type.renamed ρ versionId).id &&
          (child.renamed ρ versionId).id != (type.renamed ρ versionId).id) =
        (child.parentId == some type.id && child.id != type.id) := by
    intro child hchild
    have hid : ρ .entityTypes child.id = ρ .entityTypes type.id ↔ child.id = type.id :=
      ⟨hids child hchild, congrArg _⟩
    have hparent : child.parentId.map (ρ .entityTypes) = some (ρ .entityTypes type.id) ↔
        child.parentId = some type.id := by
      constructor
      · intro hsame
        obtain ⟨parentId, hparentId, heq⟩ := Option.map_eq_some_iff.mp hsame
        rw [hparentId, hparents child hchild parentId hparentId heq]
      · intro hparentId
        rw [hparentId, Option.map_some]
    rw [Bool.eq_iff_iff, Bool.and_eq_true, Bool.and_eq_true, beq_iff_eq, beq_iff_eq, bne_iff_ne,
      bne_iff_ne]
    exact and_congr hparent (not_congr hid)
  rw [childrenIn, childrenIn, Multiset.map_coe, Multiset.coe_eq_coe]
  refine ((hperm.filter _).map _).trans ?_
  rw [List.filter_map, List.map_map, List.map_map]
  exact .of_eq (congrArg _ (List.filter_congr hkept))

end Types

/-! ### Warnings -/

def Warning.renamed (ρ : Renaming) : Warning → Warning
  | unknownEndpoint relationshipTypeId kind =>
    unknownEndpoint (ρ .relationshipTypes relationshipTypeId) kind
  | orphanedAttribute attributeId relationshipTypeId =>
    orphanedAttribute (ρ .attributes attributeId) (ρ .relationshipTypes relationshipTypeId)
  | warning => warning.relabeled (ρ .entityTypes)

theorem Hierarchy.renamed_of_alarm? {hierarchy : Hierarchy} {type : EntityType}
    (htype : type ∈ hierarchy.types) {warning : Warning}
    (halarm : hierarchy.alarm? type = some warning) (ρ : Renaming) :
    warning.renamed ρ = warning.relabeled (ρ .entityTypes) := by
  rcases alarm?_eq_some htype halarm with ⟨child, -, parentId, -, rfl⟩ | rfl | ⟨cycle, rfl⟩ <;> rfl

theorem eraseDups_perm_map {f : Warning → Warning} {warnings others : List Warning}
    (hperm : others.Perm (warnings.map f))
    (hinjective : ∀ first ∈ warnings, ∀ second ∈ warnings, f first = f second → first = second) :
    others.eraseDups.Perm (warnings.eraseDups.map f) := by
  have hnodup : (warnings.eraseDups.map f).Nodup := by
    refine List.Nodup.map_on (fun first hfirst second hsecond hsame => ?_) (nodup_eraseDups _)
    exact hinjective first (List.mem_eraseDups.mp hfirst) second (List.mem_eraseDups.mp hsecond) hsame
  refine (List.perm_ext_iff_of_nodup (nodup_eraseDups _) hnodup).mpr fun warning => ?_
  rw [List.mem_eraseDups, hperm.mem_iff, List.mem_map, List.mem_map]
  simp only [List.mem_eraseDups]

/-! ### Artifacts -/

section Mirrors

variable (ρ : Renaming) (versionId : String)

structure EffectiveRelationship.Mirrors (source target : EffectiveRelationship) : Prop where
  definition : target.definition = source.definition.renamed ρ versionId
  attributes : UpToTies (fun attr copy => copy = attr.renamed ρ) (·.name) source.attributes
    target.attributes

structure EffectiveProfile.Mirrors (source target : EffectiveProfile) : Prop where
  definition : target.definition = source.definition.renamed ρ versionId
  labelMappings : UpToTies (fun mapping copy => copy = mapping.renamed ρ)
    (fun mapping => (mapping.priority, mapping.label)) source.labelMappings target.labelMappings
  ignoreEntries : UpToTies (fun entry copy => copy = entry.renamed ρ) (·.term) source.ignoreEntries
    target.ignoreEntries

/-- An artifact is that of a renamed version: it says the same under the new ids, in the same order
but for what ties on its kind, its name or another key. -/
structure Artifact.Mirrors (source target : Artifact) : Prop where
  blueprint : target.blueprint = source.blueprint
  entityTypes : UpToTies (fun type copy => copy = type.renamed ρ versionId) (·.definition.kind.text)
    source.outlines target.outlines
  relationshipTypes : UpToTies (EffectiveRelationship.Mirrors ρ versionId) (·.definition.name)
    source.relationshipTypes target.relationshipTypes
  viewTemplates : UpToTies (fun view copy => copy = view.renamed ρ versionId) (·.name)
    source.viewTemplates target.viewTemplates
  mapsOfContent : UpToTies (fun map copy => copy = map.renamed ρ versionId) (·.name)
    source.mapsOfContent target.mapsOfContent
  profile : Option.Rel (EffectiveProfile.Mirrors ρ versionId) source.profile target.profile
  diagnostics : target.diagnostics.Perm (source.diagnostics.map (·.renamed ρ))

end Mirrors

/-! ### Compiling a renamed version -/

namespace DefinitionSet

variable {set : DefinitionSet} {versionId other : String} {ρ : Renaming} {blueprint : Blueprint}
  {version copy : Version} {maxDepth : UInt64}

theorem profile_mirrors (hset : set.IsOf versionId) :
    Option.Rel (EffectiveProfile.Mirrors ρ other) set.arranged.profile
      (set.renamed ρ other).arranged.profile := by
  rw [arranged, arranged, renamed]
  cases hprofile : set.profile with
  | none => exact .none
  | some profile =>
    refine .some ⟨rfl, ?mappings, ?entries⟩
    case mappings =>
      have hkept := @filter_renamed _ (·.profileId) (LabelMapping.renamed ρ) (ρ .profiles)
        set.labelMappings profile.id (fun _ => rfl)
        fun mapping hmapping _ => hset.profileId_of_mapping hprofile hmapping
      have htied := @Store.upToTies_byKeys _ _ (·.priority) _ _ _ _ _ _ _ (·.label) (·.id)
        (LabelMapping.renamed ρ) (fun _ => rfl) (fun _ => rfl)
        (set.labelMappings.filter (·.profileId == profile.id))
      rw [← hkept] at htied
      exact htied
    case entries =>
      have hkept := @filter_renamed _ (·.profileId) (IgnoreEntry.renamed ρ) (ρ .profiles)
        set.ignoreEntries profile.id (fun _ => rfl)
        fun entry hentry _ => hset.profileId_of_entry hprofile hentry
      have htied := @Store.upToTies_byKey _ _ (·.term) _ _ _ (·.id) (IgnoreEntry.renamed ρ)
        (fun _ => rfl) (set.ignoreEntries.filter (·.profileId == profile.id))
      rw [← hkept] at htied
      exact htied

theorem attributesIn_renamed (hset : set.IsOf versionId) (hseparates : ρ.Separates set)
    {relationship : RelationshipType} (hrelationship : relationship ∈ set.relationshipTypes) :
    UpToTies (fun attr copy => copy = attr.renamed ρ) (·.name) (set.attributesIn relationship.id)
      ((set.renamed ρ other).attributesIn (ρ .relationshipTypes relationship.id)) := by
  have hkept := @filter_renamed _ (·.relationshipTypeId) (RelationshipAttribute.renamed ρ)
    (ρ .relationshipTypes) set.attributes relationship.id (fun _ => rfl) fun attr hattr hsame => by
      obtain ⟨owner, howner, hid⟩ := hset.relationshipTypeId_mem hattr
      rw [hid] at hsame ⊢
      exact hseparates.relationshipTypes relationship hrelationship owner howner hsame
  have htied := @Store.upToTies_byKey _ _ (·.name) _ _ _ (·.id) (RelationshipAttribute.renamed ρ)
    (fun _ => rfl) (set.attributes.filter (·.relationshipTypeId == relationship.id))
  rw [← hkept] at htied
  exact htied

theorem relationshipTypes_mirror (hset : set.IsOf versionId) (hseparates : ρ.Separates set) :
    UpToTies (EffectiveRelationship.Mirrors ρ other) (·.definition.name)
      (set.arranged.assemble blueprint version maxDepth).relationshipTypes
      ((set.renamed ρ other).arranged.assemble blueprint copy maxDepth).relationshipTypes := by
  rw [relationshipTypes_arranged, relationshipTypes_arranged]
  have htied := @Store.upToTies_byKey _ _ (·.name) _ _ _ (·.id) (RelationshipType.renamed ρ other)
    (fun _ => rfl) set.relationshipTypes
  refine htied.map (fun _ => rfl) (fun _ => rfl) fun relationship hrelationship same _ hsame => ?_
  subst hsame
  exact ⟨rfl, attributesIn_renamed hset hseparates (Store.mem_ordered.mp hrelationship)⟩

section Assembled

variable (hset : set.IsOf versionId) (hrenamed : (set.renamed ρ other).IsOf other)
  (hseparates : ρ.Separates set)
  (hdecided : FieldsAreDecided Field.entityTypeId Field.name Field.order set.fields)
include hset hrenamed hseparates hdecided

theorem outline_renamed {type : EntityType} (htype : type ∈ set.entityTypes) :
    ((set.renamed ρ other).arranged.hierarchy maxDepth).outline (type.renamed ρ other) =
      ((set.arranged.hierarchy maxDepth).outline type).renamed ρ other := by
  have hrenames := @renames set versionId ρ other maxDepth hset hrenamed hseparates hdecided
  have heffective := hrenames.effective (mem_types_arranged.mpr htype) (hset.knows htype)
  have hparent := @parentIn_renamed ρ other _ _ type (set.types_renamed_perm ρ other)
    (fun parent hparent parentId hparentId => hseparates.parents parent
      (mem_types_arranged.mp hparent) type htype parentId hparentId) (mem_types_arranged.mpr htype)
  have hchildren := @childrenIn_renamed ρ other _ _ type (set.types_renamed_perm ρ other)
    (fun child hchild => hseparates.entityTypes type htype child (mem_types_arranged.mp hchild))
    (fun child hchild => hseparates.parents type htype child (mem_types_arranged.mp hchild))
  rw [Hierarchy.outline, Hierarchy.outline, Outline.renamed, Outline.mk.injEq]
  exact ⟨rfl, congrArg _ heffective, congrArg _ heffective, hparent, hchildren⟩

theorem outlines_mirror :
    UpToTies (fun type copy => copy = type.renamed ρ other) (·.definition.kind.text)
      (set.arranged.assemble blueprint version maxDepth).outlines
      ((set.renamed ρ other).arranged.assemble blueprint copy maxDepth).outlines := by
  rw [Content.outlines_assemble hset.nodup_types, Content.outlines_assemble hrenamed.nodup_types,
    types_arranged, types_arranged]
  have htied := @Store.upToTies_byKey _ _ (·.kind.text) _ _ _ (·.id) (EntityType.renamed ρ other)
    (fun _ => rfl) set.entityTypes
  refine htied.map (fun _ => rfl) (fun _ => rfl) fun type htype same _ hsame => ?_
  subst hsame
  exact outline_renamed hset hrenamed hseparates hdecided (Store.mem_ordered.mp htype)

theorem alarms_renamed :
    ((set.renamed ρ other).arranged.types.filterMap
        ((set.renamed ρ other).arranged.hierarchy maxDepth).alarm?).eraseDups.Perm
      ((set.arranged.types.filterMap (set.arranged.hierarchy maxDepth).alarm?).eraseDups.map
        (·.renamed ρ)) := by
  have hrenames := @renames set versionId ρ other maxDepth hset hrenamed hseparates hdecided
  have halarm : ∀ type ∈ set.arranged.types,
      ((set.renamed ρ other).arranged.hierarchy maxDepth).alarm? (type.renamed ρ other) =
        ((set.arranged.hierarchy maxDepth).alarm? type).map (·.renamed ρ) := by
    intro type htype
    rw [hrenames.alarm? htype]
    exact Option.map_congr fun warning hwarning =>
      (Hierarchy.renamed_of_alarm? htype hwarning ρ).symm
  have halarms : (set.arranged.types.map (·.renamed ρ other)).filterMap
      ((set.renamed ρ other).arranged.hierarchy maxDepth).alarm? =
        (set.arranged.types.filterMap (set.arranged.hierarchy maxDepth).alarm?).map
          (·.renamed ρ) := by
    rw [List.filterMap_map, List.map_filterMap]
    exact List.filterMap_congr halarm
  have hperm := (set.types_renamed_perm ρ other).filterMap
    ((set.renamed ρ other).arranged.hierarchy maxDepth).alarm?
  rw [halarms] at hperm
  refine eraseDups_perm_map hperm fun first hfirst second hsecond hsame => ?_
  obtain ⟨type, htype, hwarning⟩ := List.mem_filterMap.mp hfirst
  obtain ⟨child, hchild, hother⟩ := List.mem_filterMap.mp hsecond
  rw [Hierarchy.renamed_of_alarm? htype hwarning, Hierarchy.renamed_of_alarm? hchild hother] at hsame
  exact hrenames.relabeled_injective
    (fun each heach => hset.knows (mem_types_arranged.mp heach)) htype hchild hwarning hother hsame

theorem diagnostics_renamed :
    ((set.renamed ρ other).arranged.assemble blueprint copy maxDepth).diagnostics.Perm
      ((set.arranged.assemble blueprint version maxDepth).diagnostics.map (·.renamed ρ)) := by
  rw [Content.diagnostics_assemble hset.nodup_types,
    Content.diagnostics_assemble hrenamed.nodup_types, List.map_append,
    relationshipWarnings_arranged, relationshipWarnings_arranged]
  refine (alarms_renamed hset hrenamed hseparates hdecided).append ?_
  have hkinds : ∀ kind : EntityKind, ((set.renamed ρ other).arranged.types.map (·.kind)).contains kind =
      (set.arranged.types.map (·.kind)).contains kind := by
    intro kind
    have hperm := (set.types_renamed_perm ρ other).map (·.kind)
    rw [List.map_map] at hperm
    exact hperm.contains_eq
  have hperm : (set.renamed ρ other).orderedRelationshipTypes.Perm
      (set.orderedRelationshipTypes.map (·.renamed ρ other)) :=
    (Store.ordered_perm _ _).trans ((Store.ordered_perm _ _).symm.map _)
  refine (hperm.flatMap_right _).trans (.of_eq ?_)
  rw [List.flatMap_map, List.map_flatMap]
  refine List.flatMap_congr fun relationship _ => ?_
  simp only [hkinds, List.map_map]
  rfl

/-- A renamed version compiles to the renamed artifact. -/
theorem mirrors_assemble :
    Artifact.Mirrors ρ other (set.arranged.assemble blueprint version maxDepth)
      ((set.renamed ρ other).arranged.assemble blueprint copy maxDepth) where
  blueprint := rfl
  entityTypes := outlines_mirror hset hrenamed hseparates hdecided
  relationshipTypes := relationshipTypes_mirror hset hseparates
  viewTemplates := @Store.upToTies_byKey _ _ (·.name) _ _ _ (·.id) (ViewTemplate.renamed ρ other)
    (fun _ => rfl) set.viewTemplates
  mapsOfContent := @Store.upToTies_byKey _ _ (·.name) _ _ _ (·.id) (MapOfContent.renamed ρ other)
    (fun _ => rfl) set.mapsOfContent
  profile := profile_mirrors hset
  diagnostics := diagnostics_renamed hset hrenamed hseparates hdecided

end Assembled

/-! ### Twins -/

/-- A type with two fields of one name at one position. -/
def twins : DefinitionSet where
  entityTypes := [.new "t" "v" .event]
  fields := [{ Field.new "f" "t" "name" .text with label := "Name" },
    { Field.new "g" "t" "name" .text with label := "Title" }]

/-- New ids, those of the fields in the other order. -/
def crossed : Renaming := fun _ id =>
  if id = "t" then "u" else if id = "f" then "y" else if id = "g" then "x" else id

theorem fieldsIn_twins : twins.fieldsIn "t" = twins.fields := by
  apply List.mergeSort_of_pairwise
  decide

theorem fieldsIn_crossed :
    (twins.renamed crossed "w").fieldsIn "u" = (twins.renamed crossed "w").fields.reverse := by
  have hsorted : Store.ordered (compareLex (compareOn (·.order)) (Store.byKey (·.name) (·.id)))
      (twins.renamed crossed "w").fields.reverse = (twins.renamed crossed "w").fields.reverse := by
    apply List.mergeSort_of_pairwise
    decide
  rw [← hsorted]
  refine Store.ordered_congr (List.reverse_perm _).symm fun first hfirst second hsecond hsame => ?_
  -- the order goes by the ids in the end, and they are not the same
  have hid : first.id = second.id := by
    rw [compareLex_eq_eq] at hsame
    exact (Store.byKey_eq_eq hsame.2).2
  have hnodup : ((twins.renamed crossed "w").fields.map (·.id)).Nodup := by decide
  exact List.inj_on_of_nodup_map hnodup hfirst hsecond hid

theorem arranged_of_sole {type : EntityType} (htypes : set.entityTypes = [type])
    (hrelationships : set.relationshipTypes = []) (hviews : set.viewTemplates = [])
    (hmaps : set.mapsOfContent = []) (hprofile : set.profile = none) :
    set.arranged = ⟨[(type, set.fieldsIn type.id)], [], [], [], none⟩ := by
  simp [arranged, orderedTypes, orderedRelationshipTypes, Store.ordered, htypes, hrelationships,
    hviews, hmaps, hprofile]

theorem isOf_twins : twins.IsOf "v" where
  owned := by constructor <;> decide
  distinct table := by cases table <;> decide

theorem isOf_crossed : (twins.renamed crossed "w").IsOf "w" where
  owned := by constructor <;> decide
  distinct table := by cases table <;> decide

theorem separates_crossed : crossed.Separates twins := by
  constructor <;> decide

/-- The labels of the fields that each type of some content has. -/
def labels (content : Content) : List (List String) :=
  content.types.map fun type => ((content.hierarchy 10).effective type.id).fields.map (·.label)

theorem labels_outlines {content : Content} (hnodup : (content.types.map (·.id)).Nodup)
    (blueprint : Blueprint) (version : Version) :
    (content.assemble blueprint version 10).outlines.map (fun type => type.fields.map (·.label)) =
      labels content := by
  rw [Content.outlines_assemble hnodup, List.map_map]
  rfl

theorem labels_twins : labels twins.arranged = [["Title"]] := by
  have harranged : twins.arranged = ⟨[(.new "t" "v" .event, twins.fields)], [], [], [], none⟩ :=
    fieldsIn_twins ▸ arranged_of_sole rfl rfl rfl rfl rfl
  rw [harranged]
  decide +kernel

theorem labels_crossed : labels (twins.renamed crossed "w").arranged = [["Name"]] := by
  have harranged : (twins.renamed crossed "w").arranged =
      ⟨[(.new "u" "w" .event, (twins.renamed crossed "w").fields.reverse)], [], [], [], none⟩ :=
    fieldsIn_crossed ▸ arranged_of_sole rfl rfl rfl rfl rfl
  rw [harranged]
  decide +kernel

/-- Of two fields of one name at one position a renamed version may have the other one, so a renamed
version mirrors the original only where positions decide between the fields of a name. -/
theorem not_mirrors_assemble_twins :
    twins.IsOf "v" ∧ (twins.renamed crossed "w").IsOf "w" ∧ crossed.Separates twins ∧
      ∀ (blueprint : Blueprint) (version copy : Version),
        ¬Artifact.Mirrors crossed "w" (twins.arranged.assemble blueprint version 10)
          ((twins.renamed crossed "w").arranged.assemble blueprint copy 10) := by
  refine ⟨isOf_twins, isOf_crossed, separates_crossed, fun blueprint version copy hmirrors => ?_⟩
  have hlabels := hmirrors.entityTypes.perm_map (g := fun type => type.fields.map (·.label))
    fun type => List.map_map
  rw [labels_outlines isOf_crossed.nodup_types, labels_crossed,
    labels_outlines isOf_twins.nodup_types, labels_twins] at hlabels
  exact absurd (List.singleton_perm_singleton.mp hlabels) (by decide)

end DefinitionSet

end KnowledgeSchema
