import KnowledgeSchema.Proofs.Compiling.Outcome
import KnowledgeSchema.Proofs.Store.Extension

/-!
# Rows in their order

A store gives the rows of a version in an order that tells any two of them apart. So what is read for
a version depends on which rows it has and not on how they got there: it is its definitions, each
list in its order and each definition under its owner.
-/

namespace KnowledgeSchema

/-! ### Orders -/

namespace Store

open Std

instance {ρ κ : Type} [Ord κ] [TransOrd κ] {key : ρ → κ} {id : ρ → String} :
    TransCmp (byKey key id) :=
  inferInstanceAs (TransCmp (compareLex (compareOn key) (compareOn id)))

section Order

variable {ρ κ : Type} [Ord κ] [LawfulEqOrd κ] {key : ρ → κ} {id : ρ → String}
  {order : ρ → ρ → Ordering} {rows others : List ρ} {first second : ρ}

theorem isLE_total [TransCmp order] (first second : ρ) :
    ((order first second).isLE || (order second first).isLE) = true := by
  rw [@OrientedCmp.eq_swap _ order _ second first]
  cases order first second <;> rfl

theorem byKey_eq_eq (hsame : byKey key id first second = .eq) :
    key first = key second ∧ id first = id second := by
  rw [byKey, compareLex_eq_eq] at hsame
  exact ⟨LawfulEqCmp.eq_of_compare hsame.1, LawfulEqCmp.eq_of_compare hsame.2⟩

theorem pairwise_ordered [TransCmp order] (rows : List ρ) :
    (ordered order rows).Pairwise fun first second => (order first second).isLE = true :=
  List.pairwise_mergeSort (fun _ _ _ => TransCmp.isLE_trans) isLE_total rows

theorem ordered_perm (order : ρ → ρ → Ordering) (rows : List ρ) : (ordered order rows).Perm rows :=
  List.mergeSort_perm _ _

/-- An order that tells rows apart makes one list of them, however they stood before. -/
theorem ordered_congr [TransCmp order] (hperm : rows.Perm others)
    (happart : ∀ first ∈ rows, ∀ second ∈ rows, order first second = .eq → first = second) :
    ordered order rows = ordered order others := by
  have hordered : (ordered order rows).Perm (ordered order others) :=
    ((ordered_perm order rows).trans hperm).trans (ordered_perm order others).symm
  refine hordered.eq_of_pairwise (fun first second hfirst hsecond hle hge => ?_)
    (pairwise_ordered rows) (pairwise_ordered others)
  rw [mem_ordered] at hfirst hsecond
  exact happart first hfirst second (hperm.mem_iff.mpr hsecond) (OrientedCmp.isLE_antisymm hle hge)

theorem ordered_map {δ : Type} (toRow : δ → ρ) (order : ρ → ρ → Ordering) (items : List δ) :
    ordered order (items.map toRow) =
      (ordered (fun first second => order (toRow first) (toRow second)) items).map toRow := by
  rw [ordered, ordered, List.map_mergeSort]
  exact fun _ _ _ _ => rfl

end Order

end Store

/-! ### Definitions in their order -/

namespace DefinitionSet

open Store

def orderedTypes (set : DefinitionSet) : List EntityType :=
  ordered (byKey (·.kind.text) (·.id)) set.entityTypes

def fieldsIn (set : DefinitionSet) (entityTypeId : String) : List Field :=
  ordered (compareLex (compareOn (·.order)) (byKey (·.name) (·.id)))
    (set.fields.filter (·.entityTypeId == entityTypeId))

def orderedRelationshipTypes (set : DefinitionSet) : List RelationshipType :=
  ordered (byKey (·.name) (·.id)) set.relationshipTypes

def attributesIn (set : DefinitionSet) (relationshipTypeId : String) : List RelationshipAttribute :=
  ordered (byKey (·.name) (·.id)) (set.attributes.filter (·.relationshipTypeId == relationshipTypeId))

def mappingsIn (set : DefinitionSet) (profileId : String) : List LabelMapping :=
  ordered (compareLex (compareOn (·.priority)) (byKey (·.label) (·.id)))
    (set.labelMappings.filter (·.profileId == profileId))

def entriesIn (set : DefinitionSet) (profileId : String) : List IgnoreEntry :=
  ordered (byKey (·.term) (·.id)) (set.ignoreEntries.filter (·.profileId == profileId))

/-- The content that the definitions of a version are read as. -/
def arranged (set : DefinitionSet) : Content where
  entityTypes := set.orderedTypes.map fun type => (type, set.fieldsIn type.id)
  relationships := set.orderedRelationshipTypes.map fun relationship =>
    (relationship, set.attributesIn relationship.id)
  viewTemplates := ordered (byKey (·.name) (·.id)) set.viewTemplates
  mapsOfContent := ordered (byKey (·.name) (·.id)) set.mapsOfContent
  profile := set.profile.map fun profile =>
    { definition := profile, labelMappings := set.mappingsIn profile.id,
      ignoreEntries := set.entriesIn profile.id }

def IsReadable (set : DefinitionSet) : Prop :=
  ∀ definition ∈ set.definitions, definition.IsReadable

end DefinitionSet

namespace DefinitionRows

/-- The same rows, in each table in any order. -/
structure Perm (first second : DefinitionRows) : Prop where
  entityTypes : first.entityTypes.Perm second.entityTypes
  fields : first.fields.Perm second.fields
  relationshipTypes : first.relationshipTypes.Perm second.relationshipTypes
  attributes : first.attributes.Perm second.attributes
  viewTemplates : first.viewTemplates.Perm second.viewTemplates
  mapsOfContent : first.mapsOfContent.Perm second.mapsOfContent
  profiles : first.profiles.Perm second.profiles
  labelMappings : first.labelMappings.Perm second.labelMappings
  ignoreEntries : first.ignoreEntries.Perm second.ignoreEntries

/-- The ids of the rows in a table. -/
def idsIn (rows : DefinitionRows) (table : Table) : List String :=
  (rows.store.keysIn table).map (·.1)

@[refl]
theorem Perm.refl (rows : DefinitionRows) : rows.Perm rows := by
  constructor <;> rfl

theorem Perm.symm {first second : DefinitionRows} (hperm : first.Perm second) : second.Perm first :=
  ⟨hperm.entityTypes.symm, hperm.fields.symm, hperm.relationshipTypes.symm, hperm.attributes.symm,
    hperm.viewTemplates.symm, hperm.mapsOfContent.symm, hperm.profiles.symm,
    hperm.labelMappings.symm, hperm.ignoreEntries.symm⟩

theorem Perm.idsIn {first second : DefinitionRows} (hperm : first.Perm second) (table : Table) :
    (first.idsIn table).Perm (second.idsIn table) := by
  cases table with
  | blueprints | versions => exact .refl _
  | entityTypes => exact (hperm.entityTypes.map _).map _
  | fields => exact (hperm.fields.map _).map _
  | relationshipTypes => exact (hperm.relationshipTypes.map _).map _
  | attributes => exact (hperm.attributes.map _).map _
  | viewTemplates => exact (hperm.viewTemplates.map _).map _
  | mapsOfContent => exact (hperm.mapsOfContent.map _).map _
  | profiles => exact (hperm.profiles.map _).map _
  | labelMappings => exact (hperm.labelMappings.map _).map _
  | ignoreEntries => exact (hperm.ignoreEntries.map _).map _

theorem Perm.isOwned {first second : DefinitionRows} {versionId : String} (hperm : first.Perm second)
    (howned : second.IsOwned versionId) : first.IsOwned versionId where
  entityTypes row hrow := howned.entityTypes row (hperm.entityTypes.mem_iff.mp hrow)
  fields row hrow := (hperm.entityTypes.map _).mem_iff.mpr
    (howned.fields row (hperm.fields.mem_iff.mp hrow))
  relationshipTypes row hrow :=
    howned.relationshipTypes row (hperm.relationshipTypes.mem_iff.mp hrow)
  attributes row hrow := (hperm.relationshipTypes.map _).mem_iff.mpr
    (howned.attributes row (hperm.attributes.mem_iff.mp hrow))
  viewTemplates row hrow := howned.viewTemplates row (hperm.viewTemplates.mem_iff.mp hrow)
  mapsOfContent row hrow := howned.mapsOfContent row (hperm.mapsOfContent.mem_iff.mp hrow)
  profiles row hrow := howned.profiles row (hperm.profiles.mem_iff.mp hrow)
  labelMappings row hrow := (hperm.profiles.map _).mem_iff.mpr
    (howned.labelMappings row (hperm.labelMappings.mem_iff.mp hrow))
  ignoreEntries row hrow := (hperm.profiles.map _).mem_iff.mpr
    (howned.ignoreEntries row (hperm.ignoreEntries.mem_iff.mp hrow))

end DefinitionRows

/-- The tables in which definitions are kept, owners first. -/
def Table.ofDefinitions : List Table :=
  [entityTypes, fields, relationshipTypes, attributes, viewTemplates, mapsOfContent, profiles,
    labelMappings, ignoreEntries]

theorem DefinitionSet.ids_definitions (set : DefinitionSet) :
    set.definitions.map (·.key.1) = Table.ofDefinitions.flatMap set.rows.idsIn := by
  simp only [definitions, Table.ofDefinitions, List.flatMap_cons, List.flatMap_nil, List.map_append,
    List.map_map, List.append_assoc, List.append_nil, DefinitionRows.idsIn, Store.keysIn,
    DefinitionRows.store, rows]
  rfl

/-! ### Reading the rows of a version -/

namespace Store

variable {store : Store} {set : DefinitionSet} {versionId : String}

theorem injective_of_nodup {ρ : Type} {id owner : ρ → String} {rows : List ρ}
    (hnodup : ((rows.map fun row => (id row, owner row)).map (·.1)).Nodup) :
    ∀ first ∈ rows, ∀ second ∈ rows, id first = id second → first = second := by
  rw [List.map_map] at hnodup
  exact fun first hfirst second hsecond => List.inj_on_of_nodup_map hnodup hfirst hsecond

section Read

variable {δ ρ : Type} {toRow : δ → ρ} {id owner : ρ → String} {rows : List ρ} {items : List δ}
  {wanted : String}

/-- Rows under distinct ids stand in the order of the definitions that they are kept for. -/
theorem ordered_filter (order : ρ → ρ → Ordering) [Std.TransCmp order]
    (hnodup : ((rows.map fun row => (id row, owner row)).map (·.1)).Nodup)
    (hid : ∀ first second, order first second = .eq → id first = id second)
    (hperm : (rows.filter (owner · == wanted)).Perm (items.map toRow)) :
    ordered order (rows.filter (owner · == wanted)) =
      (ordered (fun first second => order (toRow first) (toRow second)) items).map toRow := by
  rw [← ordered_map]
  refine ordered_congr hperm fun first hfirst second hsecond hsame => ?_
  exact injective_of_nodup hnodup first (List.mem_of_mem_filter hfirst) second
    (List.mem_of_mem_filter hsecond) (hid first second hsame)

theorem map_ordered (order : ρ → ρ → Ordering) [Std.TransCmp order]
    (hnodup : ((rows.map fun row => (id row, owner row)).map (·.1)).Nodup)
    (hid : ∀ first second, order first second = .eq → id first = id second)
    (hperm : (rows.filter (owner · == wanted)).Perm (items.map toRow)) {read : ρ → δ}
    (hread : ∀ item ∈ items, read (toRow item) = item) :
    (ordered order (rows.filter (owner · == wanted))).map read =
      ordered (fun first second => order (toRow first) (toRow second)) items := by
  rw [ordered_filter order hnodup hid hperm, List.map_map]
  refine (List.map_congr_left fun item hitem => ?_).trans (List.map_id _)
  exact hread item (mem_ordered.mp hitem)

theorem mapM_ordered (order : ρ → ρ → Ordering) [Std.TransCmp order]
    (hnodup : ((rows.map fun row => (id row, owner row)).map (·.1)).Nodup)
    (hid : ∀ first second, order first second = .eq → id first = id second)
    (hperm : (rows.filter (owner · == wanted)).Perm (items.map toRow))
    {read : ρ → Except Failure δ} (hread : ∀ item ∈ items, read (toRow item) = .ok item) :
    (ordered order (rows.filter (owner · == wanted))).mapM read =
      .ok (ordered (fun first second => order (toRow first) (toRow second)) items) := by
  rw [ordered_filter order hnodup hid hperm, Outcome.mapM_eq_ok, List.forall₂_map_left_iff,
    List.forall₂_same]
  exact fun item hitem => hread item (mem_ordered.mp hitem)

theorem perm_filter_owned {owns : String → Bool} (howns : owns wanted = true)
    (hperm : (rows.filter (owns <| owner ·)).Perm (items.map toRow)) :
    (rows.filter (owner · == wanted)).Perm
      ((items.filter fun item => owner (toRow item) == wanted).map toRow) := by
  have hfiltered := hperm.filter (owner · == wanted)
  rwa [filter_owned howns, List.filter_map] at hfiltered

end Read

/-- The rows of a version are those of a set of definitions. -/
structure Holds (store : Store) (versionId : String) (set : DefinitionSet) : Prop where
  consistent : store.IsConsistent
  rows : (store.rowsOf versionId).Perm set.rows
  readable : set.IsReadable

namespace Holds

variable (hholds : store.Holds versionId set)
include hholds

theorem listEntityTypes : store.listEntityTypes versionId = set.orderedTypes :=
  map_ordered (byKey EntityTypeRow.kind EntityTypeRow.id) (hholds.consistent.distinct .entityTypes)
    (fun _ _ hsame => (byKey_eq_eq hsame).2) hholds.rows.entityTypes
    fun type htype => hholds.readable (.entityType type) (by simp [DefinitionSet.definitions, htype])

theorem listRelationshipTypes :
    store.listRelationshipTypes versionId = set.orderedRelationshipTypes :=
  map_ordered (byKey RelationshipTypeRow.name RelationshipTypeRow.id)
    (hholds.consistent.distinct .relationshipTypes) (fun _ _ hsame => (byKey_eq_eq hsame).2)
    hholds.rows.relationshipTypes fun type htype =>
      hholds.readable (.relationshipType type) (by simp [DefinitionSet.definitions, htype])

theorem listViewTemplates : store.listViewTemplates versionId =
    .ok (ordered (byKey (·.name) (·.id)) set.viewTemplates) :=
  mapM_ordered (byKey ViewTemplateRow.name ViewTemplateRow.id)
    (hholds.consistent.distinct .viewTemplates) (fun _ _ hsame => (byKey_eq_eq hsame).2)
    hholds.rows.viewTemplates fun view hview =>
      hholds.readable (.viewTemplate view) (by simp [DefinitionSet.definitions, hview])

theorem listMapsOfContent : store.listMapsOfContent versionId =
    .ok (ordered (byKey (·.name) (·.id)) set.mapsOfContent) :=
  mapM_ordered (byKey MapOfContentRow.name MapOfContentRow.id)
    (hholds.consistent.distinct .mapsOfContent) (fun _ _ hsame => (byKey_eq_eq hsame).2)
    hholds.rows.mapsOfContent fun map hmap =>
      hholds.readable (.mapOfContent map) (by simp [DefinitionSet.definitions, hmap])

theorem ownsEntityType {type : EntityType} (htype : type ∈ set.entityTypes) :
    store.ownsEntityType versionId type.id = true := by
  apply ownsEntityType_of_mem
  rw [hholds.listEntityTypes]
  exact mem_ordered.mpr htype

theorem ownsRelationshipType {type : RelationshipType} (htype : type ∈ set.relationshipTypes) :
    store.ownsRelationshipType versionId type.id = true := by
  apply ownsRelationshipType_of_mem
  rw [hholds.listRelationshipTypes]
  exact mem_ordered.mpr htype

theorem listFields {type : EntityType} (htype : type ∈ set.entityTypes) :
    store.listFields type.id = .ok (set.fieldsIn type.id) :=
  mapM_ordered (compareLex (compareOn FieldRow.order) (byKey FieldRow.name FieldRow.id))
    (hholds.consistent.distinct .fields)
    (fun _ _ hsame => (byKey_eq_eq (compareLex_eq_eq.mp hsame).2).2)
    (perm_filter_owned (hholds.ownsEntityType htype) hholds.rows.fields) fun field hfield =>
      hholds.readable (.field field)
        (by simp [DefinitionSet.definitions, List.mem_of_mem_filter hfield])

theorem listAttributes {type : RelationshipType} (htype : type ∈ set.relationshipTypes) :
    store.listAttributes type.id = set.attributesIn type.id :=
  map_ordered (byKey AttributeRow.name AttributeRow.id) (hholds.consistent.distinct .attributes)
    (fun _ _ hsame => (byKey_eq_eq hsame).2)
    (perm_filter_owned (hholds.ownsRelationshipType htype) hholds.rows.attributes)
    fun attr hattr => hholds.readable (.relationshipAttribute attr)
      (by simp [DefinitionSet.definitions, List.mem_of_mem_filter hattr])

theorem profile? : store.profile? versionId = set.profile := by
  have hrows : (store.rowsOf versionId).profiles = set.rows.profiles := by
    have hperm := hholds.rows.profiles
    rw [DefinitionSet.rows] at hperm ⊢
    cases hprofile : set.profile with
    | none =>
      rw [hprofile] at hperm
      exact hperm.eq_nil
    | some profile =>
      rw [hprofile] at hperm
      exact List.perm_singleton.mp hperm
  rw [Store.profile?, ← List.head?_filter]
  change Option.map _ (store.rowsOf versionId).profiles.head? = _
  rw [hrows, DefinitionSet.rows]
  cases hprofile : set.profile with
  | none => rfl
  | some profile =>
    exact congrArg some (hholds.readable (.profile profile)
      (by simp [DefinitionSet.definitions, hprofile]))

theorem listLabelMappings {profile : ExtractionProfile} (hprofile : set.profile = some profile) :
    store.listLabelMappings profile.id = set.mappingsIn profile.id :=
  map_ordered
    (compareLex (compareOn LabelMappingRow.priority)
      (byKey LabelMappingRow.label LabelMappingRow.id))
    (hholds.consistent.distinct .labelMappings)
    (fun _ _ hsame => (byKey_eq_eq (compareLex_eq_eq.mp hsame).2).2)
    (perm_filter_owned (ownsProfile_of_profile? (hholds.profile?.trans hprofile))
      hholds.rows.labelMappings) fun mapping hmapping =>
      hholds.readable (.labelMapping mapping)
        (by simp [DefinitionSet.definitions, List.mem_of_mem_filter hmapping])

theorem listIgnoreEntries {profile : ExtractionProfile} (hprofile : set.profile = some profile) :
    store.listIgnoreEntries profile.id = set.entriesIn profile.id :=
  map_ordered (byKey IgnoreEntryRow.term IgnoreEntryRow.id)
    (hholds.consistent.distinct .ignoreEntries) (fun _ _ hsame => (byKey_eq_eq hsame).2)
    (perm_filter_owned (ownsProfile_of_profile? (hholds.profile?.trans hprofile))
      hholds.rows.ignoreEntries) fun entry hentry =>
      hholds.readable (.ignoreEntry entry)
        (by simp [DefinitionSet.definitions, List.mem_of_mem_filter hentry])

/-- What is read for a version is its definitions in their order. -/
theorem content : store.content versionId = .ok set.arranged := by
  have htypes : (store.listEntityTypes versionId).mapM store.typeContent =
      .ok (set.orderedTypes.map fun type => (type, set.fieldsIn type.id)) := by
    rw [hholds.listEntityTypes]
    refine Outcome.mapM_ok fun type htype => ?_
    rw [typeContent, hholds.listFields (mem_ordered.mp htype)]
    rfl
  have hrelationships : (store.listRelationshipTypes versionId).map (fun relationship =>
      (relationship, store.listAttributes relationship.id)) =
        set.orderedRelationshipTypes.map fun relationship =>
          (relationship, set.attributesIn relationship.id) := by
    rw [hholds.listRelationshipTypes]
    refine List.map_congr_left fun relationship hrelationship => ?_
    rw [hholds.listAttributes (mem_ordered.mp hrelationship)]
  have hprofile : (store.profile? versionId).map store.profileContent =
      set.profile.map fun profile =>
        { definition := profile, labelMappings := set.mappingsIn profile.id,
          ignoreEntries := set.entriesIn profile.id } := by
    rw [hholds.profile?]
    refine Option.map_congr fun profile hprofile => ?_
    rw [profileContent, hholds.listLabelMappings hprofile, hholds.listIgnoreEntries hprofile]
  rw [Store.content, htypes, hholds.listViewTemplates, hholds.listMapsOfContent, hrelationships,
    hprofile]
  rfl

end Holds

/-! ### Writing the definitions of a version -/

/-- Definitions under new ids come after what their version has. -/
theorem IsConsistent.rowsOf_written {after : Store} (hstore : store.IsConsistent)
    (howned : set.rows.IsOwned versionId)
    (hnodup : (set.definitions.map (·.key.1)).Nodup)
    (hnew : ∀ each ∈ set.definitions, each.key.1 ∉ store.definitionIds)
    (hwrite : store.writeAll (set.definitions.map .definition) = .ok after) :
    after = store.extended set.rows ∧
      after.rowsOf versionId = (store.rowsOf versionId).append set.rows ∧ after.IsConsistent := by
  have hconsistent : after.IsConsistent :=
    writeAll_invariant (fun hconsistent (_ : True) hwrite => IsConsistent.write hconsistent hwrite)
      hstore (fun _ _ => trivial) hwrite
  obtain ⟨-, rfl⟩ := (writeAll_set_of_new hnodup hnew).mp hwrite
  have hrows : (store.extended set.rows).rowsOf versionId =
      (store.rowsOf versionId).append set.rows := by
    refine rowsOf_extended hstore howned ?types ?relationships ?profiles
    case types =>
      refine List.forall_mem_map.mpr fun type htype => hnew (.entityType type) ?_
      simp [DefinitionSet.definitions, htype]
    case relationships =>
      refine List.forall_mem_map.mpr fun type htype => hnew (.relationshipType type) ?_
      simp [DefinitionSet.definitions, htype]
    case profiles =>
      refine List.forall_mem_map.mpr fun profile hprofile => hnew (.profile profile) ?_
      simp [DefinitionSet.definitions, Option.mem_toList.mp hprofile]
  exact ⟨rfl, hrows, hconsistent⟩

theorem IsConsistent.holds_written {after : Store} (hstore : store.IsConsistent)
    (hbare : store.IsBare versionId) (howned : set.rows.IsOwned versionId)
    (hnodup : (set.definitions.map (·.key.1)).Nodup)
    (hnew : ∀ each ∈ set.definitions, each.key.1 ∉ store.definitionIds)
    (hreadable : set.IsReadable)
    (hwrite : store.writeAll (set.definitions.map .definition) = .ok after) :
    after = store.extended set.rows ∧ after.rowsOf versionId = set.rows ∧
      after.Holds versionId set := by
  obtain ⟨hkept, hrows, hconsistent⟩ := hstore.rowsOf_written howned hnodup hnew hwrite
  rw [hbare.append] at hrows
  have hperm : (after.rowsOf versionId).Perm set.rows := by
    rw [hrows]
  exact ⟨hkept, hrows, hconsistent, hperm, hreadable⟩

end Store

end KnowledgeSchema
