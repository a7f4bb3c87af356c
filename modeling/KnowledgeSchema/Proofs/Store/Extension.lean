import KnowledgeSchema.Proofs.Store.Consistency

/-!
# Rows of one version

Rows that belong to one version and to one another. Added to a store under new ids, they come after
what it has for the version, and where it had nothing they are all.

A set of definitions that belong to one version is written, owners first, into a store that has the
version and, if the set has a profile, none for it.
-/

namespace KnowledgeSchema

namespace DefinitionRows

/-- Rows that belong to a version, or to others of them. -/
structure IsOwned (rows : DefinitionRows) (versionId : String) : Prop where
  entityTypes : ∀ row ∈ rows.entityTypes, row.versionId = versionId
  fields : ∀ row ∈ rows.fields, row.entityTypeId ∈ rows.entityTypes.map (·.id)
  relationshipTypes : ∀ row ∈ rows.relationshipTypes, row.versionId = versionId
  attributes : ∀ row ∈ rows.attributes, row.relationshipTypeId ∈ rows.relationshipTypes.map (·.id)
  viewTemplates : ∀ row ∈ rows.viewTemplates, row.versionId = versionId
  mapsOfContent : ∀ row ∈ rows.mapsOfContent, row.versionId = versionId
  profiles : ∀ row ∈ rows.profiles, row.versionId = versionId
  labelMappings : ∀ row ∈ rows.labelMappings, row.profileId ∈ rows.profiles.map (·.id)
  ignoreEntries : ∀ row ∈ rows.ignoreEntries, row.profileId ∈ rows.profiles.map (·.id)

/-- The rows of both, table by table. -/
def append (rows added : DefinitionRows) : DefinitionRows where
  entityTypes := rows.entityTypes ++ added.entityTypes
  fields := rows.fields ++ added.fields
  relationshipTypes := rows.relationshipTypes ++ added.relationshipTypes
  attributes := rows.attributes ++ added.attributes
  viewTemplates := rows.viewTemplates ++ added.viewTemplates
  mapsOfContent := rows.mapsOfContent ++ added.mapsOfContent
  profiles := rows.profiles ++ added.profiles
  labelMappings := rows.labelMappings ++ added.labelMappings
  ignoreEntries := rows.ignoreEntries ++ added.ignoreEntries

end DefinitionRows

namespace Store

variable {store : Store} {rows : DefinitionRows} {versionId : String}

theorem mem_ids_of_owns {ρ : Type} {id owner : ρ → String} {rows : List ρ} {wanted : String} :
    rows.any (fun row => owner row == versionId && id row == wanted) = true ↔
      wanted ∈ (rows.filter (owner · == versionId)).map id := by
  simp only [List.any_eq_true, Bool.and_eq_true, beq_iff_eq, List.mem_map, List.mem_filter,
    and_assoc]

theorem isOwned_rowsOf (store : Store) (versionId : String) :
    (store.rowsOf versionId).IsOwned versionId where
  entityTypes _ hrow := beq_iff_eq.mp (List.mem_filter.mp hrow).2
  fields _ hrow := mem_ids_of_owns.mp (List.mem_filter.mp hrow).2
  relationshipTypes _ hrow := beq_iff_eq.mp (List.mem_filter.mp hrow).2
  attributes _ hrow := mem_ids_of_owns.mp (List.mem_filter.mp hrow).2
  viewTemplates _ hrow := beq_iff_eq.mp (List.mem_filter.mp hrow).2
  mapsOfContent _ hrow := beq_iff_eq.mp (List.mem_filter.mp hrow).2
  profiles _ hrow := beq_iff_eq.mp (List.mem_filter.mp hrow).2
  labelMappings _ hrow := mem_ids_of_owns.mp (List.mem_filter.mp hrow).2
  ignoreEntries _ hrow := mem_ids_of_owns.mp (List.mem_filter.mp hrow).2

/-! ### One table -/

theorem filter_extended {ρ : Type} {owner : ρ → String} {rows added : List ρ}
    (howned : ∀ row ∈ added, owner row = versionId) :
    (rows ++ added).filter (owner · == versionId) =
      rows.filter (owner · == versionId) ++ added := by
  rw [List.filter_append, List.filter_eq_self.mpr fun row hrow =>
    beq_iff_eq.mpr (howned row hrow)]

/-- A row that was there is a child of a version as before, because new rows have new ids. One that is
added is a child of a new row. -/
theorem filter_children_extended {ρ σ : Type} {id top : σ → String} {child owner : ρ → String}
    {parents newParents : List σ} {rows added : List ρ}
    (htop : ∀ row ∈ newParents, top row = versionId)
    (hold : ∀ key ∈ rows.map fun row => (child row, owner row),
      key.2 ∈ (parents.map fun row => (id row, top row)).map (·.1))
    (hnew : ∀ row ∈ newParents, id row ∉ (parents.map fun row => (id row, top row)).map (·.1))
    (howned : ∀ row ∈ added, owner row ∈ newParents.map id) :
    (rows ++ added).filter (fun row => (parents ++ newParents).any fun parent =>
        top parent == versionId && id parent == owner row) =
      (rows.filter fun row => parents.any fun parent =>
        top parent == versionId && id parent == owner row) ++ added := by
  have hkept : ∀ row ∈ rows, ((parents ++ newParents).any fun parent =>
      top parent == versionId && id parent == owner row) = parents.any fun parent =>
        top parent == versionId && id parent == owner row := by
    intro row hrow
    rw [List.any_append, Bool.or_eq_left_iff_imp, List.any_eq_true]
    rintro ⟨parent, hparent, hsame⟩
    rw [Bool.and_eq_true, beq_iff_eq, beq_iff_eq] at hsame
    exact absurd (hsame.2 ▸ hold _ (List.mem_map_of_mem hrow)) (hnew parent hparent)
  have hadded : ∀ row ∈ added, ((parents ++ newParents).any fun parent =>
      top parent == versionId && id parent == owner row) = true := by
    intro row hrow
    obtain ⟨parent, hparent, hsame⟩ := List.mem_map.mp (howned row hrow)
    refine List.any_eq_true.mpr ⟨parent, List.mem_append_right _ hparent, ?_⟩
    rw [htop parent hparent, hsame, BEq.rfl, BEq.rfl, Bool.and_self]
  rw [List.filter_append, List.filter_congr hkept, List.filter_eq_self.mpr hadded]

/-! ### All tables -/

/-- Whether a version has no definitions. -/
def IsBare (store : Store) (versionId : String) : Prop :=
  store.rowsOf versionId = ({} : DefinitionSet).rows

theorem IsBare.append (hbare : store.IsBare versionId) (rows : DefinitionRows) :
    (store.rowsOf versionId).append rows = rows := by
  rw [hbare]
  rfl

theorem filter_top_eq_nil {ρ : Type} {id owner : ρ → String} {rows : List ρ}
    (hkeys : ∀ key ∈ rows.map fun row => (id row, owner row), key.2 ≠ versionId) :
    rows.filter (owner · == versionId) = [] := by
  refine List.filter_eq_nil_iff.mpr fun row hrow howner => ?_
  exact hkeys _ (List.mem_map_of_mem hrow) (beq_iff_eq.mp howner)

theorem filter_children_eq_nil {ρ σ : Type} {id top : σ → String} {owner : ρ → String}
    {parents : List σ} {rows : List ρ} (hempty : parents.filter (top · == versionId) = []) :
    rows.filter (fun row => parents.any fun parent =>
      top parent == versionId && id parent == owner row) = [] := by
  refine List.filter_eq_nil_iff.mpr fun row _ howns => ?_
  rw [mem_ids_of_owns, hempty] at howns
  cases howns

/-- A version that is not there has nothing. -/
theorem IsConsistent.isBare (hstore : store.IsConsistent)
    (habsent : versionId ∉ store.versions.map (·.id)) : store.IsBare versionId := by
  have hother : ∀ table : Table, table.parent? = none → ∀ key ∈ store.keysIn table,
      key.2 ≠ versionId := by
    rintro table htable key hkey rfl
    have howned := hstore.owned table key hkey
    rw [ownersIn, htable] at howned
    exact habsent howned
  have htypes := filter_top_eq_nil (hother .entityTypes rfl)
  have hrelationships := filter_top_eq_nil (hother .relationshipTypes rfl)
  have hprofiles := filter_top_eq_nil (hother .profiles rfl)
  simp only [IsBare, rowsOf, DefinitionSet.rows, DefinitionRows.mk.injEq]
  exact ⟨htypes, filter_children_eq_nil htypes, hrelationships,
    filter_children_eq_nil hrelationships, filter_top_eq_nil (hother .viewTemplates rfl),
    filter_top_eq_nil (hother .mapsOfContent rfl), hprofiles, filter_children_eq_nil hprofiles,
    filter_children_eq_nil hprofiles⟩

theorem not_mem_ids_of_new {table : Table} {id : String} (hnew : id ∉ store.definitionIds) :
    id ∉ (store.keysIn table).map (·.1) := by
  simp only [mem_definitionIds, topKeys, childKeys, List.map_append, List.mem_append, not_or] at hnew
  cases table <;> simp_all [keysIn]

/-- What a version has after rows were added for it. -/
theorem rowsOf_extended (hstore : store.IsConsistent) (howned : rows.IsOwned versionId)
    (htypes : ∀ row ∈ rows.entityTypes, row.id ∉ store.definitionIds)
    (hrelationships : ∀ row ∈ rows.relationshipTypes, row.id ∉ store.definitionIds)
    (hprofiles : ∀ row ∈ rows.profiles, row.id ∉ store.definitionIds) :
    (store.extended rows).rowsOf versionId = (store.rowsOf versionId).append rows := by
  have hnewTypes : ∀ row ∈ rows.entityTypes, row.id ∉ (store.keysIn .entityTypes).map (·.1) :=
    fun row hrow => not_mem_ids_of_new (htypes row hrow)
  have hnewRelationships : ∀ row ∈ rows.relationshipTypes,
      row.id ∉ (store.keysIn .relationshipTypes).map (·.1) :=
    fun row hrow => not_mem_ids_of_new (hrelationships row hrow)
  have hnewProfiles : ∀ row ∈ rows.profiles, row.id ∉ (store.keysIn .profiles).map (·.1) :=
    fun row hrow => not_mem_ids_of_new (hprofiles row hrow)
  simp only [rowsOf, DefinitionRows.append, DefinitionRows.mk.injEq]
  exact ⟨filter_extended howned.entityTypes,
    filter_children_extended howned.entityTypes (hstore.owned .fields) hnewTypes howned.fields,
    filter_extended howned.relationshipTypes,
    filter_children_extended howned.relationshipTypes (hstore.owned .attributes)
      hnewRelationships howned.attributes,
    filter_extended howned.viewTemplates, filter_extended howned.mapsOfContent,
    filter_extended howned.profiles,
    filter_children_extended howned.profiles (hstore.owned .labelMappings) hnewProfiles
      howned.labelMappings,
    filter_children_extended howned.profiles (hstore.owned .ignoreEntries) hnewProfiles
      howned.ignoreEntries⟩

end Store

/-! ### Sets that a store takes -/

namespace Store

variable {store : Store} {set : DefinitionSet} {versionId : String}

/-- Definitions of a sort all go in where each one does, if adding one of them decides nothing about the
others. That is so of all sorts but profiles, of which a version has only one. -/
theorem admits_map {δ : Type} {wrap : δ → Definition} {items : List δ}
    (hkeep : ∀ (store : Store) item other,
      (store.append (wrap item)).admits (wrap other) = store.admits (wrap other))
    (hstore : ∀ item ∈ items, store.admits (wrap item) = true) :
    store.Admits (items.map wrap) := by
  induction items generalizing store with
  | nil => trivial
  | cons item rest ih =>
    refine ⟨hstore item List.mem_cons_self, ih fun other hother => ?_⟩
    rw [hkeep]
    exact hstore other (List.mem_cons_of_mem _ hother)

theorem versions_foldl_append (definitions : List Definition) :
    (definitions.foldl append store).versions = store.versions := by
  induction definitions generalizing store with
  | nil => rfl
  | cons definition rest ih =>
    rw [List.foldl_cons, ih]
    cases definition <;> rfl

theorem profiles_foldl_append {definitions : List Definition}
    (hnone : ∀ profile, .profile profile ∉ definitions) :
    (definitions.foldl append store).profiles = store.profiles := by
  induction definitions generalizing store with
  | nil => rfl
  | cons definition rest ih =>
    rw [List.foldl_cons, ih fun profile hprofile => hnone profile (List.mem_cons_of_mem _ hprofile)]
    cases definition with
    | profile profile => exact absurd List.mem_cons_self (hnone profile)
    | _ => rfl

/-- What a definition brings with it, and no other takes away, is there when it has been added. -/
theorem foldl_append_of_mem {definition : Definition} {definitions : List Definition}
    (holds : Store → Prop) (hmake : ∀ store : Store, holds (store.append definition))
    (hkeep : ∀ (store : Store) other, holds store → holds (store.append other))
    (hmem : definition ∈ definitions) : holds (definitions.foldl append store) := by
  have hrest : ∀ (rest : List Definition) (store : Store), holds store →
      holds (rest.foldl append store) := by
    intro rest
    induction rest with
    | nil => exact fun _ hstore => hstore
    | cons other rest ih => exact fun store hstore => ih _ (hkeep store other hstore)
  obtain ⟨before, after, rfl⟩ := List.append_of_mem hmem
  rw [List.foldl_append, List.foldl_cons]
  exact hrest after _ (hmake _)

theorem any_append_singleton {ρ : Type} (id : ρ → String) (rows : List ρ) (row : ρ) :
    (rows ++ [row]).any (id · == id row) = true := by
  simp

theorem any_append_of_any {ρ : Type} {id : ρ → String} {rows added : List ρ} {wanted : String}
    (hany : rows.any (id · == wanted) = true) : (rows ++ added).any (id · == wanted) = true := by
  rw [List.any_append, hany, Bool.true_or]

section Owners

variable {definitions : List Definition}

theorem hasEntityType_of_mem {types : List EntityType} {id : String}
    (hid : id ∈ (types.map (·.toRow)).map (·.id))
    (hall : ∀ type ∈ types, .entityType type ∈ definitions) :
    (definitions.foldl append store).hasEntityType id = true := by
  obtain ⟨row, hrow, rfl⟩ := List.mem_map.mp hid
  obtain ⟨type, htype, rfl⟩ := List.mem_map.mp hrow
  refine @foldl_append_of_mem _ (.entityType type) _ (·.hasEntityType type.id = true)
    (fun store => any_append_singleton EntityTypeRow.id store.entityTypes type.toRow)
    (fun store other hstore => ?_) (hall type htype)
  cases other with
  | entityType => exact any_append_of_any hstore
  | _ => exact hstore

theorem hasRelationshipType_of_mem {types : List RelationshipType} {id : String}
    (hid : id ∈ (types.map (·.toRow)).map (·.id))
    (hall : ∀ type ∈ types, .relationshipType type ∈ definitions) :
    (definitions.foldl append store).hasRelationshipType id = true := by
  obtain ⟨row, hrow, rfl⟩ := List.mem_map.mp hid
  obtain ⟨type, htype, rfl⟩ := List.mem_map.mp hrow
  refine @foldl_append_of_mem _ (.relationshipType type) _ (·.hasRelationshipType type.id = true)
    (fun store => any_append_singleton RelationshipTypeRow.id store.relationshipTypes type.toRow)
    (fun store other hstore => ?_) (hall type htype)
  cases other with
  | relationshipType => exact any_append_of_any hstore
  | _ => exact hstore

theorem hasProfile_of_mem {profiles : List ExtractionProfile} {id : String}
    (hid : id ∈ (profiles.map (·.toRow)).map (·.id))
    (hall : ∀ profile ∈ profiles, .profile profile ∈ definitions) :
    (definitions.foldl append store).hasProfile id = true := by
  obtain ⟨row, hrow, rfl⟩ := List.mem_map.mp hid
  obtain ⟨profile, hprofile, rfl⟩ := List.mem_map.mp hrow
  refine @foldl_append_of_mem _ (.profile profile) _ (·.hasProfile profile.id = true)
    (fun store => any_append_singleton ProfileRow.id store.profiles profile.toRow)
    (fun store other hstore => ?_) (hall profile hprofile)
  cases other with
  | profile => exact any_append_of_any hstore
  | _ => exact hstore

end Owners

/-! ### A set of definitions -/

theorem admits_definitions (howned : set.rows.IsOwned versionId)
    (hversion : store.hasVersion versionId = true)
    (hnumber : ∀ profile ∈ set.profile, profile.threshold.isNumber = true)
    (hfree : set.profile.isSome = true → store.profiles.any (·.versionId == versionId) = false) :
    store.Admits set.definitions := by
  have hthere : ∀ (earlier : List Definition) {owner : String}, owner = versionId →
      (earlier.foldl append store).hasVersion owner = true := by
    rintro earlier owner rfl
    rw [hasVersion, versions_foldl_append]
    exact hversion
  simp only [DefinitionSet.definitions, admits_append]
  refine ⟨⟨⟨⟨⟨⟨⟨⟨?types, ?fields⟩, ?relationships⟩, ?attributes⟩, ?views⟩, ?maps⟩, ?profile⟩,
    ?mappings⟩, ?entries⟩
  case types =>
    exact admits_map (fun _ _ _ => rfl) fun type htype =>
      hthere [] (howned.entityTypes _ (List.mem_map_of_mem htype))
  case relationships =>
    exact admits_map (fun _ _ _ => rfl) fun type htype =>
      hthere _ (howned.relationshipTypes _ (List.mem_map_of_mem htype))
  case views =>
    exact admits_map (fun _ _ _ => rfl) fun view hview =>
      hthere _ (howned.viewTemplates _ (List.mem_map_of_mem hview))
  case maps =>
    exact admits_map (fun _ _ _ => rfl) fun map hmap =>
      hthere _ (howned.mapsOfContent _ (List.mem_map_of_mem hmap))
  case fields =>
    exact admits_map (fun _ _ _ => rfl) fun field hfield =>
      hasEntityType_of_mem (howned.fields _ (List.mem_map_of_mem hfield))
        fun type htype => by simp [htype]
  case attributes =>
    exact admits_map (fun _ _ _ => rfl) fun attr hattr =>
      hasRelationshipType_of_mem (howned.attributes _ (List.mem_map_of_mem hattr))
        fun type htype => by simp [htype]
  case mappings =>
    exact admits_map (fun _ _ _ => rfl) fun mapping hmapping =>
      hasProfile_of_mem (howned.labelMappings _ (List.mem_map_of_mem hmapping))
        fun profile hprofile => by simp [Option.mem_toList.mp hprofile]
  case entries =>
    exact admits_map (fun _ _ _ => rfl) fun entry hentry =>
      hasProfile_of_mem (howned.ignoreEntries _ (List.mem_map_of_mem hentry))
        fun profile hprofile => by simp [Option.mem_toList.mp hprofile]
  case profile =>
    cases hprofile : set.profile with
    | none => trivial
    | some profile =>
      have howner : profile.versionId = versionId :=
        howned.profiles profile.toRow (by simp [DefinitionSet.rows, hprofile])
      refine ⟨?_, trivial⟩
      rw [admits, hnumber profile hprofile, hthere _ howner, profiles_foldl_append (by simp),
        howner, hfree (by rw [hprofile]; rfl)]
      rfl

/-- A set with a profile is refused for it where the version has one: what is written before the
profile goes in, and is dropped again. -/
theorem run_saveAll_of_rival (howned : set.rows.IsOwned versionId)
    (hversion : store.hasVersion versionId = true)
    (hnodup : (set.definitions.map (·.key.1)).Nodup)
    (hnew : ∀ each ∈ set.definitions, each.key.1 ∉ store.definitionIds)
    (hnumber : ∀ profile ∈ set.profile, profile.threshold.isNumber = true)
    (hprofile : set.profile.isSome = true)
    (hrival : store.profiles.any (·.versionId == versionId) = true) :
    store.run (.saveAll set) = (.error (.invalidInput (.secondProfile versionId)), store) := by
  obtain ⟨profile, hprofile⟩ := Option.isSome_iff_exists.mp hprofile
  let first : DefinitionSet := { set with profile := none, labelMappings := [], ignoreEntries := [] }
  have hsplit : set.definitions = first.definitions ++ .profile profile ::
      (set.labelMappings.map .labelMapping ++ set.ignoreEntries.map .ignoreEntry) := by
    simp [first, DefinitionSet.definitions, hprofile]
  rw [hsplit] at hnodup hnew
  have hfirst : first.rows.IsOwned versionId :=
    ⟨howned.entityTypes, howned.fields, howned.relationshipTypes, howned.attributes,
      howned.viewTemplates, howned.mapsOfContent, List.forall_mem_nil _, List.forall_mem_nil _,
      List.forall_mem_nil _⟩
  have hwrite : store.writeAll (first.definitions.map .definition) =
      .ok (store.extended first.rows) := by
    rw [List.map_append] at hnodup
    exact (writeAll_set_of_new (List.nodup_append.mp hnodup).1 fun each heach =>
      hnew each (List.mem_append_left _ heach)).mpr
        ⟨admits_definitions hfirst hversion (by simp [first])
          (fun hsome => absurd hsome Bool.false_ne_true), rfl⟩
  have howner : profile.versionId = versionId :=
    howned.profiles profile.toRow (by simp [DefinitionSet.rows, hprofile])
  have hrefused : (store.extended first.rows).write (.definition (.profile profile)) =
      .error (.invalidInput (.secondProfile versionId)) := by
    have hprofiles : (store.extended first.rows).profiles = store.profiles := List.append_nil _
    have hfresh : store.hasProfile profile.id = false :=
      any_eq_false_of_new (@not_mem_ids_of_new store .profiles _ (hnew (.profile profile) (by simp)))
    rw [write, save, saveProfile, hnumber profile hprofile, hasProfile, hprofiles, ← hasProfile,
      hfresh, howner, hrival]
    rfl
  have hfailed : store.writeAll (set.definitions.map .definition) =
      .error (.invalidInput (.secondProfile versionId)) := by
    rw [hsplit, List.map_append, writeAll, List.foldlM_append, ← writeAll, hwrite]
    change (store.extended first.rows).writeAll (_ :: _) = _
    rw [writeAll, List.foldlM_cons, hrefused]
    rfl
  rw [run, commit, Call.writes, hfailed]

end Store

end KnowledgeSchema
