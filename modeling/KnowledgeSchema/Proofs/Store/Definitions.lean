import KnowledgeSchema.Proofs.Store.Versions
import KnowledgeSchema.Store.Edit

/-!
# Definition rows

Which rows belong to a version, and what the writes of definitions do to them. A row is told by its
id and keeps its owner, so writes under ids that no row has yet leave the rows of all versions alone
but those of the version they are for.
-/

namespace KnowledgeSchema

/-! ### Tables -/

/-- What putting a row does to the keys of a table, an id with an owner each. -/
structure TableStep (before after : List (String × String)) (key : String × String) : Prop where
  kept : before ⊆ after
  added : ∀ each ∈ after, each ∈ before ∨ each = key
  placed : key.1 ∉ before.map (·.1) → key ∈ after

section Tables

variable {ρ : Type} {rows after : List ρ} {ids : List String}

theorem keys_putRow (row : ρ) (merge : ρ → ρ → ρ) (id owner : ρ → String)
    (hid : ∀ old new, id (merge old new) = id new)
    (howner : ∀ old new, owner (merge old new) = owner old) (rows : List ρ) :
    (putRow id merge row rows).map (fun row => (id row, owner row)) =
        rows.map (fun row => (id row, owner row)) ∨
      rows.any (id · == id row) = false ∧
        (putRow id merge row rows).map (fun row => (id row, owner row)) =
          rows.map (fun row => (id row, owner row)) ++ [(id row, owner row)] := by
  unfold putRow
  split_ifs with hany
  · left
    rw [List.map_map]
    apply List.map_congr_left
    intro old _
    by_cases hmatch : id old = id row
    · simp [hmatch, hid, howner]
    · simp [hmatch]
  · right
    exact ⟨Bool.eq_false_iff.mpr hany, by rw [List.map_append, List.map_singleton]⟩

theorem tableStep_putRow {key : String × String} (row : ρ) (merge : ρ → ρ → ρ)
    (id owner : ρ → String)
    (hafter : after = putRow id merge row rows) (hkey : key = (id row, owner row))
    (hid : ∀ old new, id (merge old new) = id new)
    (howner : ∀ old new, owner (merge old new) = owner old) :
    TableStep (rows.map fun row => (id row, owner row)) (after.map fun row => (id row, owner row))
      key := by
  subst hafter hkey
  by_cases hany : rows.any (id · == id row) = true
  · have hsame := (keys_putRow row merge id owner hid howner rows).resolve_right
      fun hadded => Bool.false_ne_true (hadded.1.symm.trans hany)
    rw [hsame]
    refine ⟨fun _ heach => heach, fun _ heach => Or.inl heach, fun habsent => ?_⟩
    obtain ⟨old, hold, hmatch⟩ := List.any_eq_true.mp hany
    exact absurd (List.mem_map.mpr ⟨_, List.mem_map_of_mem hold, beq_iff_eq.mp hmatch⟩) habsent
  · rw [putRow, if_neg hany, List.map_append, List.map_singleton]
    refine ⟨fun _ heach => List.mem_append_left _ heach, fun each heach => ?_, fun _ => ?_⟩
    · rcases List.mem_append.mp heach with heach | heach
      · exact Or.inl heach
      · exact Or.inr (List.mem_singleton.mp heach)
    · exact List.mem_append_right _ (List.mem_singleton_self _)

theorem filter_putRow (row : ρ) (merge : ρ → ρ → ρ) (id : ρ → String)
    (hafter : after = putRow id merge row rows)
    (hid : ∀ old new, id (merge old new) = id new) (hrow : id row ∈ ids) :
    after.filter (fun row => id row ∉ ids) = rows.filter fun row => id row ∉ ids := by
  subst hafter
  have hmap : ∀ rows : List ρ,
      (rows.map fun old => if id old == id row then merge old row else old).filter
          (fun row => id row ∉ ids) =
        rows.filter fun row => id row ∉ ids := by
    intro rows
    induction rows with
    | nil => rfl
    | cons old rest ih =>
      rw [List.map_cons]
      by_cases hmatch : id old = id row
      · have hmerged : id (if id old == id row then merge old row else old) ∈ ids := by
          rw [if_pos (beq_iff_eq.mpr hmatch), hid]
          exact hrow
        rw [List.filter_cons_of_neg (by simpa using hmerged),
          List.filter_cons_of_neg (by simpa [hmatch] using hrow), ih]
      · rw [if_neg (by simpa using hmatch), List.filter_cons, List.filter_cons, ih]
  unfold putRow
  split_ifs
  · exact hmap rows
  · rw [List.filter_append, List.filter_cons_of_neg (by simpa using hrow)]
    exact List.append_nil _

theorem TableStep.append_left {before after : List (String × String)} {key : String × String}
    (hstep : TableStep before after key) (others : List (String × String)) :
    TableStep (others ++ before) (others ++ after) key where
  kept := List.append_subset.mpr ⟨List.subset_append_left _ _,
    fun _ heach => List.mem_append_right _ (hstep.kept heach)⟩
  added each heach := by
    rcases List.mem_append.mp heach with heach | heach
    · exact Or.inl (List.mem_append_left _ heach)
    · exact (hstep.added each heach).imp_left (List.mem_append_right _)
  placed habsent := by
    rw [List.map_append, List.mem_append, not_or] at habsent
    exact List.mem_append_right _ (hstep.placed habsent.2)

theorem TableStep.append_right {before after : List (String × String)} {key : String × String}
    (hstep : TableStep before after key) (others : List (String × String)) :
    TableStep (before ++ others) (after ++ others) key where
  kept := List.append_subset.mpr
    ⟨fun _ heach => List.mem_append_left _ (hstep.kept heach), List.subset_append_right _ _⟩
  added each heach := by
    rcases List.mem_append.mp heach with heach | heach
    · exact (hstep.added each heach).imp_left (List.mem_append_left _)
    · exact Or.inl (List.mem_append_right _ heach)
  placed habsent := by
    rw [List.map_append, List.mem_append, not_or] at habsent
    exact List.mem_append_left _ (hstep.placed habsent.1)

end Tables

namespace Definition

def key : Definition → String × String
  | entityType type => (type.id, type.versionId)
  | field definition => (definition.id, definition.entityTypeId)
  | relationshipType type => (type.id, type.versionId)
  | relationshipAttribute attr => (attr.id, attr.relationshipTypeId)
  | viewTemplate view => (view.id, view.versionId)
  | mapOfContent map => (map.id, map.versionId)
  | profile definition => (definition.id, definition.versionId)
  | labelMapping mapping => (mapping.id, mapping.profileId)
  | ignoreEntry entry => (entry.id, entry.profileId)

/-- Whether the owner is a version. Otherwise it is another definition. -/
def isTop : Definition → Bool
  | entityType _ | relationshipType _ | viewTemplate _ | mapOfContent _ | profile _ => true
  | field _ | relationshipAttribute _ | labelMapping _ | ignoreEntry _ => false

end Definition

/-! ### Rows of a version -/

structure DefinitionRows where
  entityTypes : List EntityTypeRow
  fields : List FieldRow
  relationshipTypes : List RelationshipTypeRow
  attributes : List AttributeRow
  viewTemplates : List ViewTemplateRow
  mapsOfContent : List MapOfContentRow
  profiles : List ProfileRow
  labelMappings : List LabelMappingRow
  ignoreEntries : List IgnoreEntryRow

namespace Store

def ownsEntityType (store : Store) (versionId id : String) : Bool :=
  store.entityTypes.any fun row => row.versionId == versionId && row.id == id

def ownsRelationshipType (store : Store) (versionId id : String) : Bool :=
  store.relationshipTypes.any fun row => row.versionId == versionId && row.id == id

def ownsProfile (store : Store) (versionId id : String) : Bool :=
  store.profiles.any fun row => row.versionId == versionId && row.id == id

/-- Everything in the store that belongs to a version, directly or through its owner. -/
def rowsOf (store : Store) (versionId : String) : DefinitionRows where
  entityTypes := store.entityTypes.filter (·.versionId == versionId)
  fields := store.fields.filter (store.ownsEntityType versionId ·.entityTypeId)
  relationshipTypes := store.relationshipTypes.filter (·.versionId == versionId)
  attributes := store.attributes.filter (store.ownsRelationshipType versionId ·.relationshipTypeId)
  viewTemplates := store.viewTemplates.filter (·.versionId == versionId)
  mapsOfContent := store.mapsOfContent.filter (·.versionId == versionId)
  profiles := store.profiles.filter (·.versionId == versionId)
  labelMappings := store.labelMappings.filter (store.ownsProfile versionId ·.profileId)
  ignoreEntries := store.ignoreEntries.filter (store.ownsProfile versionId ·.profileId)

def topKeys (store : Store) : List (String × String) :=
  store.entityTypes.map (fun row => (row.id, row.versionId)) ++
    store.relationshipTypes.map (fun row => (row.id, row.versionId)) ++
    store.viewTemplates.map (fun row => (row.id, row.versionId)) ++
    store.mapsOfContent.map (fun row => (row.id, row.versionId)) ++
    store.profiles.map fun row => (row.id, row.versionId)

def childKeys (store : Store) : List (String × String) :=
  store.fields.map (fun row => (row.id, row.entityTypeId)) ++
    store.attributes.map (fun row => (row.id, row.relationshipTypeId)) ++
    store.labelMappings.map (fun row => (row.id, row.profileId)) ++
    store.ignoreEntries.map fun row => (row.id, row.profileId)

def definitionIds (store : Store) : List String :=
  (store.topKeys ++ store.childKeys).map (·.1)

def definitionPart (store : Store) : Store :=
  { store with blueprints := [], versions := [] }

def without (store : Store) (ids : List String) : Store where
  entityTypes := store.entityTypes.filter (·.id ∉ ids)
  fields := store.fields.filter (·.id ∉ ids)
  relationshipTypes := store.relationshipTypes.filter (·.id ∉ ids)
  attributes := store.attributes.filter (·.id ∉ ids)
  viewTemplates := store.viewTemplates.filter (·.id ∉ ids)
  mapsOfContent := store.mapsOfContent.filter (·.id ∉ ids)
  profiles := store.profiles.filter (·.id ∉ ids)
  labelMappings := store.labelMappings.filter (·.id ∉ ids)
  ignoreEntries := store.ignoreEntries.filter (·.id ∉ ids)

variable {store after : Store} {definition : Definition} {ids : List String}
  {versionId target : String}

theorem rowsOf_congr (hpart : after.definitionPart = store.definitionPart) (versionId : String) :
    after.rowsOf versionId = store.rowsOf versionId := by
  have hrows := congrArg (Store.rowsOf · versionId) hpart
  exact hrows

/-! ### Single writes -/

/-- A definition that a version owns is written into one of the tables of those. -/
theorem save_top (htop : definition.isTop = true) (hsave : store.save definition = .ok after) :
    TableStep store.topKeys after.topKeys definition.key ∧ after.childKeys = store.childKeys := by
  cases definition with
  | entityType type =>
    rw [← (guarded_eq_ok.mp hsave).2]
    refine ⟨.append_right (.append_right (.append_right (.append_right ?_ _) _) _) _, rfl⟩
    exact tableStep_putRow type.toRow (fun old new => { new with versionId := old.versionId })
      EntityTypeRow.id EntityTypeRow.versionId rfl rfl (fun _ _ => rfl) fun _ _ => rfl
  | relationshipType type =>
    rw [← (guarded_eq_ok.mp hsave).2]
    refine ⟨.append_right (.append_right (.append_right (.append_left ?_ _) _) _) _, rfl⟩
    exact tableStep_putRow type.toRow (fun old new => { new with versionId := old.versionId })
      RelationshipTypeRow.id RelationshipTypeRow.versionId rfl rfl (fun _ _ => rfl) fun _ _ => rfl
  | viewTemplate view =>
    rw [← (guarded_eq_ok.mp hsave).2]
    refine ⟨.append_right (.append_right (.append_left ?_ _) _) _, rfl⟩
    exact tableStep_putRow view.toRow (fun old new => { new with versionId := old.versionId })
      ViewTemplateRow.id ViewTemplateRow.versionId rfl rfl (fun _ _ => rfl) fun _ _ => rfl
  | mapOfContent map =>
    rw [← (guarded_eq_ok.mp hsave).2]
    refine ⟨.append_right (.append_left ?_ _) _, rfl⟩
    exact tableStep_putRow map.toRow (fun old new => { new with versionId := old.versionId })
      MapOfContentRow.id MapOfContentRow.versionId rfl rfl (fun _ _ => rfl) fun _ _ => rfl
  | profile profile =>
    rw [← (guarded_eq_ok.mp (saveProfile_eq_ok.mp hsave).2).2]
    refine ⟨.append_left ?_ _, rfl⟩
    exact tableStep_putRow profile.toRow (fun old new => { new with versionId := old.versionId })
      ProfileRow.id ProfileRow.versionId rfl rfl (fun _ _ => rfl) fun _ _ => rfl
  | _ => cases htop

/-- Any other one goes into one of the other tables, if a row with its id is there or its owner. -/
theorem save_child (hchild : definition.isTop = false)
    (hsave : store.save definition = .ok after) :
    TableStep store.childKeys after.childKeys definition.key ∧ after.topKeys = store.topKeys ∧
      (definition.key.1 ∈ store.childKeys.map (·.1) ∨
        definition.key.2 ∈ store.topKeys.map (·.1)) := by
  cases definition with
  | field field =>
    obtain ⟨hallowed, hafter⟩ := guarded_eq_ok.mp hsave
    rw [← hafter]
    refine ⟨.append_right (.append_right (.append_right ?_ _) _) _, rfl, ?_⟩
    · exact tableStep_putRow field.toRow
        (fun old new => { new with entityTypeId := old.entityTypeId }) FieldRow.id
        FieldRow.entityTypeId rfl rfl (fun _ _ => rfl) fun _ _ => rfl
    · simp only [hasEntityType, Bool.or_eq_true, List.any_eq_true, beq_iff_eq] at hallowed
      rcases hallowed with hthere | hthere
      · simp [childKeys, Definition.key, hthere]
      · simp [topKeys, Definition.key, hthere]
  | relationshipAttribute attr =>
    obtain ⟨hallowed, hafter⟩ := guarded_eq_ok.mp hsave
    rw [← hafter]
    refine ⟨.append_right (.append_right (.append_left ?_ _) _) _, rfl, ?_⟩
    · exact tableStep_putRow attr.toRow
        (fun old new => { new with relationshipTypeId := old.relationshipTypeId }) AttributeRow.id
        AttributeRow.relationshipTypeId rfl rfl (fun _ _ => rfl) fun _ _ => rfl
    · simp only [hasRelationshipType, Bool.or_eq_true, List.any_eq_true, beq_iff_eq] at hallowed
      rcases hallowed with hthere | hthere
      · simp [childKeys, Definition.key, hthere]
      · simp [topKeys, Definition.key, hthere]
  | labelMapping mapping =>
    obtain ⟨hallowed, hafter⟩ := guarded_eq_ok.mp hsave
    rw [← hafter]
    refine ⟨.append_right (.append_left ?_ _) _, rfl, ?_⟩
    · exact tableStep_putRow mapping.toRow (fun old new => { new with profileId := old.profileId })
        LabelMappingRow.id LabelMappingRow.profileId rfl rfl (fun _ _ => rfl) fun _ _ => rfl
    · simp only [hasProfile, Bool.or_eq_true, List.any_eq_true, beq_iff_eq] at hallowed
      rcases hallowed with hthere | hthere
      · simp [childKeys, Definition.key, hthere]
      · simp [topKeys, Definition.key, hthere]
  | ignoreEntry entry =>
    obtain ⟨hallowed, hafter⟩ := guarded_eq_ok.mp hsave
    rw [← hafter]
    refine ⟨.append_left ?_ _, rfl, ?_⟩
    · exact tableStep_putRow entry.toRow (fun old new => { new with profileId := old.profileId })
        IgnoreEntryRow.id IgnoreEntryRow.profileId rfl rfl (fun _ _ => rfl) fun _ _ => rfl
    · simp only [hasProfile, Bool.or_eq_true, List.any_eq_true, beq_iff_eq] at hallowed
      rcases hallowed with hthere | hthere
      · simp [childKeys, Definition.key, hthere]
      · simp [topKeys, Definition.key, hthere]
  | _ => cases hchild

theorem without_save (hid : definition.key.1 ∈ ids) (hsave : store.save definition = .ok after) :
    after.without ids = store.without ids := by
  cases definition with
  | entityType type =>
    rw [← (guarded_eq_ok.mp hsave).2]
    exact congrArg (fun rows => { store.without ids with entityTypes := rows })
      (filter_putRow type.toRow (fun old new => { new with versionId := old.versionId })
        EntityTypeRow.id rfl (fun _ _ => rfl) hid)
  | field field =>
    rw [← (guarded_eq_ok.mp hsave).2]
    exact congrArg (fun rows => { store.without ids with fields := rows })
      (filter_putRow field.toRow (fun old new => { new with entityTypeId := old.entityTypeId })
        FieldRow.id rfl (fun _ _ => rfl) hid)
  | relationshipType type =>
    rw [← (guarded_eq_ok.mp hsave).2]
    exact congrArg (fun rows => { store.without ids with relationshipTypes := rows })
      (filter_putRow type.toRow (fun old new => { new with versionId := old.versionId })
        RelationshipTypeRow.id rfl (fun _ _ => rfl) hid)
  | relationshipAttribute attr =>
    rw [← (guarded_eq_ok.mp hsave).2]
    exact congrArg (fun rows => { store.without ids with attributes := rows })
      (filter_putRow attr.toRow
        (fun old new => { new with relationshipTypeId := old.relationshipTypeId }) AttributeRow.id
        rfl (fun _ _ => rfl) hid)
  | viewTemplate view =>
    rw [← (guarded_eq_ok.mp hsave).2]
    exact congrArg (fun rows => { store.without ids with viewTemplates := rows })
      (filter_putRow view.toRow (fun old new => { new with versionId := old.versionId })
        ViewTemplateRow.id rfl (fun _ _ => rfl) hid)
  | mapOfContent map =>
    rw [← (guarded_eq_ok.mp hsave).2]
    exact congrArg (fun rows => { store.without ids with mapsOfContent := rows })
      (filter_putRow map.toRow (fun old new => { new with versionId := old.versionId })
        MapOfContentRow.id rfl (fun _ _ => rfl) hid)
  | labelMapping mapping =>
    rw [← (guarded_eq_ok.mp hsave).2]
    exact congrArg (fun rows => { store.without ids with labelMappings := rows })
      (filter_putRow mapping.toRow (fun old new => { new with profileId := old.profileId })
        LabelMappingRow.id rfl (fun _ _ => rfl) hid)
  | ignoreEntry entry =>
    rw [← (guarded_eq_ok.mp hsave).2]
    exact congrArg (fun rows => { store.without ids with ignoreEntries := rows })
      (filter_putRow entry.toRow (fun old new => { new with profileId := old.profileId })
        IgnoreEntryRow.id rfl (fun _ _ => rfl) hid)
  | profile profile =>
    rw [← (guarded_eq_ok.mp (saveProfile_eq_ok.mp hsave).2).2]
    exact congrArg (fun rows => { store.without ids with profiles := rows })
      (filter_putRow profile.toRow (fun old new => { new with versionId := old.versionId })
        ProfileRow.id rfl (fun _ _ => rfl) hid)

end Store

end KnowledgeSchema
