import Mathlib.Data.List.Nodup
import Mathlib.Logic.Function.Basic
import KnowledgeSchema.Proofs.Definition.Rows
import KnowledgeSchema.Proofs.Store.Appending
import KnowledgeSchema.Proofs.Store.Tables

/-!
# Reachable stores

What the calls of a store can lead to. No two rows of a table have one id, the owner of every row is
there, no version has two profiles, and every row is that of a definition as a program has them.
-/

namespace KnowledgeSchema

/-- The table that the definitions in a table belong to. The others belong to versions. -/
def Table.parent? : Table → Option Table
  | fields => some entityTypes
  | attributes => some relationshipTypes
  | labelMappings | ignoreEntries => some profiles
  | _ => none

def Definition.table : Definition → Table
  | entityType _ => .entityTypes
  | field _ => .fields
  | relationshipType _ => .relationshipTypes
  | relationshipAttribute _ => .attributes
  | viewTemplate _ => .viewTemplates
  | mapOfContent _ => .mapsOfContent
  | profile _ => .profiles
  | labelMapping _ => .labelMappings
  | ignoreEntry _ => .ignoreEntries

@[simp]
theorem Definition.table_row (definition : Definition) :
    definition.row.table = definition.table := by
  cases definition <;> rfl

def Write.IsNormal : Write → Prop
  | definition each => each.IsNormal
  | _ => True

namespace Store

/-- The keys of the definitions in a table, an id with an owner each. -/
def keysIn (store : Store) : Table → List (String × String)
  | .blueprints | .versions => []
  | .entityTypes => store.entityTypes.map fun row => (row.id, row.versionId)
  | .fields => store.fields.map fun row => (row.id, row.entityTypeId)
  | .relationshipTypes => store.relationshipTypes.map fun row => (row.id, row.versionId)
  | .attributes => store.attributes.map fun row => (row.id, row.relationshipTypeId)
  | .viewTemplates => store.viewTemplates.map fun row => (row.id, row.versionId)
  | .mapsOfContent => store.mapsOfContent.map fun row => (row.id, row.versionId)
  | .profiles => store.profiles.map fun row => (row.id, row.versionId)
  | .labelMappings => store.labelMappings.map fun row => (row.id, row.profileId)
  | .ignoreEntries => store.ignoreEntries.map fun row => (row.id, row.profileId)

/-- What the definitions in a table may belong to. -/
def ownersIn (store : Store) (table : Table) : List String :=
  match table.parent? with
  | some parent => (store.keysIn parent).map (·.1)
  | none => store.versions.map (·.id)

structure IsConsistent (store : Store) : Prop where
  distinct : ∀ table, ((store.keysIn table).map (·.1)).Nodup
  owned : ∀ table, ∀ key ∈ store.keysIn table, key.2 ∈ store.ownersIn table
  single : ((store.keysIn .profiles).map (·.2)).Nodup

/-- Every row is that of a normal definition. -/
structure IsNormal (store : Store) : Prop where
  entityTypes : ∀ row ∈ store.entityTypes,
    ∃ type, (Definition.entityType type).IsNormal ∧ type.toRow = row
  fields : ∀ row ∈ store.fields, ∃ field, (Definition.field field).IsNormal ∧ field.toRow = row
  relationshipTypes : ∀ row ∈ store.relationshipTypes,
    ∃ type, (Definition.relationshipType type).IsNormal ∧ type.toRow = row
  attributes : ∀ row ∈ store.attributes,
    ∃ attr, (Definition.relationshipAttribute attr).IsNormal ∧ attr.toRow = row
  viewTemplates : ∀ row ∈ store.viewTemplates,
    ∃ view, (Definition.viewTemplate view).IsNormal ∧ view.toRow = row
  mapsOfContent : ∀ row ∈ store.mapsOfContent,
    ∃ map, (Definition.mapOfContent map).IsNormal ∧ map.toRow = row
  profiles : ∀ row ∈ store.profiles,
    ∃ profile, (Definition.profile profile).IsNormal ∧ profile.toRow = row
  labelMappings : ∀ row ∈ store.labelMappings,
    ∃ mapping, (Definition.labelMapping mapping).IsNormal ∧ mapping.toRow = row
  ignoreEntries : ∀ row ∈ store.ignoreEntries,
    ∃ entry, (Definition.ignoreEntry entry).IsNormal ∧ entry.toRow = row

/-- What calls make of the empty store when they write normal definitions. -/
inductive IsReachable : Store → Prop where
  | empty : IsReachable {}
  | run {store : Store} (hstore : IsReachable store) (call : Call)
      (hnormal : ∀ write ∈ call.writes, write.IsNormal) : IsReachable (store.run call).2

variable {store after : Store} {definition : Definition}

/-! ### Keys -/

/-- A definition under a new id, with an owner that is there and has room for it. -/
structure AddsKey (store : Store) (definition : Definition) (after : Store) : Prop where
  keys : after.keysIn = Function.update store.keysIn definition.table
    (store.keysIn definition.table ++ [definition.key])
  fresh : definition.key.1 ∉ (store.keysIn definition.table).map (·.1)
  owned : definition.key.2 ∈ store.ownersIn definition.table

/-- A definition is put into its table, where its id is or its owner is there. -/
structure PutsRow (store : Store) (definition : Definition) (after : Store) : Prop where
  rows : after.rowsIn = Function.update store.rowsIn definition.table
    (definition.row.putInto (store.rowsIn definition.table))
  admitted : definition.key.1 ∈ (store.keysIn definition.table).map (·.1) ∨
    definition.key.2 ∈ store.ownersIn definition.table

theorem keysIn_eq (store : Store) (table : Table) :
    store.keysIn table = (store.rowsIn table).map (·.key) := by
  cases table <;> simp only [keysIn, rowsIn, List.map_nil, List.map_map] <;> rfl

theorem mem_ids_of_any {ρ : Type} {id owner : ρ → String} {rows : List ρ} {wanted : String}
    (hany : rows.any (id · == wanted) = true) :
    wanted ∈ (rows.map fun row => (id row, owner row)).map (·.1) := by
  by_contra hnew
  rw [any_eq_false_of_new hnew] at hany
  cases hany

theorem mem_versions_of_any {wanted : String} (hany : store.hasVersion wanted = true) :
    wanted ∈ store.versions.map (·.id) := by
  obtain ⟨row, hrow, hid⟩ := List.any_eq_true.mp hany
  exact List.mem_map.mpr ⟨row, hrow, by simpa using hid⟩

theorem putsRow_guarded {ρ : Type} (f : ρ → TableRow) {id : ρ → String} (owner : ρ → String)
    {merge : ρ → ρ → ρ} (row : ρ) {rows : List ρ} {allowed : Bool} (put : List ρ → Store)
    (hsave : guarded (rows.any (id · == id row) || allowed) (put (putRow id merge row rows)) =
      .ok after)
    (hkey : ∀ row, (f row).key = (id row, owner row))
    (hmerge : ∀ old new, f (merge old new) = (f new).withOwner (f old).key.2)
    (hput : ∀ rows, (put rows).rowsIn =
      Function.update store.rowsIn definition.table (rows.map f))
    (hrows : store.rowsIn definition.table = rows.map f) (hrow : definition.row = f row)
    (howned : allowed = true → definition.key.2 ∈ store.ownersIn definition.table) :
    store.PutsRow definition after := by
  obtain ⟨hallowed, rfl⟩ := guarded_eq_ok.mp hsave
  constructor
  · rw [hput, hrows, hrow, map_putRow f row rows (fun row => by rw [hkey]) hmerge]
  · refine (Bool.or_eq_true_iff.mp hallowed).imp (fun hany => ?_) howned
    have hkeys : store.keysIn definition.table = rows.map fun row => (id row, owner row) := by
      rw [keysIn_eq, hrows, List.map_map]
      exact List.map_congr_left fun row _ => hkey row
    rw [hkeys, ← Definition.key_row, hrow, hkey]
    exact mem_ids_of_any hany

/-- All that a save does to the definitions. -/
theorem putsRow_save (hsave : store.save definition = .ok after) :
    store.PutsRow definition after := by
  cases definition with
  | entityType type =>
    exact putsRow_guarded .entityType EntityTypeRow.versionId type.toRow
      (fun rows => { store with entityTypes := rows }) hsave (fun _ => rfl) (fun _ _ => rfl)
      (fun _ => by funext table; cases table <;> rfl) rfl rfl mem_versions_of_any
  | field field =>
    exact putsRow_guarded .field FieldRow.entityTypeId field.toRow
      (fun rows => { store with fields := rows }) hsave (fun _ => rfl) (fun _ _ => rfl)
      (fun _ => by funext table; cases table <;> rfl) rfl rfl mem_ids_of_any
  | relationshipType type =>
    exact putsRow_guarded .relationshipType RelationshipTypeRow.versionId type.toRow
      (fun rows => { store with relationshipTypes := rows }) hsave (fun _ => rfl) (fun _ _ => rfl)
      (fun _ => by funext table; cases table <;> rfl) rfl rfl mem_versions_of_any
  | relationshipAttribute attr =>
    exact putsRow_guarded .relationshipAttribute AttributeRow.relationshipTypeId attr.toRow
      (fun rows => { store with attributes := rows }) hsave (fun _ => rfl) (fun _ _ => rfl)
      (fun _ => by funext table; cases table <;> rfl) rfl rfl mem_ids_of_any
  | viewTemplate view =>
    exact putsRow_guarded .viewTemplate ViewTemplateRow.versionId view.toRow
      (fun rows => { store with viewTemplates := rows }) hsave (fun _ => rfl) (fun _ _ => rfl)
      (fun _ => by funext table; cases table <;> rfl) rfl rfl mem_versions_of_any
  | mapOfContent map =>
    exact putsRow_guarded .mapOfContent MapOfContentRow.versionId map.toRow
      (fun rows => { store with mapsOfContent := rows }) hsave (fun _ => rfl) (fun _ _ => rfl)
      (fun _ => by funext table; cases table <;> rfl) rfl rfl mem_versions_of_any
  | labelMapping mapping =>
    exact putsRow_guarded .labelMapping LabelMappingRow.profileId mapping.toRow
      (fun rows => { store with labelMappings := rows }) hsave (fun _ => rfl) (fun _ _ => rfl)
      (fun _ => by funext table; cases table <;> rfl) rfl rfl mem_ids_of_any
  | ignoreEntry entry =>
    exact putsRow_guarded .ignoreEntry IgnoreEntryRow.profileId entry.toRow
      (fun rows => { store with ignoreEntries := rows }) hsave (fun _ => rfl) (fun _ _ => rfl)
      (fun _ => by funext table; cases table <;> rfl) rfl rfl mem_ids_of_any
  | profile profile =>
    exact putsRow_guarded .profile ProfileRow.versionId profile.toRow
      (fun rows => { store with profiles := rows }) (saveProfile_eq_ok.mp hsave).2 (fun _ => rfl)
      (fun _ _ => rfl) (fun _ => by funext table; cases table <;> rfl) rfl rfl mem_versions_of_any

/-- A save writes under a key that is there, or adds one. -/
theorem keysIn_save (hsave : store.save definition = .ok after) :
    after.keysIn = store.keysIn ∨ store.AddsKey definition after := by
  obtain ⟨hrows, hadmitted⟩ := putsRow_save hsave
  have hkeys : after.keysIn = Function.update store.keysIn definition.table
      ((definition.row.putInto (store.rowsIn definition.table)).map (·.key)) := by
    funext table
    rw [keysIn_eq, hrows]
    by_cases htable : table = definition.table
    · subst htable
      rw [Function.update_self, Function.update_self]
    · rw [Function.update_of_ne htable, Function.update_of_ne htable, keysIn_eq]
  rcases keys_putRow definition.row (fun old new => new.withOwner old.key.2) (·.key.1) (·.key.2)
      (fun _ _ => by rw [TableRow.key_withOwner]) (fun _ _ => by rw [TableRow.key_withOwner])
      (store.rowsIn definition.table) with hsame | ⟨habsent, hadded⟩
  · left
    rw [hkeys]
    refine Function.update_eq_self_iff.mpr ?_
    rw [keysIn_eq]
    exact hsame
  · right
    have hfresh : definition.key.1 ∉ (store.keysIn definition.table).map (·.1) := by
      rw [keysIn_eq, List.map_map, ← Definition.key_row]
      intro hmem
      obtain ⟨row, hrow, hid⟩ := List.mem_map.mp hmem
      exact List.any_eq_false.mp habsent row hrow (beq_iff_eq.mpr hid)
    refine ⟨?_, hfresh, hadmitted.resolve_left hfresh⟩
    rw [hkeys, keysIn_eq, ← Definition.key_row]
    exact congrArg _ hadded

/-- A profile under a new id is the only one of its version. -/
theorem not_mem_owners_of_save {profile : ExtractionProfile}
    (hsave : store.save (.profile profile) = .ok after)
    (hfresh : profile.id ∉ (store.keysIn .profiles).map (·.1)) :
    profile.versionId ∉ (store.keysIn .profiles).map (·.2) := by
  obtain ⟨⟨-, hknown | hfree⟩, -⟩ := saveProfile_eq_ok.mp hsave
  · have habsent : store.hasProfile profile.id = false := any_eq_false_of_new hfresh
    exact absurd (habsent.symm.trans hknown) Bool.false_ne_true
  · rw [keysIn, List.map_map]
    intro hmem
    obtain ⟨row, hrow, hsame⟩ := List.mem_map.mp hmem
    have hany : store.profiles.any (·.versionId == profile.versionId) = true :=
      List.any_eq_true.mpr ⟨row, hrow, by simpa using hsame⟩
    exact Bool.false_ne_true (hfree.symm.trans hany)

theorem ownersIn_mono {table : Table} {id : String}
    (hversions : (store.versions.map (·.id)) ⊆ after.versions.map (·.id))
    (hkeys : ∀ table, store.keysIn table ⊆ after.keysIn table) (hid : id ∈ store.ownersIn table) :
    id ∈ after.ownersIn table := by
  unfold ownersIn at hid ⊢
  cases hparent : table.parent? with
  | some parent =>
    rw [hparent] at hid
    exact List.map_subset _ (hkeys parent) hid
  | none =>
    rw [hparent] at hid
    exact hversions hid

theorem IsConsistent.save (hconsistent : store.IsConsistent)
    (hsave : store.save definition = .ok after) : after.IsConsistent := by
  have hversions := versions_save hsave
  rcases keysIn_save hsave with hsame | hadds
  · refine ⟨by rw [hsame]; exact hconsistent.distinct, fun table key hkey => ?_,
      by rw [hsame]; exact hconsistent.single⟩
    rw [hsame] at hkey
    exact ownersIn_mono (by rw [hversions]; exact fun _ h => h)
      (fun table => by rw [hsame]; exact fun _ h => h) (hconsistent.owned table key hkey)
  · have hold : ∀ table, store.keysIn table ⊆ after.keysIn table := by
      intro table
      rw [hadds.keys]
      by_cases htable : table = definition.table
      · subst htable
        rw [Function.update_self]
        exact List.subset_append_left _ _
      · rw [Function.update_of_ne htable]
        exact fun _ h => h
    have howned : ∀ {table id}, id ∈ store.ownersIn table → id ∈ after.ownersIn table :=
      ownersIn_mono (by rw [hversions]; exact fun _ h => h) hold
    refine ⟨fun table => ?_, fun table key hkey => ?_, ?_⟩
    · rw [hadds.keys]
      by_cases htable : table = definition.table
      · subst htable
        rw [Function.update_self, List.map_append, List.map_singleton, ← List.concat_eq_append]
        exact List.Nodup.concat hadds.fresh (hconsistent.distinct _)
      · rw [Function.update_of_ne htable]
        exact hconsistent.distinct table
    · rw [hadds.keys] at hkey
      by_cases htable : table = definition.table
      · subst htable
        rw [Function.update_self, List.mem_append, List.mem_singleton] at hkey
        rcases hkey with hkey | rfl
        · exact howned (hconsistent.owned _ key hkey)
        · exact howned hadds.owned
      · rw [Function.update_of_ne htable] at hkey
        exact howned (hconsistent.owned table key hkey)
    · rw [hadds.keys]
      cases definition with
      | profile profile =>
        rw [Definition.table, Function.update_self, List.map_append, List.map_singleton,
          ← List.concat_eq_append]
        exact List.Nodup.concat (not_mem_owners_of_save hsave hadds.fresh) hconsistent.single
      | _ => exact hconsistent.single

/-! ### Rows -/

theorem forall_putRow {ρ : Type} {id : ρ → String} {merge : ρ → ρ → ρ} {row : ρ} {rows : List ρ}
    {holds : ρ → Prop} (hrows : ∀ each ∈ rows, holds each) (hrow : holds row)
    (hmerge : ∀ old, holds (merge old row)) : ∀ each ∈ putRow id merge row rows, holds each := by
  intro each heach
  rw [putRow] at heach
  split_ifs at heach
  · obtain ⟨old, hold, rfl⟩ := List.mem_map.mp heach
    split_ifs
    · exact hmerge old
    · exact hrows old hold
  · rcases List.mem_append.mp heach with hold | hnew
    · exact hrows each hold
    · rw [List.mem_singleton.mp hnew]
      exact hrow

theorem IsNormal.save (hstore : store.IsNormal) (hnormal : definition.IsNormal)
    (hsave : store.save definition = .ok after) : after.IsNormal := by
  cases definition with
  | entityType type =>
    rw [← (guarded_eq_ok.mp hsave).2]
    refine { hstore with entityTypes := ?_ }
    dsimp only
    refine forall_putRow hstore.entityTypes ⟨type, hnormal, rfl⟩ fun old => ?_
    exact ⟨{ type with versionId := old.versionId }, hnormal, rfl⟩
  | field field =>
    rw [← (guarded_eq_ok.mp hsave).2]
    refine { hstore with fields := ?_ }
    dsimp only
    refine forall_putRow hstore.fields ⟨field, hnormal, rfl⟩ fun old => ?_
    exact ⟨{ field with entityTypeId := old.entityTypeId }, hnormal, rfl⟩
  | relationshipType type =>
    rw [← (guarded_eq_ok.mp hsave).2]
    refine { hstore with relationshipTypes := ?_ }
    dsimp only
    refine forall_putRow hstore.relationshipTypes ⟨type, hnormal, rfl⟩ fun old => ?_
    exact ⟨{ type with versionId := old.versionId }, hnormal, rfl⟩
  | relationshipAttribute attr =>
    rw [← (guarded_eq_ok.mp hsave).2]
    refine { hstore with attributes := ?_ }
    dsimp only
    refine forall_putRow hstore.attributes ⟨attr, hnormal, rfl⟩ fun old => ?_
    exact ⟨{ attr with relationshipTypeId := old.relationshipTypeId }, hnormal, rfl⟩
  | viewTemplate view =>
    rw [← (guarded_eq_ok.mp hsave).2]
    refine { hstore with viewTemplates := ?_ }
    dsimp only
    refine forall_putRow hstore.viewTemplates ⟨view, hnormal, rfl⟩ fun old => ?_
    exact ⟨{ view with versionId := old.versionId }, hnormal, rfl⟩
  | mapOfContent map =>
    rw [← (guarded_eq_ok.mp hsave).2]
    refine { hstore with mapsOfContent := ?_ }
    dsimp only
    refine forall_putRow hstore.mapsOfContent ⟨map, hnormal, rfl⟩ fun old => ?_
    exact ⟨{ map with versionId := old.versionId }, hnormal, rfl⟩
  | labelMapping mapping =>
    rw [← (guarded_eq_ok.mp hsave).2]
    refine { hstore with labelMappings := ?_ }
    dsimp only
    refine forall_putRow hstore.labelMappings ⟨mapping, hnormal, rfl⟩ fun old => ?_
    exact ⟨{ mapping with profileId := old.profileId }, hnormal, rfl⟩
  | ignoreEntry entry =>
    rw [← (guarded_eq_ok.mp hsave).2]
    refine { hstore with ignoreEntries := ?_ }
    dsimp only
    refine forall_putRow hstore.ignoreEntries ⟨entry, hnormal, rfl⟩ fun old => ?_
    exact ⟨{ entry with profileId := old.profileId }, hnormal, rfl⟩
  | profile profile =>
    rw [← (guarded_eq_ok.mp (saveProfile_eq_ok.mp hsave).2).2]
    refine { hstore with profiles := ?_ }
    dsimp only
    refine forall_putRow hstore.profiles ⟨profile, hnormal, rfl⟩ fun old => ?_
    exact ⟨{ profile with versionId := old.versionId }, hnormal, rfl⟩

/-! ### Calls -/

theorem IsConsistent.congr (hconsistent : store.IsConsistent)
    (hversions : store.versions.map (·.id) ⊆ after.versions.map (·.id))
    (hkeys : after.keysIn = store.keysIn) : after.IsConsistent := by
  refine ⟨by rw [hkeys]; exact hconsistent.distinct, fun table key hkey => ?_,
    by rw [hkeys]; exact hconsistent.single⟩
  rw [hkeys] at hkey
  exact ownersIn_mono hversions (fun table => by rw [hkeys]; exact List.Subset.refl _)
    (hconsistent.owned table key hkey)

theorem keysIn_congr (hpart : after.definitionPart = store.definitionPart) :
    after.keysIn = store.keysIn := by
  have hkeys := congrArg keysIn hpart
  funext table
  have htable := congrFun hkeys table
  cases table <;> exact htable

theorem IsConsistent.write (hconsistent : store.IsConsistent) {write : Write}
    (hwrite : store.write write = .ok after) : after.IsConsistent := by
  cases write with
  | blueprint blueprint =>
    cases hwrite
    exact hconsistent.congr (List.Subset.refl _) (keysIn_congr rfl)
  | version version =>
    obtain ⟨-, -, rfl⟩ := insertVersion_eq_ok hwrite
    refine hconsistent.congr ?_ (keysIn_congr rfl)
    rw [List.map_append]
    exact List.subset_append_left _ _
  | definition definition => exact hconsistent.save hwrite

theorem IsNormal.congr (hstore : store.IsNormal)
    (hpart : after.definitionPart = store.definitionPart) : after.IsNormal := by
  have hstored : store.definitionPart.IsNormal := { hstore with }
  rw [← hpart] at hstored
  exact { hstored with }

theorem IsNormal.write (hstore : store.IsNormal) {write : Write} (hnormal : write.IsNormal)
    (hwrite : store.write write = .ok after) : after.IsNormal := by
  cases write with
  | blueprint blueprint =>
    cases hwrite
    exact hstore.congr rfl
  | version version =>
    obtain ⟨-, -, rfl⟩ := insertVersion_eq_ok hwrite
    exact hstore.congr rfl
  | definition definition => exact hstore.save hnormal hwrite

/-- What every write keeps, a list of writes keeps. -/
theorem writeAll_invariant {holds : Store → Prop} {allowed : Write → Prop}
    (hstep : ∀ {store after : Store} {write : Write}, holds store → allowed write →
      store.write write = .ok after → holds after)
    {writes : List Write} (hstore : holds store) (hallowed : ∀ write ∈ writes, allowed write)
    (hwrites : store.writeAll writes = .ok after) : holds after := by
  induction writes generalizing store with
  | nil =>
    cases hwrites
    exact hstore
  | cons write rest ih =>
    obtain ⟨between, hwrite, hrest⟩ := writeAll_cons.mp hwrites
    exact ih (hstep hstore (hallowed write List.mem_cons_self) hwrite)
      (fun other hother => hallowed other (List.mem_cons_of_mem _ hother)) hrest

/-- All that a call can do to a store: its writes, a change of a status, or nothing. -/
theorem run_eq_or (store : Store) (call : Call) :
    (store.run call).2 = store ∨ store.writeAll call.writes = .ok (store.run call).2 ∨
      ∃ id expected status publishedAt,
        (store.run call).2 = (store.updateStatus id expected status publishedAt).1 := by
  cases call with
  | updateStatus id expected status publishedAt =>
    exact Or.inr (Or.inr ⟨id, expected, status, publishedAt, rfl⟩)
  | saveBlueprint blueprint => exact (commit_eq_or store _).imp_right Or.inl
  | insertVersion version => exact (commit_eq_or store _).imp_right Or.inl
  | insertVersionWith version set => exact (commit_eq_or store _).imp_right Or.inl
  | saveAll set => exact (commit_eq_or store _).imp_right Or.inl
  | save definition => exact (commit_eq_or store _).imp_right Or.inl
  | _ => exact Or.inl rfl

theorem ids_updateStatus (store : Store) (id : String) (expected status : Status)
    (publishedAt : Option Timestamp) :
    (store.updateStatus id expected status publishedAt).1.versions.map (·.id) =
      store.versions.map (·.id) := by
  rw [updateStatus, List.map_map]
  apply List.map_congr_left
  intro row _
  rw [Function.comp_apply]
  split_ifs <;> rfl

theorem IsReachable.isConsistent (hreachable : store.IsReachable) : store.IsConsistent := by
  induction hreachable with
  | empty =>
    have hkeys : ∀ table, ({} : Store).keysIn table = [] := fun table => by cases table <;> rfl
    refine ⟨fun table => ?_, fun table key hkey => ?_, List.nodup_nil⟩
    · rw [hkeys]
      exact List.nodup_nil
    · rw [hkeys] at hkey
      cases hkey
  | @run store hstore call hnormal ih =>
    rcases run_eq_or store call with hsame | hwrites | ⟨id, expected, status, publishedAt, hafter⟩
    · rw [hsame]
      exact ih
    · exact writeAll_invariant
        (fun hconsistent _ hwrite => IsConsistent.write hconsistent hwrite) ih hnormal hwrites
    · rw [hafter]
      refine ih.congr ?_ (keysIn_congr rfl)
      rw [ids_updateStatus]
      exact List.Subset.refl _

theorem IsReachable.isNormal (hreachable : store.IsReachable) : store.IsNormal := by
  induction hreachable with
  | empty => constructor <;> exact fun row hrow => absurd hrow List.not_mem_nil
  | @run store hstore call hnormal ih =>
    rcases run_eq_or store call with hsame | hwrites | ⟨id, expected, status, publishedAt, hafter⟩
    · rw [hsame]
      exact ih
    · exact writeAll_invariant (fun hstore hwrite hafter => IsNormal.write hstore hwrite hafter) ih
        hnormal hwrites
    · rw [hafter]
      exact ih.congr rfl

end Store

end KnowledgeSchema
