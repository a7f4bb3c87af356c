import KnowledgeSchema.Proofs.Concurrent.System
import KnowledgeSchema.Proofs.Store.Consistency

/-!
# Definitions of other owners

What saving definitions does to the rows under an owner that none of them names. None of these rows
is added, dropped or moved. A row that has the id of a saved definition is overwritten where it
stands and stays with its owner, and every other row is as it was.
-/

namespace KnowledgeSchema

/-- Whether a definition is saved in the place of a row. -/
def Definition.overwrites (definition : Definition) (row : TableRow) : Bool :=
  definition.table == row.table && definition.key.1 == row.key.1

/-- What a row becomes when definitions are saved. The last one saved in its place counts. -/
def TableRow.overwritten (row : TableRow) (definitions : List Definition) : TableRow :=
  match definitions.reverse.find? (·.overwrites row) with
  | some definition => definition.row.withOwner row.key.2
  | none => row

namespace TableRow

variable {row : TableRow} {definition : Definition} {definitions : List Definition}

theorem overwritten_eq_or (row : TableRow) (definitions : List Definition) :
    row.overwritten definitions = row ∨
      ∃ definition ∈ definitions, definition.overwrites row ∧
        row.overwritten definitions = definition.row.withOwner row.key.2 := by
  rw [overwritten]
  cases hfind : definitions.reverse.find? (·.overwrites row) with
  | none => exact Or.inl rfl
  | some definition =>
    have hplace := List.find?_some hfind
    exact Or.inr ⟨definition, List.mem_reverse.mp (List.mem_of_find?_eq_some hfind), hplace, rfl⟩

@[simp]
theorem table_overwritten (row : TableRow) (definitions : List Definition) :
    (row.overwritten definitions).table = row.table := by
  rcases row.overwritten_eq_or definitions with hsame | ⟨definition, -, hplace, hover⟩
  · rw [hsame]
  · rw [hover, table_withOwner, Definition.table_row]
    exact eq_of_beq (Bool.and_eq_true_iff.mp hplace).1

@[simp]
theorem key_overwritten (row : TableRow) (definitions : List Definition) :
    (row.overwritten definitions).key = row.key := by
  rcases row.overwritten_eq_or definitions with hsame | ⟨definition, -, hplace, hover⟩
  · rw [hsame]
  · rw [hover, key_withOwner, Definition.key_row, eq_of_beq (Bool.and_eq_true_iff.mp hplace).2]

theorem overwritten_of_forall (hother : ∀ definition ∈ definitions, ¬definition.overwrites row) :
    row.overwritten definitions = row := by
  refine (row.overwritten_eq_or definitions).resolve_right ?_
  rintro ⟨definition, hdefinition, hplace, -⟩
  exact hother definition hdefinition hplace

theorem map_overwritten_of_forall {rows : List TableRow}
    (hother : ∀ row ∈ rows, ∀ definition ∈ definitions, ¬definition.overwrites row) :
    rows.map (·.overwritten definitions) = rows := by
  rw [List.map_congr_left fun row hrow => overwritten_of_forall (hother row hrow), List.map_id']

theorem overwritten_singleton (row : TableRow) (definition : Definition) :
    row.overwritten [definition] =
      if definition.overwrites row then definition.row.withOwner row.key.2 else row := by
  rw [overwritten, List.reverse_singleton, List.find?_singleton]
  split_ifs <;> rfl

theorem overwritten_cons (row : TableRow) (definition : Definition)
    (definitions : List Definition) :
    row.overwritten (definition :: definitions) =
      (row.overwritten [definition]).overwritten definitions := by
  have hplace : (fun each : Definition => each.overwrites (row.overwritten [definition])) =
      fun each => each.overwrites row := by
    funext each
    rw [Definition.overwrites, table_overwritten, key_overwritten, Definition.overwrites]
  rw [overwritten.eq_def (row.overwritten [definition]), hplace, key_overwritten, overwritten,
    List.reverse_cons, List.find?_append]
  cases definitions.reverse.find? (·.overwrites row) with
  | some last => rfl
  | none => rw [Option.none_or, overwritten, List.reverse_singleton]

end TableRow

namespace Store

/-- The rows of a table that belong to an owner, in the order in which they are stored. -/
def rowsUnder (store : Store) (table : Table) (owner : String) : List TableRow :=
  (store.rowsIn table).filter (·.key.2 == owner)

variable {store after : Store} {definition : Definition} {definitions : List Definition}
  {table : Table} {owner : String}

/-! ### Single saves -/

/-- Rows under an owner that a row does not name, once it is put among them. -/
theorem filter_putInto_of_ne {row : TableRow} (rows : List TableRow) (howner : row.key.2 ≠ owner) :
    (row.putInto rows).filter (·.key.2 == owner) =
      (rows.filter (·.key.2 == owner)).map fun old =>
        if old.key.1 == row.key.1 then row.withOwner old.key.2 else old := by
  unfold TableRow.putInto putRow
  split_ifs with hany
  · rw [List.filter_map]
    congr 1
    apply List.filter_congr
    intro old _
    rw [Function.comp_apply]
    split_ifs
    · rw [TableRow.key_withOwner]
    · rfl
  · rw [List.filter_append, List.filter_cons_of_neg (by simpa using howner), List.filter_nil,
      List.append_nil]
    have hsame : ∀ old ∈ rows.filter (·.key.2 == owner),
        (if old.key.1 == row.key.1 then row.withOwner old.key.2 else old) = old := fun old hold =>
      if_neg fun hid => hany (List.any_eq_true.mpr ⟨old, List.mem_of_mem_filter hold, hid⟩)
    rw [List.map_congr_left hsame, List.map_id']

theorem rowsUnder_save (hsave : store.save definition = .ok after)
    (hother : definition.table = table → definition.key.2 ≠ owner) :
    after.rowsUnder table owner =
      (store.rowsUnder table owner).map (·.overwritten [definition]) := by
  rw [rowsUnder, (putsRow_save hsave).rows, rowsUnder]
  by_cases htable : definition.table = table
  · subst htable
    have howner : definition.row.key.2 ≠ owner := by
      rw [Definition.key_row]
      exact hother rfl
    rw [Function.update_self, filter_putInto_of_ne _ howner]
    apply List.map_congr_left
    intro row hrow
    have htable := table_of_mem_rowsIn (List.mem_of_mem_filter hrow)
    rw [TableRow.overwritten_singleton, Definition.overwrites, htable, beq_self_eq_true,
      Bool.true_and, Definition.key_row, BEq.comm]
  · rw [Function.update_of_ne (Ne.symm htable)]
    refine (TableRow.map_overwritten_of_forall fun row hrow each heach hplace => htable ?_).symm
    rw [List.mem_singleton.mp heach] at hplace
    have hrow := table_of_mem_rowsIn (List.mem_of_mem_filter hrow)
    exact (eq_of_beq (Bool.and_eq_true_iff.mp hplace).1).trans hrow

/-! ### Calls -/

theorem rowsUnder_writeAll (hwrites : store.writeAll (definitions.map .definition) = .ok after)
    (hother : ∀ each ∈ definitions, each.table = table → each.key.2 ≠ owner) :
    after.rowsUnder table owner =
      (store.rowsUnder table owner).map (·.overwritten definitions) := by
  induction definitions generalizing store with
  | nil =>
    cases hwrites
    exact (List.map_id' _).symm
  | cons definition rest ih =>
    obtain ⟨between, hsave, hrest⟩ := writeAll_definitions_cons.mp hwrites
    rw [List.forall_mem_cons] at hother
    rw [ih hrest hother.2, rowsUnder_save hsave hother.1, List.map_map]
    exact List.map_congr_left fun row _ => (row.overwritten_cons definition rest).symm

/-- The definitions that a call saves, in their order, if that is what it does. -/
def Call.saved? : Call → Option (List Definition)
  | saveAll set => some set.definitions
  | save definition => some [definition]
  | _ => none

/-- The table whose definitions a call lists, and the owner that it lists them for. -/
def Call.listed? : Call → Option (Table × String)
  | listEntityTypes versionId => some (.entityTypes, versionId)
  | listFields entityTypeId => some (.fields, entityTypeId)
  | listRelationshipTypes versionId => some (.relationshipTypes, versionId)
  | listAttributes relationshipTypeId => some (.attributes, relationshipTypeId)
  | listViewTemplates versionId => some (.viewTemplates, versionId)
  | listMapsOfContent versionId => some (.mapsOfContent, versionId)
  | getProfile versionId => some (.profiles, versionId)
  | listLabelMappings profileId => some (.labelMappings, profileId)
  | listIgnoreEntries profileId => some (.ignoreEntries, profileId)
  | _ => none

theorem run_saved {call : Call} (hcall : call.saved? = some definitions) :
    (∃ failure, (store.run call).1 = .error failure ∧ (store.run call).2 = store) ∨
      ∃ result, (store.run call).1 = .ok result ∧
        store.writeAll (definitions.map .definition) = .ok (store.run call).2 := by
  have hcommit : ∀ writes, (∃ failure, (store.commit writes).1 = .error failure ∧
      (store.commit writes).2 = store) ∨
        ∃ result, (store.commit writes).1 = .ok result ∧
          store.writeAll writes = .ok (store.commit writes).2 := by
    intro writes
    rcases store.commit_cases writes with ⟨failure, hfailed⟩ | ⟨after, hwrites, hmade⟩
    · exact Or.inl ⟨failure, by rw [hfailed], by rw [hfailed]⟩
    · exact Or.inr ⟨(), by rw [hmade], by rw [hmade, hwrites]⟩
  cases call with
  | saveAll set =>
    cases hcall
    exact hcommit (set.definitions.map .definition)
  | save definition =>
    cases hcall
    exact hcommit [.definition definition]
  | _ => cases hcall

theorem filter_eq_of_rowsUnder {ρ : Type} {f : ρ → TableRow} (ownerOf : ρ → String)
    {rows rows' : List ρ} (hinjective : Function.Injective f)
    (howner : ∀ row, (f row).key.2 = ownerOf row)
    (hrows : (rows.map f).filter (·.key.2 == owner) = (rows'.map f).filter (·.key.2 == owner)) :
    rows.filter (ownerOf · == owner) = rows'.filter (ownerOf · == owner) := by
  rw [List.filter_map, List.filter_map] at hrows
  simp only [Function.comp_def, howner] at hrows
  exact hinjective.list_map hrows

/-- What is listed for an owner is read off the rows under that owner. -/
theorem run_listed {query : Call} (hquery : query.listed? = some (table, owner))
    (hrows : after.rowsUnder table owner = store.rowsUnder table owner) :
    (after.run query).1 = (store.run query).1 := by
  cases query with
  | listEntityTypes versionId =>
    cases hquery
    have hfilter := filter_eq_of_rowsUnder EntityTypeRow.versionId
      (fun _ _ => TableRow.entityType.inj) (fun _ => rfl) hrows
    simp only [run, listEntityTypes, hfilter]
  | listFields entityTypeId =>
    cases hquery
    have hfilter := filter_eq_of_rowsUnder FieldRow.entityTypeId
      (fun _ _ => TableRow.field.inj) (fun _ => rfl) hrows
    simp only [run, listFields, hfilter]
  | listRelationshipTypes versionId =>
    cases hquery
    have hfilter := filter_eq_of_rowsUnder RelationshipTypeRow.versionId
      (fun _ _ => TableRow.relationshipType.inj) (fun _ => rfl) hrows
    simp only [run, listRelationshipTypes, hfilter]
  | listAttributes relationshipTypeId =>
    cases hquery
    have hfilter := filter_eq_of_rowsUnder AttributeRow.relationshipTypeId
      (fun _ _ => TableRow.relationshipAttribute.inj) (fun _ => rfl) hrows
    simp only [run, listAttributes, hfilter]
  | listViewTemplates versionId =>
    cases hquery
    have hfilter := filter_eq_of_rowsUnder ViewTemplateRow.versionId
      (fun _ _ => TableRow.viewTemplate.inj) (fun _ => rfl) hrows
    simp only [run, listViewTemplates, hfilter]
  | listMapsOfContent versionId =>
    cases hquery
    have hfilter := filter_eq_of_rowsUnder MapOfContentRow.versionId
      (fun _ _ => TableRow.mapOfContent.inj) (fun _ => rfl) hrows
    simp only [run, listMapsOfContent, hfilter]
  | getProfile versionId =>
    cases hquery
    have hfilter := filter_eq_of_rowsUnder ProfileRow.versionId
      (fun _ _ => TableRow.profile.inj) (fun _ => rfl) hrows
    simp only [run, profile?, ← List.head?_filter, hfilter]
  | listLabelMappings profileId =>
    cases hquery
    have hfilter := filter_eq_of_rowsUnder LabelMappingRow.profileId
      (fun _ _ => TableRow.labelMapping.inj) (fun _ => rfl) hrows
    simp only [run, listLabelMappings, hfilter]
  | listIgnoreEntries profileId =>
    cases hquery
    have hfilter := filter_eq_of_rowsUnder IgnoreEntryRow.profileId
      (fun _ _ => TableRow.ignoreEntry.inj) (fun _ => rfl) hrows
    simp only [run, listIgnoreEntries, hfilter]
  | _ => cases hquery

/-! ### Owners that are not named -/

/-- What saved definitions leave under an owner that none of them names. -/
structure OverwritesOnly (store : Store) (definitions : List Definition) (table : Table)
    (owner : String) (after : Store) : Prop where
  rows : after.rowsUnder table owner =
    (store.rowsUnder table owner).map (·.overwritten definitions)
  keys : (after.rowsUnder table owner).map (·.key) = (store.rowsUnder table owner).map (·.key)
  listed : (∀ row ∈ store.rowsUnder table owner, ∀ definition ∈ definitions,
      ¬definition.overwrites row) →
    ∀ query : Call, query.listed? = some (table, owner) →
      (after.run query).1 = (store.run query).1

/-- A call that saves definitions fails and changes nothing, or the rows under an owner that none of
them names are as they were but for those that have the id of one of them. -/
theorem overwritesOnly_run (store : Store) (call : Call) (definitions : List Definition)
    (table : Table) (owner : String) (hcall : call.saved? = some definitions)
    (hother : ∀ definition ∈ definitions, definition.table = table → definition.key.2 ≠ owner) :
    (∃ failure, (store.run call).1 = .error failure ∧ (store.run call).2 = store) ∨
      ∃ result, (store.run call).1 = .ok result ∧
        store.OverwritesOnly definitions table owner (store.run call).2 := by
  refine (run_saved hcall).imp_right ?_
  rintro ⟨result, hresult, hwrites⟩
  have hrows := rowsUnder_writeAll hwrites hother
  refine ⟨result, hresult, hrows, ?_, fun hclear query hquery => run_listed hquery ?_⟩
  · rw [hrows, List.map_map]
    exact List.map_congr_left fun row _ => row.key_overwritten definitions
  · rw [hrows, TableRow.map_overwritten_of_forall hclear]

/-- A published version with an entity type, beside a draft. -/
def sideBySide : Store :=
  ((((({} : Store).run (.saveBlueprint (.new "b" "Novel" .epoch))).2.run
    (.insertVersionWith (.draft "v" "b" 1 .epoch) { entityTypes := [.new "t" "v" .event] })).2.run
    (.updateStatus "v" .draft .published (some .epoch))).2.run
    (.insertVersion (.draft "w" "b" 2 .epoch))).2

/-- A type of the draft that has the id of the other one. -/
def reworded : EntityType :=
  { EntityType.new "t" "w" .event with displayName := "Scene" }

theorem overwritesOnly_run_reworded :
    (Call.save (.entityType reworded)).saved? = some [.entityType reworded] ∧
      (∀ definition ∈ [Definition.entityType reworded],
        definition.table = .entityTypes → definition.key.2 ≠ "v") ∧
      ((∃ failure, (sideBySide.run (.save (.entityType reworded))).1 = .error failure ∧
          (sideBySide.run (.save (.entityType reworded))).2 = sideBySide) ∨
        ∃ result, (sideBySide.run (.save (.entityType reworded))).1 = .ok result ∧
          sideBySide.OverwritesOnly [.entityType reworded] .entityTypes "v"
            (sideBySide.run (.save (.entityType reworded))).2) := by
  have hother : ∀ definition ∈ [Definition.entityType reworded],
      definition.table = .entityTypes → definition.key.2 ≠ "v" := by
    intro definition hdefinition _
    rw [List.mem_singleton.mp hdefinition]
    decide
  exact ⟨rfl, hother, overwritesOnly_run sideBySide _ _ .entityTypes "v" rfl hother⟩

/-- Whatever is listed under an owner that no saved definition names stays the same. -/
def LeavesOthers (store : Store) (call : Call) : Prop :=
  ∀ definitions, call.saved? = some definitions → ∀ table owner,
    (∀ definition ∈ definitions, definition.key.2 ≠ owner) →
      ∀ query : Call, query.listed? = some (table, owner) →
        ((store.run call).2.run query).1 = (store.run query).1

theorem run_listEntityTypes_of_filter {row : EntityTypeRow}
    (hrow : store.entityTypes.filter (·.versionId == owner) = [row]) :
    (store.run (.listEntityTypes owner)).1 = .ok [row.toDefinition] := by
  simp only [run, listEntityTypes, hrow, ordered, List.mergeSort_singleton, List.map_cons,
    List.map_nil]

/-- A save into the draft rewords the type of the published version, for both have one id. -/
theorem not_leavesOthers_reworded :
    sideBySide.IsReachable ∧
      sideBySide.versions.map (fun row => (row.id, row.status)) =
        [("v", .published), ("w", .draft)] ∧
      ¬sideBySide.LeavesOthers (.save (.entityType reworded)) := by
  have hreachable : sideBySide.IsReachable := by
    refine .run (.run (.run (.run .empty _ ?_) _ ?_) _ ?_) _ ?_
    · simp [Call.writes, Write.IsNormal]
    · simp only [Call.writes, List.forall_mem_cons, List.forall_mem_map]
      refine ⟨trivial, fun definition hdefinition => ?_⟩
      rw [List.mem_singleton.mp hdefinition]
      rfl
    · simp [Call.writes]
    · simp [Call.writes, Write.IsNormal]
  refine ⟨hreachable, rfl, fun hleaves => ?_⟩
  have hother : ∀ definition ∈ [Definition.entityType reworded], definition.key.2 ≠ "v" := by
    intro definition hdefinition
    rw [List.mem_singleton.mp hdefinition]
    decide
  have hbefore : (sideBySide.run (.listEntityTypes "v")).1 =
      .ok [(EntityType.new "t" "v" .event).toRow.toDefinition] :=
    run_listEntityTypes_of_filter rfl
  have hafter : ((sideBySide.run (.save (.entityType reworded))).2.run (.listEntityTypes "v")).1 =
      .ok [({ reworded with versionId := "v" } : EntityType).toRow.toDefinition] :=
    run_listEntityTypes_of_filter rfl
  have hsame := hleaves _ rfl .entityTypes "v" hother (.listEntityTypes "v") rfl
  rw [hbefore, hafter] at hsame
  have hname := congrArg EntityType.displayName (List.head_eq_of_cons_eq (Except.ok.inj hsame))
  exact absurd hname (by decide)

end Store

end KnowledgeSchema
