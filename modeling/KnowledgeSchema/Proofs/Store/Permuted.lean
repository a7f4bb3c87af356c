import Mathlib.Data.List.Find
import KnowledgeSchema.Proofs.Compiling.Arrangement
import KnowledgeSchema.Proofs.Numbering.Sequence

/-!
# The order of writes

Rows that are added under new ids may be added in any order: the tables hold the same rows then, and
every call that reads gives them in an order of their own. So whatever is read, and whatever is
worked out from it, does not depend on the order of the writes.
-/

namespace KnowledgeSchema

namespace Write

/-- The id of what is written. -/
def id : Write → String
  | blueprint each => each.id
  | version each => each.id
  | definition each => each.key.1

/-- The call that asks for nothing but one write. -/
def call : Write → Store.Call
  | blueprint each => .saveBlueprint each
  | version each => .insertVersion each
  | definition each => .save each

end Write

namespace Store

variable {store after first second : Store} {writes others : List Write}

/-- All ids under which a store holds something. -/
def ids (store : Store) : List String :=
  store.blueprints.map (·.id) ++ store.versions.map (·.id) ++ store.definitionIds

/-- The store after calls that all succeed. -/
def runAll (store : Store) : List Call → Option Store
  | [] => some store
  | call :: rest =>
    match store.run call with
    | (.ok _, after) => after.runAll rest
    | (.error _, _) => none

/-- The store with one row more. -/
def added (store : Store) : Write → Store
  | .blueprint blueprint => { store with blueprints := store.blueprints ++ [blueprint.toRow] }
  | .version version => { store with versions := store.versions ++ [version.toRow] }
  | .definition definition => store.append definition

/-! ### Writes under new ids -/

theorem runAll_calls :
    store.runAll (writes.map (·.call)) = some after ↔ store.writeAll writes = .ok after := by
  induction writes generalizing store with
  | nil =>
    rw [List.map_nil, runAll, Option.some.injEq]
    exact ⟨fun h => by rw [h]; rfl, fun h => by cases h; rfl⟩
  | cons write rest ih =>
    have hrun : store.runAll (write.call :: rest.map (·.call)) =
        (store.write write).toOption.bind fun between => between.runAll (rest.map (·.call)) := by
      cases write with
      | blueprint blueprint => rfl
      | version version =>
        simp only [runAll, Write.call, run, Call.writes, commit, writeAll, List.foldlM_cons,
          List.foldlM_nil, Store.write]
        cases store.insertVersion version <;> rfl
      | definition definition =>
        simp only [runAll, Write.call, run, Call.writes, commit, writeAll, List.foldlM_cons,
          List.foldlM_nil, Store.write]
        cases store.save definition <;> rfl
    rw [List.map_cons, hrun, writeAll_cons]
    cases store.write write with
    | ok between => simpa [Except.toOption] using ih
    | error failure => simp [Except.toOption]

theorem write_eq_ok_of_new {write : Write} (hnew : write.id ∉ store.ids) (hwrite : store.write write = .ok after) :
    after = store.added write := by
  simp only [ids, List.mem_append, not_or] at hnew
  obtain ⟨⟨hblueprints, -⟩, hdefinitions⟩ := hnew
  cases write with
  | blueprint blueprint =>
    cases hwrite
    have habsent : store.blueprints.any (·.id == blueprint.id) = false := by
      rw [List.any_eq_false]
      exact fun row hrow hid => hblueprints (List.mem_map.mpr ⟨row, hrow, beq_iff_eq.mp hid⟩)
    rw [saveBlueprint, putRow]
    exact congrArg (fun rows => { store with blueprints := rows })
      (if_neg (Bool.eq_false_iff.mp habsent))
  | version version => exact (insertVersion_eq_ok hwrite).2.2
  | definition definition => exact ((save_eq_ok_of_new hdefinitions).mp hwrite).2.symm

theorem mem_ids_added {write : Write} {id : String} (hid : id ∈ (store.added write).ids) :
    id ∈ store.ids ∨ id = write.id := by
  simp only [ids, List.mem_append] at hid ⊢
  cases write with
  | blueprint blueprint =>
    simp only [added, List.map_append, List.map_cons, List.map_nil, List.mem_append,
      List.mem_singleton] at hid
    have hsame : ({ store with blueprints := store.blueprints ++ [blueprint.toRow] } : Store).definitionIds =
        store.definitionIds := rfl
    rw [hsame] at hid
    rcases hid with ((hid | rfl) | hid) | hid
    · exact Or.inl (Or.inl (Or.inl hid))
    · exact Or.inr rfl
    · exact Or.inl (Or.inl (Or.inr hid))
    · exact Or.inl (Or.inr hid)
  | version version =>
    simp only [added, List.map_append, List.map_cons, List.map_nil, List.mem_append,
      List.mem_singleton] at hid
    have hsame : ({ store with versions := store.versions ++ [version.toRow] } : Store).definitionIds =
        store.definitionIds := rfl
    rw [hsame] at hid
    rcases hid with (hid | hid | rfl) | hid
    · exact Or.inl (Or.inl (Or.inl hid))
    · exact Or.inl (Or.inl (Or.inr hid))
    · exact Or.inr rfl
    · exact Or.inl (Or.inr hid)
  | definition definition =>
    have hblueprints : (store.added (.definition definition)).blueprints = store.blueprints := by
      cases definition <;> rfl
    have hversions : (store.added (.definition definition)).versions = store.versions := by
      cases definition <;> rfl
    rw [hblueprints, hversions] at hid
    rcases hid with hid | hid
    · exact Or.inl (Or.inl hid)
    · exact (mem_definitionIds_append hid).imp_left Or.inr

/-- Writes under new ids that succeed add their rows one after another. -/
theorem foldl_added_of_new (hdistinct : (writes.map (·.id)).Nodup)
    (hnew : ∀ write ∈ writes, write.id ∉ store.ids) (hwrites : store.writeAll writes = .ok after) :
    after = writes.foldl added store := by
  induction writes generalizing store with
  | nil =>
    cases hwrites
    rfl
  | cons write rest ih =>
    obtain ⟨between, hwrite, hrest⟩ := writeAll_cons.mp hwrites
    rw [List.map_cons, List.nodup_cons] at hdistinct
    rw [write_eq_ok_of_new (hnew write List.mem_cons_self) hwrite] at hrest
    refine ih hdistinct.2 (fun other hother hid => ?_) hrest
    rcases mem_ids_added hid with hold | hsame
    · exact hnew other (List.mem_cons_of_mem _ hother) hold
    · exact hdistinct.1 (hsame ▸ List.mem_map_of_mem hother)

/-! ### The same rows -/

/-- Two stores with the same rows in each table. -/
structure Perm (first second : Store) : Prop where
  blueprints : first.blueprints.Perm second.blueprints
  versions : first.versions.Perm second.versions
  entityTypes : first.entityTypes.Perm second.entityTypes
  fields : first.fields.Perm second.fields
  relationshipTypes : first.relationshipTypes.Perm second.relationshipTypes
  attributes : first.attributes.Perm second.attributes
  viewTemplates : first.viewTemplates.Perm second.viewTemplates
  mapsOfContent : first.mapsOfContent.Perm second.mapsOfContent
  profiles : first.profiles.Perm second.profiles
  labelMappings : first.labelMappings.Perm second.labelMappings
  ignoreEntries : first.ignoreEntries.Perm second.ignoreEntries

/-- A table to which each write adds its own rows has the same rows after writes in any order. -/
theorem perm_table_foldl_added {ρ : Type} (table : Store → List ρ)
    (hadds : ∀ (store : Store) write,
      table (store.added write) = table store ++ table (({} : Store).added write)) (hperm : writes.Perm others) (store : Store) :
    (table (writes.foldl added store)).Perm (table (others.foldl added store)) := by
  have hall : ∀ (writes : List Write) (store : Store), table (writes.foldl added store) =
      table store ++ writes.flatMap fun write => table (({} : Store).added write) := by
    intro writes
    induction writes with
    | nil => intro store; simp
    | cons write rest ih =>
      intro store
      rw [List.foldl_cons, ih, hadds, List.flatMap_cons, List.append_assoc]
  rw [hall, hall]
  exact (hperm.flatMap_right _).append_left _

theorem perm_foldl_added (hperm : writes.Perm others) (store : Store) :
    (writes.foldl added store).Perm (others.foldl added store) := by
  constructor <;>
    refine perm_table_foldl_added _ (fun store write => ?_) hperm store <;>
    cases write with
    | definition definition => cases definition <;> simp [added, append]
    | _ => simp [added]

/-! ### Keys -/

/-- What the tables of a store enforce: ids tell the rows of a table apart, and owners are there. -/
structure IsKeyed (store : Store) : Prop where
  consistent : store.IsConsistent
  blueprints : (store.blueprints.map (·.id)).Nodup
  versions : (store.versions.map (·.id)).Nodup

theorem nodup_putRow {ρ : Type} {id : ρ → String} {rows : List ρ} (merge : ρ → ρ → ρ) (row : ρ)
    (hid : ∀ old new, id (merge old new) = id new) (hnodup : (rows.map id).Nodup) :
    ((putRow id merge row rows).map id).Nodup := by
  rcases keys_putRow row merge id (fun _ => "") hid (fun _ _ => rfl) rows with hsame | ⟨habsent, hadded⟩
  · have hids := congrArg (List.map Prod.fst) hsame
    rw [List.map_map, List.map_map] at hids
    exact hids.symm ▸ hnodup
  · have hids := congrArg (List.map Prod.fst) hadded
    rw [List.map_append, List.map_map, List.map_map] at hids
    refine hids.symm ▸ List.Nodup.append hnodup (List.nodup_singleton _) ?_
    refine List.disjoint_singleton.mpr fun hmem => ?_
    obtain ⟨old, hold, hsame⟩ := List.mem_map.mp hmem
    exact absurd (beq_iff_eq.mpr hsame) (List.any_eq_false.mp habsent old hold)

theorem IsKeyed.write (hkeyed : store.IsKeyed) {write : Write} (hwrite : store.write write = .ok after) :
    after.IsKeyed := by
  refine ⟨hkeyed.consistent.write hwrite, ?_, ?_⟩
  · cases write with
    | blueprint blueprint =>
      cases hwrite
      exact nodup_putRow (fun old new => { new with createdAt := old.createdAt }) blueprint.toRow
        (fun _ _ => rfl) hkeyed.blueprints
    | version version =>
      obtain ⟨-, -, rfl⟩ := insertVersion_eq_ok hwrite
      exact hkeyed.blueprints
    | definition definition =>
      rw [blueprints_save hwrite]
      exact hkeyed.blueprints
  · cases write with
    | blueprint blueprint =>
      cases hwrite
      exact hkeyed.versions
    | version version =>
      obtain ⟨-, htaken, rfl⟩ := insertVersion_eq_ok hwrite
      rw [List.map_append]
      refine List.Nodup.append hkeyed.versions (List.nodup_singleton _) ?_
      exact List.disjoint_singleton.mpr (not_mem_ids_of_isTaken htaken)
    | definition definition =>
      rw [versions_save hwrite]
      exact hkeyed.versions

theorem IsKeyed.writeAll (hkeyed : store.IsKeyed) (hwrites : store.writeAll writes = .ok after) :
    after.IsKeyed :=
  @writeAll_invariant _ _ IsKeyed (fun _ => True)
    (fun hkeyed _ hwrite => IsKeyed.write hkeyed hwrite) _ hkeyed (fun _ _ => trivial) hwrites

/-- Whatever calls lead to is keyed. -/
theorem IsReachable.isKeyed (hreachable : store.IsReachable) : store.IsKeyed := by
  induction hreachable with
  | empty => exact ⟨IsReachable.empty.isConsistent, List.nodup_nil, List.nodup_nil⟩
  | @run store hstore call hnormal ih =>
    rcases run_eq_or store call with hsame | hwrites | ⟨id, expected, status, publishedAt, hafter⟩
    · rw [hsame]
      exact ih
    · exact ih.writeAll hwrites
    · refine ⟨(IsReachable.run hstore call hnormal).isConsistent, ?_, ?_⟩
      · rw [hafter]
        exact ih.blueprints
      · rw [hafter, ids_updateStatus]
        exact ih.versions

/-! ### Reading -/

section Reading

variable {ρ : Type} {rows rows' : List ρ} {id : ρ → String}

/-- Rows that ids tell apart are found under their ids, however they stand. -/
theorem find?_perm (hperm : rows.Perm rows')
    (happart : ∀ row ∈ rows, ∀ row' ∈ rows, id row = id row' → row = row') (wanted : String) :
    rows.find? (id · == wanted) = rows'.find? (id · == wanted) :=
  List.find?_eq_find?_of_perm hperm fun row hrow row' hrow' =>
    happart row hrow.1 row' hrow'.1 ((beq_iff_eq.mp hrow.2).trans (beq_iff_eq.mp hrow'.2).symm)

/-- Rows that ids tell apart have one order, whichever of them are taken. -/
theorem ordered_perm_filter (order : ρ → ρ → Ordering) [Std.TransCmp order]
    (hid : ∀ row row', order row row' = .eq → id row = id row') (hperm : rows.Perm rows')
    (happart : ∀ row ∈ rows, ∀ row' ∈ rows, id row = id row' → row = row') (keep : ρ → Bool) :
    ordered order (rows.filter keep) = ordered order (rows'.filter keep) :=
  ordered_congr (hperm.filter keep) fun row hrow row' hrow' hsame =>
    happart row (List.mem_of_mem_filter hrow) row' (List.mem_of_mem_filter hrow') (hid _ _ hsame)

theorem max?_perm {numbers others : List Int64} (hperm : numbers.Perm others) :
    numbers.max? = others.max? := by
  refine Option.ext fun number => ?_
  rw [List.max?_eq_some_iff, List.max?_eq_some_iff, hperm.mem_iff]
  exact and_congr_right fun _ => forall_congr' fun other => by rw [hperm.mem_iff]

end Reading

namespace Perm

variable (hperm : first.Perm second) (hkeyed : first.IsKeyed)

include hperm in
theorem maxNumber? : first.maxNumber? = second.maxNumber? := by
  funext blueprintId
  exact max?_perm ((hperm.versions.filter _).map _)

include hperm hkeyed

theorem blueprint? : first.blueprint? = second.blueprint? := by
  funext id
  rw [Store.blueprint?, Store.blueprint?, find?_perm hperm.blueprints
    fun _ hrow _ hrow' => List.inj_on_of_nodup_map hkeyed.blueprints hrow hrow']

theorem version? : first.version? = second.version? := by
  funext id
  rw [Store.version?, Store.version?, find?_perm hperm.versions
    fun _ hrow _ hrow' => List.inj_on_of_nodup_map hkeyed.versions hrow hrow']

theorem profile? : first.profile? = second.profile? := by
  have hsingle := hkeyed.consistent.single
  rw [keysIn, List.map_map] at hsingle
  have happart : ∀ row ∈ first.profiles, ∀ row' ∈ first.profiles,
      row.versionId = row'.versionId → row = row' :=
    fun _ hrow _ hrow' => List.inj_on_of_nodup_map hsingle hrow hrow'
  funext versionId
  rw [Store.profile?, Store.profile?, find?_perm hperm.profiles happart]

theorem listBlueprints : first.listBlueprints = second.listBlueprints := by
  have hrows := ordered_perm_filter (byKey BlueprintRow.name BlueprintRow.id)
    (fun _ _ hsame => (byKey_eq_eq hsame).2) hperm.blueprints
    (fun _ hrow _ hrow' => List.inj_on_of_nodup_map hkeyed.blueprints hrow hrow') fun _ => true
  rw [List.filter_true, List.filter_true] at hrows
  exact congrArg (List.mapM BlueprintRow.toBlueprint) hrows

theorem listVersions : first.listVersions = second.listVersions := by
  funext blueprintId
  exact congrArg (List.mapM VersionRow.toVersion)
    (ordered_perm_filter (byKey VersionRow.number VersionRow.id)
      (fun _ _ hsame => (byKey_eq_eq hsame).2) hperm.versions
      (fun _ hrow _ hrow' => List.inj_on_of_nodup_map hkeyed.versions hrow hrow') _)

theorem listEntityTypes : first.listEntityTypes = second.listEntityTypes := by
  funext versionId
  exact congrArg (List.map EntityTypeRow.toDefinition)
    (ordered_perm_filter (byKey EntityTypeRow.kind EntityTypeRow.id)
      (fun _ _ hsame => (byKey_eq_eq hsame).2) hperm.entityTypes
      (injective_of_nodup (hkeyed.consistent.distinct .entityTypes)) _)

theorem listFields : first.listFields = second.listFields := by
  funext entityTypeId
  exact congrArg (List.mapM FieldRow.toDefinition)
    (ordered_perm_filter (compareLex (compareOn FieldRow.order) (byKey FieldRow.name FieldRow.id))
      (fun _ _ hsame => (byKey_eq_eq (compareLex_eq_eq.mp hsame).2).2) hperm.fields
      (injective_of_nodup (hkeyed.consistent.distinct .fields)) _)

theorem listRelationshipTypes : first.listRelationshipTypes = second.listRelationshipTypes := by
  funext versionId
  exact congrArg (List.map RelationshipTypeRow.toDefinition)
    (ordered_perm_filter (byKey RelationshipTypeRow.name RelationshipTypeRow.id)
      (fun _ _ hsame => (byKey_eq_eq hsame).2) hperm.relationshipTypes
      (injective_of_nodup (hkeyed.consistent.distinct .relationshipTypes)) _)

theorem listAttributes : first.listAttributes = second.listAttributes := by
  funext relationshipTypeId
  exact congrArg (List.map AttributeRow.toDefinition)
    (ordered_perm_filter (byKey AttributeRow.name AttributeRow.id)
      (fun _ _ hsame => (byKey_eq_eq hsame).2) hperm.attributes
      (injective_of_nodup (hkeyed.consistent.distinct .attributes)) _)

theorem listViewTemplates : first.listViewTemplates = second.listViewTemplates := by
  funext versionId
  exact congrArg (List.mapM ViewTemplateRow.toDefinition)
    (ordered_perm_filter (byKey ViewTemplateRow.name ViewTemplateRow.id)
      (fun _ _ hsame => (byKey_eq_eq hsame).2) hperm.viewTemplates
      (injective_of_nodup (hkeyed.consistent.distinct .viewTemplates)) _)

theorem listMapsOfContent : first.listMapsOfContent = second.listMapsOfContent := by
  funext versionId
  exact congrArg (List.mapM MapOfContentRow.toDefinition)
    (ordered_perm_filter (byKey MapOfContentRow.name MapOfContentRow.id)
      (fun _ _ hsame => (byKey_eq_eq hsame).2) hperm.mapsOfContent
      (injective_of_nodup (hkeyed.consistent.distinct .mapsOfContent)) _)

theorem listLabelMappings : first.listLabelMappings = second.listLabelMappings := by
  funext profileId
  exact congrArg (List.map LabelMappingRow.toDefinition)
    (ordered_perm_filter
      (compareLex (compareOn LabelMappingRow.priority) (byKey LabelMappingRow.label LabelMappingRow.id))
      (fun _ _ hsame => (byKey_eq_eq (compareLex_eq_eq.mp hsame).2).2) hperm.labelMappings
      (injective_of_nodup (hkeyed.consistent.distinct .labelMappings)) _)

theorem listIgnoreEntries : first.listIgnoreEntries = second.listIgnoreEntries := by
  funext profileId
  exact congrArg (List.map IgnoreEntryRow.toDefinition)
    (ordered_perm_filter (byKey IgnoreEntryRow.term IgnoreEntryRow.id)
      (fun _ _ hsame => (byKey_eq_eq hsame).2) hperm.ignoreEntries
      (injective_of_nodup (hkeyed.consistent.distinct .ignoreEntries)) _)

/-- Calls that read get the same from stores with the same rows. -/
theorem run_eq {call : Call} (hcall : call.isReading = true) :
    (first.run call).1 = (second.run call).1 := by
  cases call <;> try cases hcall
  all_goals
    simp only [run, hperm.maxNumber?, hperm.blueprint? hkeyed, hperm.version? hkeyed,
      hperm.profile? hkeyed, hperm.listBlueprints hkeyed, hperm.listVersions hkeyed,
      hperm.listEntityTypes hkeyed, hperm.listFields hkeyed, hperm.listRelationshipTypes hkeyed,
      hperm.listAttributes hkeyed, hperm.listViewTemplates hkeyed, hperm.listMapsOfContent hkeyed,
      hperm.listLabelMappings hkeyed, hperm.listIgnoreEntries hkeyed]

theorem content_eq (versionId : String) : first.content versionId = second.content versionId := by
  have htypes : first.typeContent = second.typeContent := by
    funext type
    rw [typeContent, typeContent, hperm.listFields hkeyed]
  have hprofile : first.profileContent = second.profileContent := by
    funext profile
    rw [profileContent, profileContent, hperm.listLabelMappings hkeyed,
      hperm.listIgnoreEntries hkeyed]
  simp only [content, htypes, hprofile, hperm.listEntityTypes hkeyed,
    hperm.listRelationshipTypes hkeyed, hperm.listAttributes hkeyed, hperm.listViewTemplates hkeyed,
    hperm.listMapsOfContent hkeyed, hperm.profile? hkeyed]

theorem compiled_eq (maxDepth : UInt64) (versionId : String) :
    first.compiled maxDepth versionId = second.compiled maxDepth versionId := by
  simp only [compiled, hperm.version? hkeyed, hperm.blueprint? hkeyed, hperm.content_eq hkeyed]

end Perm

/-! ### Any order of writes -/

/-- Calls that each write one row under a new id, in one order and in another one: whatever is read
from the store afterwards is the same, and so is every artifact. -/
theorem runAll_perm (hkeyed : store.IsKeyed) (hperm : writes.Perm others)
    (hdistinct : (writes.map (·.id)).Nodup) (hnew : ∀ write ∈ writes, write.id ∉ store.ids)
    (hfirst : store.runAll (writes.map (·.call)) = some first)
    (hsecond : store.runAll (others.map (·.call)) = some second) :
    (∀ call : Call, call.isReading = true → (first.run call).1 = (second.run call).1) ∧
      ∀ (world : World) (agent : Agent) maxDepth limit versionId, world.IsServing →
        ({ world with store := first }.perform agent
            (Operation.compile maxDepth limit versionId)).1 =
          ({ world with store := second }.perform agent
            (Operation.compile maxDepth limit versionId)).1 := by
  rw [runAll_calls] at hfirst hsecond
  have hsame : first.Perm second := by
    rw [foldl_added_of_new hdistinct hnew hfirst,
      foldl_added_of_new ((hperm.map _).nodup_iff.mp hdistinct)
        (fun write hwrite => hnew write (hperm.mem_iff.mpr hwrite)) hsecond]
    exact perm_foldl_added hperm store
  have hkeyed' : first.IsKeyed := hkeyed.writeAll hfirst
  refine ⟨fun call hcall => hsame.run_eq hkeyed' hcall, fun world agent maxDepth limit versionId
    hserving => ?_⟩
  have hyields : ∀ store : Store, ({ world with store }.perform agent
      (Operation.compile maxDepth limit versionId)).1 = store.compiled maxDepth versionId :=
    fun store => congrArg Prod.fst
      (@World.yields_compile { world with store } agent
        ⟨hserving.undisturbed, hserving.isOpen, hserving.isWritable⟩ maxDepth limit versionId)
  rw [hyields, hyields, hsame.compiled_eq hkeyed']

/-- A version with two types, which may be written in any order, and a field of the first one. -/
def plotted (first second : String) : List Write :=
  [.blueprint (.new "b" "Novel" .epoch), .version (.draft "v" "b" 1 .epoch),
    .definition (.entityType (.new first "v" .event)),
    .definition (.entityType (.new second "v" .event)), .definition (.field (.new "f" "t" "name" .text))]

theorem runAll_perm_plotted :
    ∃ first second, ({} : Store).runAll ((plotted "t" "u").map (·.call)) = some first ∧
      ({} : Store).runAll ((plotted "u" "t").map (·.call)) = some second ∧
      ∀ call : Call, call.isReading = true → (first.run call).1 = (second.run call).1 := by
  have hperm : (plotted "t" "u").Perm (plotted "u" "t") := .cons _ (.cons _ (.swap _ _ _))
  have hdistinct : ((plotted "t" "u").map (·.id)).Nodup := by decide
  obtain ⟨first, hfirst⟩ : ∃ first, ({} : Store).runAll ((plotted "t" "u").map (·.call)) =
      some first := ⟨_, rfl⟩
  obtain ⟨second, hsecond⟩ : ∃ second, ({} : Store).runAll ((plotted "u" "t").map (·.call)) =
      some second := ⟨_, rfl⟩
  exact ⟨first, second, hfirst, hsecond, (runAll_perm IsReachable.empty.isKeyed hperm hdistinct
    (fun _ _ hmem => List.not_mem_nil hmem) hfirst hsecond).1⟩

end Store

end KnowledgeSchema
