import KnowledgeSchema.Database.Migration
import KnowledgeSchema.Proofs.Failing.Mishaps

/-!
# What a store never loses

The constraints of a store hold after any calls, whatever they are given and whether they succeed,
and what a row is known by stays as it was when the row came in. Every write keeps both, so every
call does, and so does every run of calls.
-/

namespace KnowledgeSchema

namespace Store

variable {store between after : Store}

/-! ### What stays of rows -/

/-- What stays of blueprints. -/
def fixedBlueprints (store : Store) : List (String × String) :=
  store.blueprints.map fun row => (row.id, row.createdAt)

/-- What stays of versions. -/
def fixedVersions (store : Store) : List (String × String × Int64 × Option String × String) :=
  store.versions.map fun row => (row.id, row.blueprintId, row.number, row.notes, row.createdAt)

/-- A later store has the rows of an earlier one, with what stays of them, and may have more. Of
definitions their ids and owners stay. -/
structure Keeps (after store : Store) : Prop where
  blueprints : store.fixedBlueprints <+: after.fixedBlueprints
  versions : store.fixedVersions <+: after.fixedVersions
  definitions : ∀ table, store.keysIn table <+: after.keysIn table

theorem Keeps.refl (store : Store) : store.Keeps store :=
  ⟨List.prefix_rfl, List.prefix_rfl, fun _ => List.prefix_rfl⟩

theorem Keeps.trans (hafter : after.Keeps between) (hbetween : between.Keeps store) :
    after.Keeps store where
  blueprints := hbetween.blueprints.trans hafter.blueprints
  versions := hbetween.versions.trans hafter.versions
  definitions table := (hbetween.definitions table).trans (hafter.definitions table)

theorem Keeps.ids_subset (hkeeps : after.Keeps store) :
    store.blueprints.map (·.id) ⊆ after.blueprints.map (·.id) := by
  have hids := (hkeeps.blueprints.map (·.1)).subset
  rwa [fixedBlueprints, fixedBlueprints, List.map_map, List.map_map] at hids

theorem keeps_write {write : Write} (hwrite : store.write write = .ok after) :
    after.Keeps store := by
  cases write with
  | blueprint blueprint =>
    cases hwrite
    refine ⟨?_, List.prefix_rfl, fun table => by cases table <;> exact List.prefix_rfl⟩
    rcases keys_putRow blueprint.toRow (fun old new => { new with createdAt := old.createdAt })
      BlueprintRow.id BlueprintRow.createdAt (fun _ _ => rfl) (fun _ _ => rfl) store.blueprints
      with hsame | ⟨-, hadded⟩
    · exact ⟨[], (List.append_nil _).trans hsame.symm⟩
    · exact ⟨_, hadded.symm⟩
  | version version =>
    obtain ⟨-, -, rfl⟩ := insertVersion_eq_ok hwrite
    refine ⟨List.prefix_rfl, ?_, fun table => by cases table <;> exact List.prefix_rfl⟩
    rw [fixedVersions, fixedVersions, List.map_append]
    exact List.prefix_append _ _
  | definition definition =>
    refine ⟨?_, ?_, fun table => ?_⟩
    · rw [fixedBlueprints, fixedBlueprints, blueprints_save hwrite]
    · rw [fixedVersions, fixedVersions, versions_save hwrite]
    · rcases keysIn_save hwrite with hsame | hadds
      · rw [hsame]
      · rw [hadds.keys]
        by_cases htable : table = definition.table
        · subst htable
          rw [Function.update_self]
          exact List.prefix_append _ _
        · rw [Function.update_of_ne htable]

theorem fixedVersions_updateStatus (store : Store) (id : String) (expected status : Status)
    (publishedAt : Option Timestamp) :
    (store.updateStatus id expected status publishedAt).1.fixedVersions = store.fixedVersions := by
  rw [fixedVersions, fixedVersions, updateStatus, List.map_map]
  refine List.map_congr_left fun row _ => ?_
  rw [Function.comp_apply]
  split <;> rfl

theorem keeps_updateStatus (store : Store) (id : String) (expected status : Status)
    (publishedAt : Option Timestamp) :
    (store.updateStatus id expected status publishedAt).1.Keeps store where
  blueprints := List.prefix_rfl
  versions := by rw [fixedVersions_updateStatus]
  definitions table := by cases table <;> exact List.prefix_rfl

/-! ### Constraints -/

/-- What the tables of a store demand of their rows: ids that are distinct, owners that are there, one
profile for a version, and numbers from one on that are distinct within a blueprint. -/
structure IsLawful (store : Store) : Prop extends store.IsKeyed where
  belongs : ∀ row ∈ store.versions, row.blueprintId ∈ store.blueprints.map (·.id)
  positive : ∀ row ∈ store.versions, 0 < row.number
  numbered : (store.versions.map fun row => (row.blueprintId, row.number)).Nodup

theorem isLawful_empty : IsLawful {} where
  toIsKeyed := IsReachable.empty.isKeyed
  belongs _ hrow := by cases hrow
  positive _ hrow := by cases hrow
  numbered := List.nodup_nil

/-- What is demanded of versions is demanded of what stays of them. -/
theorem IsLawful.of_fixedVersions (hlawful : store.IsLawful) (hkeyed : after.IsKeyed)
    (hkeeps : after.Keeps store) (hfixed : after.fixedVersions = store.fixedVersions) :
    after.IsLawful := by
  have hold : ∀ row ∈ after.versions, ∃ old ∈ store.versions,
      old.blueprintId = row.blueprintId ∧ old.number = row.number := by
    intro row hrow
    have hmem : (row.id, row.blueprintId, row.number, row.notes, row.createdAt) ∈
        store.fixedVersions := hfixed ▸ List.mem_map_of_mem hrow
    obtain ⟨old, hold, hsame⟩ := List.mem_map.mp hmem
    simp only [Prod.mk.injEq] at hsame
    exact ⟨old, hold, hsame.2.1, hsame.2.2.1⟩
  refine ⟨hkeyed, fun row hrow => ?_, fun row hrow => ?_, ?_⟩
  · obtain ⟨old, hmem, hblueprint, -⟩ := hold row hrow
    exact hblueprint ▸ hkeeps.ids_subset (hlawful.belongs old hmem)
  · obtain ⟨old, hmem, -, hnumber⟩ := hold row hrow
    exact hnumber ▸ hlawful.positive old hmem
  · have hnumbers := congrArg (List.map fun key => (key.2.1, key.2.2.1)) hfixed
    simp only [fixedVersions, List.map_map] at hnumbers
    exact hnumbers.symm ▸ hlawful.numbered

theorem mem_blueprints_of_insertVersion {version : Version}
    (hinsert : store.insertVersion version = .ok after) :
    version.blueprintId ∈ store.blueprints.map (·.id) := by
  rw [insertVersion] at hinsert
  split_ifs at hinsert with hnumber htaken hblueprint
  obtain ⟨row, hrow, hid⟩ := List.any_eq_true.mp hblueprint
  exact List.mem_map.mpr ⟨row, hrow, beq_iff_eq.mp hid⟩

theorem IsLawful.inserted (hlawful : store.IsLawful) {version : Version}
    (hinsert : store.insertVersion version = .ok after) : after.IsLawful := by
  have hkeyed : after.IsKeyed := @IsKeyed.write _ _ hlawful.toIsKeyed (.version version) hinsert
  have hblueprint := mem_blueprints_of_insertVersion hinsert
  obtain ⟨hpositive, htaken, rfl⟩ := insertVersion_eq_ok hinsert
  refine ⟨hkeyed,
    List.forall_mem_append.mpr ⟨hlawful.belongs, List.forall_mem_singleton.mpr hblueprint⟩,
    List.forall_mem_append.mpr ⟨hlawful.positive, List.forall_mem_singleton.mpr hpositive⟩, ?_⟩
  · rw [List.map_append]
    refine List.Nodup.append hlawful.numbered (List.nodup_singleton _) ?_
    refine List.disjoint_singleton.mpr fun hmem => ?_
    obtain ⟨row, hrow, hsame⟩ := List.mem_map.mp hmem
    obtain ⟨hof, hnumber⟩ := Prod.mk.inj hsame
    exact number_ne_of_isTaken htaken hrow hof hnumber

theorem IsLawful.write (hlawful : store.IsLawful) {write : Write}
    (hwrite : store.write write = .ok after) : after.IsLawful := by
  cases write with
  | version version => exact hlawful.inserted hwrite
  | blueprint blueprint =>
    refine hlawful.of_fixedVersions (hlawful.toIsKeyed.write hwrite) (keeps_write hwrite) ?_
    cases hwrite
    rfl
  | definition definition =>
    refine hlawful.of_fixedVersions (hlawful.toIsKeyed.write hwrite) (keeps_write hwrite) ?_
    rw [fixedVersions, versions_save hwrite, fixedVersions]

theorem IsLawful.updateStatus (hlawful : store.IsLawful) (id : String) (expected status : Status)
    (publishedAt : Option Timestamp) :
    (store.updateStatus id expected status publishedAt).1.IsLawful := by
  refine hlawful.of_fixedVersions ⟨?_, hlawful.blueprints, ?_⟩ (keeps_updateStatus ..)
    (fixedVersions_updateStatus ..)
  · refine hlawful.consistent.congr ?_ (keysIn_congr rfl)
    rw [ids_updateStatus]
    exact List.Subset.refl _
  · rw [ids_updateStatus]
    exact hlawful.versions

/-! ### Calls -/

/-- A sound store stays sound under a call, and the call keeps what stays. -/
theorem IsLawful.run (hlawful : store.IsLawful) (call : Call) :
    (store.run call).2.IsLawful ∧ (store.run call).2.Keeps store := by
  rcases run_eq_or store call with hsame | hwrites | ⟨id, expected, status, publishedAt, hafter⟩
  · rw [hsame]
    exact ⟨hlawful, .refl store⟩
  · refine @writeAll_invariant _ _ (fun each => each.IsLawful ∧ each.Keeps store) (fun _ => True)
      (fun hheld _ hwrite => ?_) _ ⟨hlawful, .refl store⟩ (fun _ _ => trivial) hwrites
    exact ⟨hheld.1.write hwrite, (keeps_write hwrite).trans hheld.2⟩
  · rw [hafter]
    exact ⟨hlawful.updateStatus .., keeps_updateStatus ..⟩

theorem IsLawful.runUnder (hlawful : store.IsLawful) (mishap : Mishap) (call : Call) :
    (store.runUnder mishap call).2.IsLawful ∧ (store.runUnder mishap call).2.Keeps store := by
  cases houtcome : (store.runUnder mishap call).1 with
  | ok value =>
    rw [runUnder_eq_run houtcome]
    exact hlawful.run call
  | error failure =>
    rw [runUnder_of_error houtcome]
    exact ⟨hlawful, .refl store⟩

/-! ### Runs -/

/-- The store after calls, each with what goes wrong with it. -/
def runsUnder (store : Store) (calls : List (Mishap × Call)) : Store :=
  calls.foldl (fun store each => (store.runUnder each.1 each.2).2) store

theorem runsUnder_append (store : Store) (earlier later : List (Mishap × Call)) :
    store.runsUnder (earlier ++ later) = (store.runsUnder earlier).runsUnder later :=
  List.foldl_append

theorem IsLawful.runsUnder (hlawful : store.IsLawful) (calls : List (Mishap × Call)) :
    (store.runsUnder calls).IsLawful ∧ (store.runsUnder calls).Keeps store := by
  induction calls generalizing store with
  | nil => exact ⟨hlawful, .refl store⟩
  | cons each rest ih =>
    obtain ⟨hbetween, hkeeps⟩ := hlawful.runUnder each.1 each.2
    obtain ⟨hafter, hkept⟩ := ih hbetween
    exact ⟨hafter, hkept.trans hkeeps⟩

end Store

/-- An empty database can be brought up to date. Whatever calls are made of it then, and however they
go, its store is sound at every moment, and at no later moment has it lost what stays of a row. -/
theorem Database.isLawful_runsUnder :
    ∃ db, migrate {} = (.ok (), db) ∧ ∀ earlier later : List (Mishap × Store.Call),
      (db.store.runsUnder (earlier ++ later)).IsLawful ∧
        (db.store.runsUnder (earlier ++ later)).Keeps (db.store.runsUnder earlier) := by
  refine ⟨(migrate {}).2, rfl, fun earlier later => ?_⟩
  have hearlier := (Store.isLawful_empty.runsUnder earlier).1
  rw [Store.runsUnder_append]
  exact hearlier.runsUnder later

end KnowledgeSchema
