import KnowledgeSchema.Database.Basic
import KnowledgeSchema.Proofs.Store.Soundness

/-!
# Constraints of tables

A table comes with its constraints, so a database of which only some tables were set up demands
less of its rows than a whole one. It has no rows where it has no table. Whatever a program may call
of a store while the tables for it are there is admitted, and once all tables are there their
constraints are those of a sound store.
-/

namespace KnowledgeSchema

namespace Store

variable {store after : Store} {table : Table}

/-- The ids of the rows in a table. -/
def idsIn (store : Store) : Table → List String
  | .blueprints => store.blueprints.map (·.id)
  | .versions => store.versions.map (·.id)
  | table => (store.keysIn table).map (·.1)

/-- What a table demands of its rows from the moment that it is there. -/
structure Obeys (store : Store) (table : Table) : Prop where
  distinct : (store.idsIn table).Nodup
  owned : ∀ key ∈ store.keysIn table, key.2 ∈ store.ownersIn table
  numbered : table = .versions →
    (store.versions.map fun row => (row.blueprintId, row.number)).Nodup ∧
      ∀ row ∈ store.versions, 0 < row.number ∧ row.blueprintId ∈ store.blueprints.map (·.id)
  single : table = .profiles → ((store.keysIn .profiles).map (·.2)).Nodup

theorem keysIn_eq_nil (hnone : store.idsIn table = []) : store.keysIn table = [] := by
  cases table with
  | blueprints | versions => rfl
  | _ => exact List.map_eq_nil_iff.mp hnone

theorem obeys_of_idsIn_eq_nil (hnone : store.idsIn table = []) : store.Obeys table where
  distinct := hnone ▸ List.nodup_nil
  owned key hkey := by
    rw [keysIn_eq_nil hnone] at hkey
    cases hkey
  numbered htable := by
    subst htable
    have hversions : store.versions = [] := List.map_eq_nil_iff.mp hnone
    rw [hversions]
    exact ⟨List.nodup_nil, fun row hrow => absurd hrow List.not_mem_nil⟩
  single htable := by
    subst htable
    rw [keysIn_eq_nil hnone]
    exact List.nodup_nil

/-- A store is sound when every table has what it demands. -/
theorem isLawful_iff_obeys : store.IsLawful ↔ ∀ table, store.Obeys table := by
  constructor
  · intro hlawful table
    refine ⟨?_, hlawful.consistent.owned table, fun _ => ⟨hlawful.numbered, fun row hrow => ?_⟩,
      fun _ => hlawful.consistent.single⟩
    · cases table with
      | blueprints => exact hlawful.blueprints
      | versions => exact hlawful.versions
      | _ => exact hlawful.consistent.distinct _
    · exact ⟨hlawful.positive row hrow, hlawful.belongs row hrow⟩
  · intro hobeys
    obtain ⟨hnumbered, hrows⟩ := (hobeys .versions).numbered rfl
    refine ⟨⟨⟨fun table => ?_, fun table => (hobeys table).owned, (hobeys .profiles).single rfl⟩,
      (hobeys .blueprints).distinct, (hobeys .versions).distinct⟩,
      fun row hrow => (hrows row hrow).2, fun row hrow => (hrows row hrow).1, hnumbered⟩
    have hdistinct := (hobeys table).distinct
    cases table with
    | blueprints | versions => exact List.nodup_nil
    | _ => exact hdistinct

end Store

/-! ### What a database admits -/

namespace Database

variable {db later : Database} {rows : Store}

/-- Whether a database can have certain rows. Nothing has them where there is no table for them. -/
structure Admits (db : Database) (rows : Store) : Prop where
  obeyed : ∀ table ∈ db.tables, rows.Obeys table
  absent : ∀ table ∉ db.tables, rows.idsIn table = []

theorem Admits.isLawful (hadmits : db.Admits rows) : rows.IsLawful := by
  refine Store.isLawful_iff_obeys.mpr fun table => ?_
  by_cases htable : table ∈ db.tables
  · exact hadmits.obeyed table htable
  · exact Store.obeys_of_idsIn_eq_nil (hadmits.absent table htable)

/-- More tables admit the rows that fewer do. -/
theorem Admits.mono (hadmits : db.Admits rows) (htables : db.tables ⊆ later.tables) :
    later.Admits rows where
  obeyed table _ := Store.isLawful_iff_obeys.mp hadmits.isLawful table
  absent table htable := hadmits.absent table fun hmem => htable (htables hmem)

/-- All tables together demand what a sound store has. -/
theorem admits_iff_isLawful (hall : ∀ table, table ∈ db.tables) :
    db.Admits rows ↔ rows.IsLawful :=
  ⟨Admits.isLawful, fun hlawful =>
    ⟨fun table _ => Store.isLawful_iff_obeys.mp hlawful table, fun table hnone =>
      absurd (hall table) hnone⟩⟩

end Database

/-! ### Calls while tables are missing -/

def Write.table : Write → Table
  | blueprint _ => .blueprints
  | version _ => .versions
  | definition each => each.table

/-- The tables whose rows a call may change. -/
def Store.Call.tables : Store.Call → List Table
  | .updateStatus .. => [.versions]
  | call => call.writes.map Write.table

namespace Store

variable {store after : Store} {table : Table}

theorem idsIn_write {write : Write} (hwrite : store.write write = .ok after)
    (htable : table ≠ write.table) : after.idsIn table = store.idsIn table := by
  cases write with
  | blueprint blueprint =>
    cases hwrite
    cases table with
    | blueprints => exact absurd rfl htable
    | _ => rfl
  | version version =>
    obtain ⟨-, -, rfl⟩ := insertVersion_eq_ok hwrite
    cases table with
    | versions => exact absurd rfl htable
    | _ => rfl
  | definition definition =>
    have hkeys : after.keysIn table = store.keysIn table := by
      rcases keysIn_save hwrite with hsame | hadds
      · rw [hsame]
      · exact hadds.keys ▸ Function.update_of_ne htable _ _
    cases table with
    | blueprints => exact congrArg (List.map (·.id)) (blueprints_save hwrite)
    | versions => exact congrArg (List.map (·.id)) (versions_save hwrite)
    | _ => exact congrArg (List.map (·.1)) hkeys

theorem idsIn_run {call : Call} (htable : table ∉ call.tables) :
    (store.run call).2.idsIn table = store.idsIn table := by
  rcases run_eq_or store call with hsame | hwrites | ⟨id, expected, status, publishedAt, hafter⟩
  · rw [hsame]
  · refine @writeAll_invariant _ _ (fun each => each.idsIn table = store.idsIn table)
      (fun write => table ≠ write.table)
      (fun hsame hother hwrite => (idsIn_write hwrite hother).trans hsame) _ rfl
      (fun write hmem heq => htable ?_) hwrites
    cases call with
    | updateStatus => cases hmem
    | _ => exact heq ▸ List.mem_map_of_mem hmem
  · rw [hafter]
    cases table with
    | versions => exact ids_updateStatus store id expected status publishedAt
    | _ => rfl

end Store

/-- A database admits what a call makes of its rows, if the tables for the call are there. -/
theorem Database.Admits.run {db : Database} (hadmits : db.Admits db.store) {call : Store.Call}
    (htables : ∀ table ∈ call.tables, table ∈ db.tables) : db.Admits (db.store.run call).2 where
  obeyed table _ := Store.isLawful_iff_obeys.mp (hadmits.isLawful.run call).1 table
  absent table hnone := by
    rw [Store.idsIn_run fun hmem => hnone (htables table hmem)]
    exact hadmits.absent table hnone

end KnowledgeSchema
