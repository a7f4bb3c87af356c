import KnowledgeSchema.Blueprint.Event
import KnowledgeSchema.Proofs.Program.Versions

/-!
# A ledger kept from events

What the events of a history say of the blueprints and versions that there are. It is put together
from the events alone, one after another, without a look at the store that they tell about. The
ledger of a store is what its rows say of the same.
-/

namespace KnowledgeSchema

structure VersionNote where
  id : String
  blueprintId : String
  number : Int64
  status : Status
deriving DecidableEq

/-- Blueprints by id and name, and versions, in the order in which they were created. -/
structure Ledger where
  blueprints : List (String × String) := []
  versions : List VersionNote := []
deriving DecidableEq

namespace Ledger

/-- A status changes only for a version that has the status before. -/
def enter (ledger : Ledger) : Event → Ledger
  | .blueprintCreated id name _ => { ledger with blueprints := ledger.blueprints ++ [(id, name)] }
  | .versionCreated blueprintId id number _ _ =>
    { ledger with versions := ledger.versions ++ [⟨id, blueprintId, number, .draft⟩] }
  | .statusChanged id before after _ =>
    { ledger with
      versions := ledger.versions.map fun note =>
        if note.id = id ∧ note.status = before then { note with status := after } else note }
  | .versionCompiled .. => ledger

def enterAll (ledger : Ledger) (events : List Event) : Ledger :=
  events.foldl enter ledger

/-- The ledger of a whole history. -/
def replay (events : List Event) : Ledger :=
  enterAll {} events

theorem enterAll_append (ledger : Ledger) (events others : List Event) :
    ledger.enterAll (events ++ others) = (ledger.enterAll events).enterAll others :=
  List.foldl_append

end Ledger

def VersionRow.note (row : VersionRow) : VersionNote where
  id := row.id
  blueprintId := row.blueprintId
  number := row.number
  status := row.status

namespace Store

/-- What the rows of a store say of its blueprints and versions. -/
def ledger (store : Store) : Ledger where
  blueprints := store.blueprints.map fun row => (row.id, row.name)
  versions := store.versions.map VersionRow.note

variable {store after : Store}

theorem ledger_congr (hblueprints : after.blueprints = store.blueprints)
    (hversions : after.versions = store.versions) : after.ledger = store.ledger := by
  rw [ledger, ledger, hblueprints, hversions]

theorem ledger_saveBlueprint {blueprint : Blueprint}
    (hunused : store.hasBlueprint blueprint.id = false) (time : Timestamp) :
    (store.saveBlueprint blueprint).ledger =
      store.ledger.enter (.blueprintCreated blueprint.id blueprint.name time) := by
  have hblueprints := blueprints_saveBlueprint hunused
  have hversions : (store.saveBlueprint blueprint).versions = store.versions := rfl
  simp [ledger, hblueprints, hversions, Ledger.enter, Blueprint.toRow]

theorem blueprints_inserted {version : Version} {set? : Option DefinitionSet}
    (hwrite : store.writeAll (version.writes set?) = .ok after) :
    after.blueprints = store.blueprints := by
  obtain ⟨between, hinsert, hrest⟩ := writeAll_cons.mp hwrite
  obtain ⟨-, -, rfl⟩ := insertVersion_eq_ok hinsert
  have hblueprints := blueprints_writeAll_definitions hrest
  exact hblueprints

/-- A version that is inserted, with definitions or without, is entered as a draft. -/
theorem ledger_inserted {version : Version} {set? : Option DefinitionSet}
    (hdraft : version.status = .draft)
    (hwrite : store.writeAll (version.writes set?) = .ok after) (forkedFrom : Option String)
    (time : Timestamp) :
    after.ledger = store.ledger.enter
      (.versionCreated version.blueprintId version.id version.number forkedFrom time) := by
  have hblueprints := blueprints_inserted hwrite
  obtain ⟨between, hinsert, hrest⟩ := writeAll_cons.mp hwrite
  obtain ⟨-, -, rfl⟩ := insertVersion_eq_ok hinsert
  have hversions := versions_writeAll_definitions hrest
  simp [ledger, hblueprints, hversions, Ledger.enter, VersionRow.note, Version.toRow, hdraft]

theorem ledger_updateStatus (store : Store) (id : String) (expected status : Status)
    (publishedAt : Option Timestamp) (time : Timestamp) :
    (store.updateStatus id expected status publishedAt).1.ledger =
      store.ledger.enter (.statusChanged id expected status time) := by
  simp only [ledger, updateStatus, Ledger.enter, List.map_map]
  congr 1
  apply List.map_congr_left
  intro row _
  by_cases hmatch : row.id = id ∧ row.status = expected
  · simp [hmatch, VersionRow.note]
  · simp [hmatch, VersionRow.note]

/-- A call that succeeds has written all that it had to write. -/
theorem writeAll_of_commit {writes : List Write} (hok : (store.commit writes).1 = .ok ()) :
    store.writeAll writes = .ok (store.commit writes).2 := by
  rcases store.commit_cases writes with ⟨_, hfailed⟩ | ⟨after, hwrite, hmade⟩
  · rw [hfailed] at hok
    cases hok
  · rw [hwrite, hmade]

/-- Definitions are not entered. -/
theorem ledger_saveAll {set : DefinitionSet} (hok : (store.run (.saveAll set)).1 = .ok ()) :
    (store.run (.saveAll set)).2.ledger = store.ledger ∧
      (store.run (.saveAll set)).2.blueprints = store.blueprints := by
  have hwrite := writeAll_of_commit hok
  have hblueprints := blueprints_writeAll_definitions hwrite
  exact ⟨ledger_congr hblueprints (versions_writeAll_definitions hwrite), hblueprints⟩

end Store

end KnowledgeSchema
