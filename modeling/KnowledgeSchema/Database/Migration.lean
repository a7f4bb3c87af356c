import KnowledgeSchema.Database.Basic

/-!
# Migrations

The numbered scripts that bring a database up to date. A script counts as done when its number is
recorded, which is its last step, and any of its steps may be taken again: a run that was cut off
is made good by the next one.
-/

namespace KnowledgeSchema

structure Migration where
  number : Int64
  script : List SetUp

namespace Migration

/-- The steps of a migration, of which the last one records it. -/
def steps (migration : Migration) : List SetUp :=
  migration.script ++ [.record migration.number]

/-- Blueprints, versions, and the types of entities and relationships. -/
def core : Migration where
  number := 1
  script :=
    [.table .blueprints,
      .index ⟨.blueprints, "name"⟩,
      .table .versions,
      .index ⟨.versions, "blueprint_id"⟩,
      .index ⟨.versions, "status"⟩,
      .table .entityTypes,
      .index ⟨.entityTypes, "version_id"⟩,
      .table .fields,
      .index ⟨.fields, "entity_type_id"⟩,
      .table .relationshipTypes,
      .index ⟨.relationshipTypes, "version_id"⟩,
      .table .attributes,
      .index ⟨.attributes, "relationship_type_id"⟩]

/-- Views, maps of content and extraction profiles. -/
def presentation : Migration where
  number := 2
  script :=
    [.table .viewTemplates,
      .index ⟨.viewTemplates, "version_id"⟩,
      .table .mapsOfContent,
      .index ⟨.mapsOfContent, "version_id"⟩,
      .table .profiles,
      .table .labelMappings,
      .index ⟨.labelMappings, "profile_id"⟩,
      .table .ignoreEntries,
      .index ⟨.ignoreEntries, "profile_id"⟩]

/-- In the order of their numbers. -/
def all : List Migration :=
  [core, presentation]

/-- The number of the latest migration. -/
def target : Int :=
  2

/-- What is left to do where the highest number recorded is `current`. -/
def pending (current : Int) : List SetUp :=
  (all.filter fun migration => current < migration.number.toInt).flatMap steps

end Migration

structure MigrationStatus where
  current : Int
  target : Int
  needsMigration : Bool

namespace Database

/-- Brings a database up to date. One that is ahead stays as it is. -/
def migrate (db : Database) : Except Flaw Unit × Database :=
  let db := db.keepRecord
  match db.current with
  | .ok current => setUpAll (Migration.pending current) db
  | .error flaw => (.error flaw, db)

def migrationStatus (db : Database) : Except Flaw MigrationStatus := do
  let current ← db.current
  .ok { current, target := Migration.target, needsMigration := current < Migration.target }

end Database

end KnowledgeSchema
