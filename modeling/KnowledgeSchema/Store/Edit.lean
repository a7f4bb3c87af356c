import KnowledgeSchema.Store.Basic

/-!
# Edits from outside

What an administrator does to the rows of a store: overwriting a text column and deleting a row. An
edit that would leave a row without its owner, or two rows where there may be one, is refused.
-/

namespace KnowledgeSchema

namespace BlueprintRow

def columns : List String :=
  ["id", "name", "description", "tags", "created_at", "updated_at"]

def set? (row : BlueprintRow) (column value : String) : Option BlueprintRow :=
  match column with
  | "id" => some { row with id := value }
  | "name" => some { row with name := value }
  | "description" => some { row with description := some value }
  | "tags" => some { row with tags := value }
  | "created_at" => some { row with createdAt := value }
  | "updated_at" => some { row with updatedAt := value }
  | _ => none

end BlueprintRow

namespace VersionRow

def columns : List String :=
  ["id", "blueprint_id", "status", "notes", "created_at", "published_at"]

/-- A status is one of the known ones, by its exact name. -/
def set? (row : VersionRow) (column value : String) : Option VersionRow :=
  match column with
  | "id" => some { row with id := value }
  | "blueprint_id" => some { row with blueprintId := value }
  | "status" => (Status.known.lookup value).map fun status => { row with status }
  | "notes" => some { row with notes := some value }
  | "created_at" => some { row with createdAt := value }
  | "published_at" => some { row with publishedAt := some value }
  | _ => none

end VersionRow

namespace EntityTypeRow

def columns : List String :=
  ["id", "version_id", "entity_kind", "display_name", "description", "parent_type_id"]

def set? (row : EntityTypeRow) (column value : String) : Option EntityTypeRow :=
  match column with
  | "id" => some { row with id := value }
  | "version_id" => some { row with versionId := value }
  | "entity_kind" => some { row with kind := value }
  | "display_name" => some { row with displayName := value }
  | "description" => some { row with description := some value }
  | "parent_type_id" => some { row with parentId := some value }
  | _ => none

end EntityTypeRow

namespace FieldRow

def columns : List String :=
  ["id", "entity_type_id", "field_name", "display_label", "data_type", "default_value",
    "validation"]

def set? (row : FieldRow) (column value : String) : Option FieldRow :=
  match column with
  | "id" => some { row with id := value }
  | "entity_type_id" => some { row with entityTypeId := value }
  | "field_name" => some { row with name := value }
  | "display_label" => some { row with label := value }
  | "data_type" => some { row with dataType := value }
  | "default_value" => some { row with default := some value }
  | "validation" => some { row with validation := some value }
  | _ => none

end FieldRow

namespace RelationshipTypeRow

def columns : List String :=
  ["id", "version_id", "relationship_name", "display_label", "source_entity_kind",
    "target_entity_kind", "direction", "cardinality", "reverse_label"]

def set? (row : RelationshipTypeRow) (column value : String) : Option RelationshipTypeRow :=
  match column with
  | "id" => some { row with id := value }
  | "version_id" => some { row with versionId := value }
  | "relationship_name" => some { row with name := value }
  | "display_label" => some { row with label := value }
  | "source_entity_kind" => some { row with source := value }
  | "target_entity_kind" => some { row with target := value }
  | "direction" => (Direction.known.lookup value).map fun direction => { row with direction }
  | "cardinality" =>
    (Cardinality.known.lookup value).map fun cardinality => { row with cardinality }
  | "reverse_label" => some { row with reverseLabel := some value }
  | _ => none

end RelationshipTypeRow

namespace AttributeRow

def columns : List String :=
  ["id", "relationship_type_id", "attribute_name", "data_type"]

def set? (row : AttributeRow) (column value : String) : Option AttributeRow :=
  match column with
  | "id" => some { row with id := value }
  | "relationship_type_id" => some { row with relationshipTypeId := value }
  | "attribute_name" => some { row with name := value }
  | "data_type" => some { row with dataType := value }
  | _ => none

end AttributeRow

namespace ViewTemplateRow

def columns : List String :=
  ["id", "version_id", "name", "entity_kind", "config"]

def set? (row : ViewTemplateRow) (column value : String) : Option ViewTemplateRow :=
  match column with
  | "id" => some { row with id := value }
  | "version_id" => some { row with versionId := value }
  | "name" => some { row with name := value }
  | "entity_kind" => some { row with kind := some value }
  | "config" => some { row with config := value }
  | _ => none

end ViewTemplateRow

namespace MapOfContentRow

def columns : List String :=
  ["id", "version_id", "name", "entity_kinds", "config"]

def set? (row : MapOfContentRow) (column value : String) : Option MapOfContentRow :=
  match column with
  | "id" => some { row with id := value }
  | "version_id" => some { row with versionId := value }
  | "name" => some { row with name := value }
  | "entity_kinds" => some { row with kinds := value }
  | "config" => some { row with config := value }
  | _ => none

end MapOfContentRow

namespace ProfileRow

def columns : List String :=
  ["id", "version_id", "name"]

def set? (row : ProfileRow) (column value : String) : Option ProfileRow :=
  match column with
  | "id" => some { row with id := value }
  | "version_id" => some { row with versionId := value }
  | "name" => some { row with name := value }
  | _ => none

end ProfileRow

namespace LabelMappingRow

def columns : List String :=
  ["id", "profile_id", "ner_label", "entity_kind"]

def set? (row : LabelMappingRow) (column value : String) : Option LabelMappingRow :=
  match column with
  | "id" => some { row with id := value }
  | "profile_id" => some { row with profileId := value }
  | "ner_label" => some { row with label := value }
  | "entity_kind" => some { row with kind := value }
  | _ => none

end LabelMappingRow

namespace IgnoreEntryRow

def columns : List String :=
  ["id", "profile_id", "term"]

def set? (row : IgnoreEntryRow) (column value : String) : Option IgnoreEntryRow :=
  match column with
  | "id" => some { row with id := value }
  | "profile_id" => some { row with profileId := value }
  | "term" => some { row with term := value }
  | _ => none

end IgnoreEntryRow

/-! ## Consistency -/

/-- Whether the keys of rows are distinct. -/
def distinct {ρ κ : Type} [BEq κ] (key : ρ → κ) : List ρ → Bool
  | [] => true
  | row :: rest => !rest.any (fun other => key other == key row) && distinct key rest

namespace Store

/-- Whether ids, version numbers and owners of profiles are distinct. -/
def keysAreDistinct (store : Store) : Bool :=
  distinct (·.id) store.blueprints && distinct (·.id) store.versions &&
    distinct (fun row => (row.blueprintId, row.number)) store.versions &&
    distinct (·.id) store.entityTypes && distinct (·.id) store.fields &&
    distinct (·.id) store.relationshipTypes && distinct (·.id) store.attributes &&
    distinct (·.id) store.viewTemplates && distinct (·.id) store.mapsOfContent &&
    distinct (·.id) store.profiles && distinct (·.versionId) store.profiles &&
    distinct (·.id) store.labelMappings && distinct (·.id) store.ignoreEntries

/-- Whether the owner of every row is there. -/
def ownersAreThere (store : Store) : Bool :=
  store.versions.all (store.hasBlueprint ·.blueprintId) &&
    store.entityTypes.all (store.hasVersion ·.versionId) &&
    store.fields.all (store.hasEntityType ·.entityTypeId) &&
    store.relationshipTypes.all (store.hasVersion ·.versionId) &&
    store.attributes.all (store.hasRelationshipType ·.relationshipTypeId) &&
    store.viewTemplates.all (store.hasVersion ·.versionId) &&
    store.mapsOfContent.all (store.hasVersion ·.versionId) &&
    store.profiles.all (store.hasVersion ·.versionId) &&
    store.labelMappings.all (store.hasProfile ·.profileId) &&
    store.ignoreEntries.all (store.hasProfile ·.profileId)

def isConsistent (store : Store) : Bool :=
  store.keysAreDistinct && store.ownersAreThere

end Store

/-! ## Edits -/

/-- The tables of a store. -/
inductive Table where
  | blueprints
  | versions
  | entityTypes
  | fields
  | relationshipTypes
  | attributes
  | viewTemplates
  | mapsOfContent
  | profiles
  | labelMappings
  | ignoreEntries
deriving DecidableEq

namespace Table

def name : Table → String
  | blueprints => "blueprints"
  | versions => "blueprint_versions"
  | entityTypes => "entity_types"
  | fields => "field_defs"
  | relationshipTypes => "relationship_types"
  | attributes => "relationship_attributes"
  | viewTemplates => "view_templates"
  | mapsOfContent => "mocs"
  | profiles => "extraction_profiles"
  | labelMappings => "label_mappings"
  | ignoreEntries => "ignore_entries"

def all : List Table :=
  [blueprints, versions, entityTypes, fields, relationshipTypes, attributes, viewTemplates,
    mapsOfContent, profiles, labelMappings, ignoreEntries]

def ofName? (name : String) : Option Table :=
  all.find? (·.name == name)

end Table

/-- The rows with one column of one of them overwritten, and how many rows that were. -/
def setIn {ρ : Type} (columns : List String) (id : ρ → String) (set? : ρ → Option ρ)
    (column wanted : String) (rows : List ρ) : Except Failure (List ρ × Nat) :=
  if columns.contains column then
    match rows.mapM fun row => if id row == wanted then set? row else some row with
    | some after => .ok (after, (rows.filter (id · == wanted)).length)
    | none => .error .storeUnavailable
  else .error .storeUnavailable

namespace Store

/-- Overwrites a text column, whether the rest of the store allows it or not. -/
def overwrite (store : Store) (table : Table) (column id value : String) :
    Except Failure (Store × Nat) :=
  match table with
  | .blueprints => do
    let (rows, n) ← setIn BlueprintRow.columns (·.id) (·.set? column value) column id
      store.blueprints
    .ok ({ store with blueprints := rows }, n)
  | .versions => do
    let (rows, n) ← setIn VersionRow.columns (·.id) (·.set? column value) column id store.versions
    .ok ({ store with versions := rows }, n)
  | .entityTypes => do
    let (rows, n) ← setIn EntityTypeRow.columns (·.id) (·.set? column value) column id
      store.entityTypes
    .ok ({ store with entityTypes := rows }, n)
  | .fields => do
    let (rows, n) ← setIn FieldRow.columns (·.id) (·.set? column value) column id store.fields
    .ok ({ store with fields := rows }, n)
  | .relationshipTypes => do
    let (rows, n) ← setIn RelationshipTypeRow.columns (·.id) (·.set? column value) column id
      store.relationshipTypes
    .ok ({ store with relationshipTypes := rows }, n)
  | .attributes => do
    let (rows, n) ← setIn AttributeRow.columns (·.id) (·.set? column value) column id
      store.attributes
    .ok ({ store with attributes := rows }, n)
  | .viewTemplates => do
    let (rows, n) ← setIn ViewTemplateRow.columns (·.id) (·.set? column value) column id
      store.viewTemplates
    .ok ({ store with viewTemplates := rows }, n)
  | .mapsOfContent => do
    let (rows, n) ← setIn MapOfContentRow.columns (·.id) (·.set? column value) column id
      store.mapsOfContent
    .ok ({ store with mapsOfContent := rows }, n)
  | .profiles => do
    let (rows, n) ← setIn ProfileRow.columns (·.id) (·.set? column value) column id store.profiles
    .ok ({ store with profiles := rows }, n)
  | .labelMappings => do
    let (rows, n) ← setIn LabelMappingRow.columns (·.id) (·.set? column value) column id
      store.labelMappings
    .ok ({ store with labelMappings := rows }, n)
  | .ignoreEntries => do
    let (rows, n) ← setIn IgnoreEntryRow.columns (·.id) (·.set? column value) column id
      store.ignoreEntries
    .ok ({ store with ignoreEntries := rows }, n)

/-- Overwrites a text column of the row with an id. -/
def setColumn (store : Store) (table : Table) (column id value : String) :
    Except Failure (Store × Nat) := do
  let (after, n) ← store.overwrite table column id value
  if after.isConsistent then .ok (after, n) else .error .storeUnavailable

/-- Drops the rows whose owners are gone, from the owners down. -/
def dropOrphans (store : Store) : Store :=
  let store := { store with
    versions := store.versions.filter (store.hasBlueprint ·.blueprintId) }
  let store := { store with
    entityTypes := store.entityTypes.filter (store.hasVersion ·.versionId)
    relationshipTypes := store.relationshipTypes.filter (store.hasVersion ·.versionId)
    viewTemplates := store.viewTemplates.filter (store.hasVersion ·.versionId)
    mapsOfContent := store.mapsOfContent.filter (store.hasVersion ·.versionId)
    profiles := store.profiles.filter (store.hasVersion ·.versionId) }
  { store with
    fields := store.fields.filter (store.hasEntityType ·.entityTypeId)
    attributes := store.attributes.filter (store.hasRelationshipType ·.relationshipTypeId)
    labelMappings := store.labelMappings.filter (store.hasProfile ·.profileId)
    ignoreEntries := store.ignoreEntries.filter (store.hasProfile ·.profileId) }

/-- The store without a row, and whether the row was there. -/
def remove (store : Store) (table : Table) (id : String) : Store × Bool :=
  match table with
  | .blueprints =>
    ({ store with blueprints := store.blueprints.filter (·.id != id) }, store.hasBlueprint id)
  | .versions =>
    ({ store with versions := store.versions.filter (·.id != id) }, store.hasVersion id)
  | .entityTypes =>
    ({ store with entityTypes := store.entityTypes.filter (·.id != id) }, store.hasEntityType id)
  | .fields =>
    ({ store with fields := store.fields.filter (·.id != id) }, store.fields.any (·.id == id))
  | .relationshipTypes =>
    ({ store with relationshipTypes := store.relationshipTypes.filter (·.id != id) },
      store.hasRelationshipType id)
  | .attributes =>
    ({ store with attributes := store.attributes.filter (·.id != id) },
      store.attributes.any (·.id == id))
  | .viewTemplates =>
    ({ store with viewTemplates := store.viewTemplates.filter (·.id != id) },
      store.viewTemplates.any (·.id == id))
  | .mapsOfContent =>
    ({ store with mapsOfContent := store.mapsOfContent.filter (·.id != id) },
      store.mapsOfContent.any (·.id == id))
  | .profiles =>
    ({ store with profiles := store.profiles.filter (·.id != id) }, store.hasProfile id)
  | .labelMappings =>
    ({ store with labelMappings := store.labelMappings.filter (·.id != id) },
      store.labelMappings.any (·.id == id))
  | .ignoreEntries =>
    ({ store with ignoreEntries := store.ignoreEntries.filter (·.id != id) },
      store.ignoreEntries.any (·.id == id))

/-- Deletes a row and everything that it owns. The rows deleted count without what they owned. -/
def delete (store : Store) (table : Table) (id : String) : Store × Nat :=
  match store.remove table id with
  | (after, wasThere) => (after.dropOrphans, if wasThere then 1 else 0)

end Store

end KnowledgeSchema
