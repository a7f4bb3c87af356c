import KnowledgeSchema.Store.Row

/-!
# Stores

The rows of a store and the single writes to it. A row belongs to an owner, which has to be there
when the row is added, and which it keeps when it is written again.
-/

namespace KnowledgeSchema

structure Store where
  blueprints : List BlueprintRow := []
  versions : List VersionRow := []
  entityTypes : List EntityTypeRow := []
  fields : List FieldRow := []
  relationshipTypes : List RelationshipTypeRow := []
  attributes : List AttributeRow := []
  viewTemplates : List ViewTemplateRow := []
  mapsOfContent : List MapOfContentRow := []
  profiles : List ProfileRow := []
  labelMappings : List LabelMappingRow := []
  ignoreEntries : List IgnoreEntryRow := []

/-- Puts a row, merged with the one that has its id, in the place of that one, or at the end. -/
def putRow {ρ : Type} (id : ρ → String) (merge : ρ → ρ → ρ) (row : ρ) (rows : List ρ) : List ρ :=
  if rows.any (id · == id row) then
    rows.map fun old => if id old == id row then merge old row else old
  else rows ++ [row]

namespace Store

def hasBlueprint (store : Store) (id : String) : Bool :=
  store.blueprints.any (·.id == id)

def hasVersion (store : Store) (id : String) : Bool :=
  store.versions.any (·.id == id)

def hasEntityType (store : Store) (id : String) : Bool :=
  store.entityTypes.any (·.id == id)

def hasRelationshipType (store : Store) (id : String) : Bool :=
  store.relationshipTypes.any (·.id == id)

def hasProfile (store : Store) (id : String) : Bool :=
  store.profiles.any (·.id == id)

/-! ## Single writes -/

def saveBlueprint (store : Store) (blueprint : Blueprint) : Store :=
  { store with
    blueprints := putRow (·.id) (fun old new => { new with createdAt := old.createdAt })
      blueprint.toRow store.blueprints }

/-- Whether the id of a version, or its number within its blueprint, is taken. -/
def isTaken (store : Store) (version : Version) : Bool :=
  store.versions.any fun row =>
    row.id == version.id ||
      (row.blueprintId == version.blueprintId && row.number == version.number)

def insertVersion (store : Store) (version : Version) : Except Failure Store :=
  if version.number ≤ 0 then .error .storeUnavailable
  else if store.isTaken version then
    .error (.versionConflict version.blueprintId version.number)
  else if store.hasBlueprint version.blueprintId then
    .ok { store with versions := store.versions ++ [version.toRow] }
  else .error .storeUnavailable

/-- A write that is refused unless the row is there or its owner is. -/
def guarded (allowed : Bool) (store : Store) : Except Failure Store :=
  if allowed then .ok store else .error .storeUnavailable

def saveEntityType (store : Store) (type : EntityType) : Except Failure Store :=
  guarded (store.hasEntityType type.id || store.hasVersion type.versionId)
    { store with
      entityTypes := putRow (·.id) (fun old new => { new with versionId := old.versionId })
        type.toRow store.entityTypes }

def saveField (store : Store) (field : Field) : Except Failure Store :=
  guarded (store.fields.any (·.id == field.id) || store.hasEntityType field.entityTypeId)
    { store with
      fields := putRow (·.id) (fun old new => { new with entityTypeId := old.entityTypeId })
        field.toRow store.fields }

def saveRelationshipType (store : Store) (type : RelationshipType) : Except Failure Store :=
  guarded (store.hasRelationshipType type.id || store.hasVersion type.versionId)
    { store with
      relationshipTypes := putRow (·.id) (fun old new => { new with versionId := old.versionId })
        type.toRow store.relationshipTypes }

def saveAttribute (store : Store) (attr : RelationshipAttribute) : Except Failure Store :=
  guarded (store.attributes.any (·.id == attr.id) ||
      store.hasRelationshipType attr.relationshipTypeId)
    { store with
      attributes :=
        putRow (·.id) (fun old new => { new with relationshipTypeId := old.relationshipTypeId })
          attr.toRow store.attributes }

def saveViewTemplate (store : Store) (view : ViewTemplate) : Except Failure Store :=
  guarded (store.viewTemplates.any (·.id == view.id) || store.hasVersion view.versionId)
    { store with
      viewTemplates := putRow (·.id) (fun old new => { new with versionId := old.versionId })
        view.toRow store.viewTemplates }

def saveMapOfContent (store : Store) (map : MapOfContent) : Except Failure Store :=
  guarded (store.mapsOfContent.any (·.id == map.id) || store.hasVersion map.versionId)
    { store with
      mapsOfContent := putRow (·.id) (fun old new => { new with versionId := old.versionId })
        map.toRow store.mapsOfContent }

/-- A version has at most one profile. A threshold that is not a number would be no value at all in
its column, and is refused before anything else is looked at. -/
def saveProfile (store : Store) (profile : ExtractionProfile) : Except Failure Store :=
  if !profile.threshold.isNumber then .error .storeUnavailable
  else if !store.hasProfile profile.id && store.profiles.any (·.versionId == profile.versionId) then
    .error (.invalidInput (.secondProfile profile.versionId))
  else
    guarded (store.hasProfile profile.id || store.hasVersion profile.versionId)
      { store with
        profiles := putRow (·.id) (fun old new => { new with versionId := old.versionId })
          profile.toRow store.profiles }

def saveLabelMapping (store : Store) (mapping : LabelMapping) : Except Failure Store :=
  guarded (store.labelMappings.any (·.id == mapping.id) || store.hasProfile mapping.profileId)
    { store with
      labelMappings := putRow (·.id) (fun old new => { new with profileId := old.profileId })
        mapping.toRow store.labelMappings }

def saveIgnoreEntry (store : Store) (entry : IgnoreEntry) : Except Failure Store :=
  guarded (store.ignoreEntries.any (·.id == entry.id) || store.hasProfile entry.profileId)
    { store with
      ignoreEntries := putRow (·.id) (fun old new => { new with profileId := old.profileId })
        entry.toRow store.ignoreEntries }

def save (store : Store) : Definition → Except Failure Store
  | .entityType type => store.saveEntityType type
  | .field field => store.saveField field
  | .relationshipType type => store.saveRelationshipType type
  | .relationshipAttribute attr => store.saveAttribute attr
  | .viewTemplate view => store.saveViewTemplate view
  | .mapOfContent map => store.saveMapOfContent map
  | .profile profile => store.saveProfile profile
  | .labelMapping mapping => store.saveLabelMapping mapping
  | .ignoreEntry entry => store.saveIgnoreEntry entry

end Store

/-- A single write. -/
inductive Write where
  | blueprint (blueprint : Blueprint)
  | version (version : Version)
  | definition (definition : Definition)

namespace Store

def write (store : Store) : Write → Except Failure Store
  | .blueprint blueprint => .ok (store.saveBlueprint blueprint)
  | .version version => store.insertVersion version
  | .definition definition => store.save definition

/-- Writes that take effect together or not at all. -/
def writeAll (store : Store) (writes : List Write) : Except Failure Store :=
  writes.foldlM write store

/-! ## Statuses -/

/-- Changes the status of a version that still has the expected one. -/
def updateStatus (store : Store) (id : String) (expected status : Status)
    (publishedAt : Option Timestamp) : Store × Bool :=
  let matching (row : VersionRow) : Bool := row.id == id && row.status == expected
  ({ store with
      versions := store.versions.map fun row =>
        if matching row then
          { row with status, publishedAt := publishedAt.map Timestamp.storedText }
        else row },
    store.versions.any matching)

/-! ## Reads -/

/-- Rows in an order. -/
def ordered {ρ : Type} (order : ρ → ρ → Ordering) (rows : List ρ) : List ρ :=
  rows.mergeSort fun first second => (order first second).isLE

/-- The order by a key, and by id among equal keys. -/
def byKey {ρ κ : Type} [Ord κ] (key : ρ → κ) (id : ρ → String) : ρ → ρ → Ordering :=
  compareLex (compareOn key) (compareOn id)

def blueprint? (store : Store) (id : String) : Except Failure (Option Blueprint) :=
  (store.blueprints.find? (·.id == id)).mapM BlueprintRow.toBlueprint

def listBlueprints (store : Store) : Except Failure (List Blueprint) :=
  (ordered (byKey (·.name) (·.id)) store.blueprints).mapM BlueprintRow.toBlueprint

def version? (store : Store) (id : String) : Except Failure (Option Version) :=
  (store.versions.find? (·.id == id)).mapM VersionRow.toVersion

def versionsOf (store : Store) (blueprintId : String) : List VersionRow :=
  store.versions.filter (·.blueprintId == blueprintId)

/-- Oldest first. -/
def listVersions (store : Store) (blueprintId : String) : Except Failure (List Version) :=
  (ordered (byKey (·.number) (·.id)) (store.versionsOf blueprintId)).mapM VersionRow.toVersion

def maxNumber? (store : Store) (blueprintId : String) : Option Int64 :=
  ((store.versionsOf blueprintId).map (·.number)).max?

def listEntityTypes (store : Store) (versionId : String) : List EntityType :=
  (ordered (byKey (·.kind) (·.id)) (store.entityTypes.filter (·.versionId == versionId))).map
    EntityTypeRow.toDefinition

def listFields (store : Store) (entityTypeId : String) : Except Failure (List Field) :=
  let rows := store.fields.filter (·.entityTypeId == entityTypeId)
  (ordered (compareLex (compareOn (·.order)) (byKey (·.name) (·.id))) rows).mapM
    FieldRow.toDefinition

def listRelationshipTypes (store : Store) (versionId : String) : List RelationshipType :=
  (ordered (byKey (·.name) (·.id)) (store.relationshipTypes.filter (·.versionId == versionId))).map
    RelationshipTypeRow.toDefinition

def listAttributes (store : Store) (relationshipTypeId : String) : List RelationshipAttribute :=
  (ordered (byKey (·.name) (·.id))
    (store.attributes.filter (·.relationshipTypeId == relationshipTypeId))).map
    AttributeRow.toDefinition

def listViewTemplates (store : Store) (versionId : String) : Except Failure (List ViewTemplate) :=
  (ordered (byKey (·.name) (·.id)) (store.viewTemplates.filter (·.versionId == versionId))).mapM
    ViewTemplateRow.toDefinition

def listMapsOfContent (store : Store) (versionId : String) : Except Failure (List MapOfContent) :=
  (ordered (byKey (·.name) (·.id)) (store.mapsOfContent.filter (·.versionId == versionId))).mapM
    MapOfContentRow.toDefinition

def profile? (store : Store) (versionId : String) : Option ExtractionProfile :=
  (store.profiles.find? (·.versionId == versionId)).map ProfileRow.toDefinition

/-- The lowest priority first. -/
def listLabelMappings (store : Store) (profileId : String) : List LabelMapping :=
  let rows := store.labelMappings.filter (·.profileId == profileId)
  (ordered (compareLex (compareOn (·.priority)) (byKey (·.label) (·.id))) rows).map
    LabelMappingRow.toDefinition

def listIgnoreEntries (store : Store) (profileId : String) : List IgnoreEntry :=
  (ordered (byKey (·.term) (·.id)) (store.ignoreEntries.filter (·.profileId == profileId))).map
    IgnoreEntryRow.toDefinition

end Store

end KnowledgeSchema
