import KnowledgeSchema.Proofs.Store.Definitions

/-!
# Rows of any table

The rows of all tables of definitions as values of one type, so that what a save does to a table is
said once for all of them.
-/

namespace KnowledgeSchema

/-- A row of any of the tables of definitions. -/
inductive TableRow where
  | entityType (row : EntityTypeRow)
  | field (row : FieldRow)
  | relationshipType (row : RelationshipTypeRow)
  | relationshipAttribute (row : AttributeRow)
  | viewTemplate (row : ViewTemplateRow)
  | mapOfContent (row : MapOfContentRow)
  | profile (row : ProfileRow)
  | labelMapping (row : LabelMappingRow)
  | ignoreEntry (row : IgnoreEntryRow)

namespace TableRow

def table : TableRow → Table
  | entityType _ => .entityTypes
  | field _ => .fields
  | relationshipType _ => .relationshipTypes
  | relationshipAttribute _ => .attributes
  | viewTemplate _ => .viewTemplates
  | mapOfContent _ => .mapsOfContent
  | profile _ => .profiles
  | labelMapping _ => .labelMappings
  | ignoreEntry _ => .ignoreEntries

/-- An id with an owner. -/
def key : TableRow → String × String
  | entityType row => (row.id, row.versionId)
  | field row => (row.id, row.entityTypeId)
  | relationshipType row => (row.id, row.versionId)
  | relationshipAttribute row => (row.id, row.relationshipTypeId)
  | viewTemplate row => (row.id, row.versionId)
  | mapOfContent row => (row.id, row.versionId)
  | profile row => (row.id, row.versionId)
  | labelMapping row => (row.id, row.profileId)
  | ignoreEntry row => (row.id, row.profileId)

def withOwner (owner : String) : TableRow → TableRow
  | entityType row => .entityType { row with versionId := owner }
  | field row => .field { row with entityTypeId := owner }
  | relationshipType row => .relationshipType { row with versionId := owner }
  | relationshipAttribute row => .relationshipAttribute { row with relationshipTypeId := owner }
  | viewTemplate row => .viewTemplate { row with versionId := owner }
  | mapOfContent row => .mapOfContent { row with versionId := owner }
  | profile row => .profile { row with versionId := owner }
  | labelMapping row => .labelMapping { row with profileId := owner }
  | ignoreEntry row => .ignoreEntry { row with profileId := owner }

@[simp]
theorem table_withOwner (row : TableRow) (owner : String) :
    (row.withOwner owner).table = row.table := by
  cases row <;> rfl

@[simp]
theorem key_withOwner (row : TableRow) (owner : String) :
    (row.withOwner owner).key = (row.key.1, owner) := by
  cases row <;> rfl

end TableRow

namespace Definition

def row : Definition → TableRow
  | entityType type => .entityType type.toRow
  | field definition => .field definition.toRow
  | relationshipType type => .relationshipType type.toRow
  | relationshipAttribute attr => .relationshipAttribute attr.toRow
  | viewTemplate view => .viewTemplate view.toRow
  | mapOfContent map => .mapOfContent map.toRow
  | profile definition => .profile definition.toRow
  | labelMapping mapping => .labelMapping mapping.toRow
  | ignoreEntry entry => .ignoreEntry entry.toRow

@[simp]
theorem key_row (definition : Definition) : definition.row.key = definition.key := by
  cases definition <;> rfl

end Definition

/-- Puts a row in the place of the one that has its id, under the owner of that one, or last. -/
def TableRow.putInto (row : TableRow) (rows : List TableRow) : List TableRow :=
  putRow (·.key.1) (fun old new => new.withOwner old.key.2) row rows

theorem map_putRow {ρ : Type} {id : ρ → String} {merge : ρ → ρ → ρ} (f : ρ → TableRow) (row : ρ)
    (rows : List ρ) (hid : ∀ row, (f row).key.1 = id row)
    (hmerge : ∀ old new, f (merge old new) = (f new).withOwner (f old).key.2) :
    (putRow id merge row rows).map f = (f row).putInto (rows.map f) := by
  have hany : (rows.map f).any (·.key.1 == (f row).key.1) = rows.any (id · == id row) := by
    rw [List.any_map]
    simp only [Function.comp_def, hid]
  rw [putRow, TableRow.putInto, putRow, hany]
  split_ifs with hthere
  · rw [List.map_map, List.map_map]
    apply List.map_congr_left
    intro old _
    simp only [Function.comp_apply, hid]
    split_ifs
    · exact hmerge old row
    · rfl
  · rw [List.map_append, List.map_singleton]

namespace Store

/-- The rows of a table of definitions. -/
def rowsIn (store : Store) : Table → List TableRow
  | .blueprints | .versions => []
  | .entityTypes => store.entityTypes.map .entityType
  | .fields => store.fields.map .field
  | .relationshipTypes => store.relationshipTypes.map .relationshipType
  | .attributes => store.attributes.map .relationshipAttribute
  | .viewTemplates => store.viewTemplates.map .viewTemplate
  | .mapsOfContent => store.mapsOfContent.map .mapOfContent
  | .profiles => store.profiles.map .profile
  | .labelMappings => store.labelMappings.map .labelMapping
  | .ignoreEntries => store.ignoreEntries.map .ignoreEntry

theorem table_of_mem_rowsIn {store : Store} {table : Table} {row : TableRow}
    (hrow : row ∈ store.rowsIn table) : row.table = table := by
  cases table <;> simp only [rowsIn, List.mem_map, List.not_mem_nil] at hrow <;>
    · obtain ⟨-, -, rfl⟩ := hrow
      rfl

end Store

end KnowledgeSchema
