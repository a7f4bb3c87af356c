import KnowledgeSchema.Store.Basic

/-!
# Calls of a store

Everything that is asked of a store. A call takes effect as a whole or, when it fails, not at all.
-/

namespace KnowledgeSchema

namespace Store

inductive Call where
  | saveBlueprint (blueprint : Blueprint)
  | getBlueprint (id : String)
  | listBlueprints
  | insertVersion (version : Version)
  | getVersion (id : String)
  | listVersions (blueprintId : String)
  | maxNumber (blueprintId : String)
  | updateStatus (id : String) (expected status : Status) (publishedAt : Option Timestamp)
  | insertVersionWith (version : Version) (set : DefinitionSet)
  | saveAll (set : DefinitionSet)
  | save (definition : Definition)
  | listEntityTypes (versionId : String)
  | listFields (entityTypeId : String)
  | listRelationshipTypes (versionId : String)
  | listAttributes (relationshipTypeId : String)
  | listViewTemplates (versionId : String)
  | listMapsOfContent (versionId : String)
  | getProfile (versionId : String)
  | listLabelMappings (profileId : String)
  | listIgnoreEntries (profileId : String)

namespace Call

/-- What a call that succeeds gives back. -/
abbrev Result : Call → Type
  | saveBlueprint _ => Unit
  | getBlueprint _ => Option Blueprint
  | listBlueprints => List Blueprint
  | insertVersion _ => Unit
  | getVersion _ => Option Version
  | listVersions _ => List Version
  | maxNumber _ => Option Int64
  | updateStatus .. => Bool
  | insertVersionWith .. => Unit
  | saveAll _ => Unit
  | save _ => Unit
  | listEntityTypes _ => List EntityType
  | listFields _ => List Field
  | listRelationshipTypes _ => List RelationshipType
  | listAttributes _ => List RelationshipAttribute
  | listViewTemplates _ => List ViewTemplate
  | listMapsOfContent _ => List MapOfContent
  | getProfile _ => Option ExtractionProfile
  | listLabelMappings _ => List LabelMapping
  | listIgnoreEntries _ => List IgnoreEntry

/-- The name under which a call is told to a user. -/
def name : Call → String
  | saveBlueprint _ => "save_blueprint_meta"
  | getBlueprint _ => "get_blueprint_meta"
  | listBlueprints => "list_blueprints"
  | insertVersion _ => "insert_version"
  | getVersion _ => "get_version"
  | listVersions _ => "list_versions"
  | maxNumber _ => "max_version_number"
  | updateStatus .. => "update_version_status"
  | insertVersionWith .. => "insert_version_with_definitions"
  | saveAll _ => "save_definitions"
  | save (.entityType _) => "save_entity_type"
  | save (.field _) => "save_field"
  | save (.relationshipType _) => "save_relationship_type"
  | save (.relationshipAttribute _) => "save_relationship_attribute"
  | save (.viewTemplate _) => "save_view_template"
  | save (.mapOfContent _) => "save_moc"
  | save (.profile _) => "save_extraction_profile"
  | save (.labelMapping _) => "save_label_mapping"
  | save (.ignoreEntry _) => "save_ignore_entry"
  | listEntityTypes _ => "list_entity_types"
  | listFields _ => "list_fields"
  | listRelationshipTypes _ => "list_relationship_types"
  | listAttributes _ => "list_relationship_attributes"
  | listViewTemplates _ => "list_view_templates"
  | listMapsOfContent _ => "list_mocs"
  | getProfile _ => "get_extraction_profile"
  | listLabelMappings _ => "list_label_mappings"
  | listIgnoreEntries _ => "list_ignore_entries"

/-- The single writes that a call is made of. -/
def writes : Call → List Write
  | saveBlueprint blueprint => [.blueprint blueprint]
  | insertVersion version => [.version version]
  | insertVersionWith version set => .version version :: set.definitions.map .definition
  | saveAll set => set.definitions.map .definition
  | save definition => [.definition definition]
  | _ => []

/-- Whether a call asks for a change. -/
def isChange : Call → Bool
  | updateStatus .. => true
  | call => !call.writes.isEmpty

end Call

/-- The outcome of writes, and the store after them. -/
def commit (store : Store) (writes : List Write) : Except Failure Unit × Store :=
  match store.writeAll writes with
  | .ok store => (.ok (), store)
  | .error failure => (.error failure, store)

/-- The outcome of a call, and the store after it. -/
def run (store : Store) : (call : Call) → Except Failure call.Result × Store
  | .saveBlueprint blueprint => store.commit (Call.saveBlueprint blueprint).writes
  | .getBlueprint id => (store.blueprint? id, store)
  | .listBlueprints => (store.listBlueprints, store)
  | .insertVersion version => store.commit (Call.insertVersion version).writes
  | .getVersion id => (store.version? id, store)
  | .listVersions blueprintId => (store.listVersions blueprintId, store)
  | .maxNumber blueprintId => (.ok (store.maxNumber? blueprintId), store)
  | .updateStatus id expected status publishedAt =>
    match store.updateStatus id expected status publishedAt with
    | (after, updated) => (.ok updated, after)
  | .insertVersionWith version set => store.commit (Call.insertVersionWith version set).writes
  | .saveAll set => store.commit (Call.saveAll set).writes
  | .save definition => store.commit (Call.save definition).writes
  | .listEntityTypes versionId => (.ok (store.listEntityTypes versionId), store)
  | .listFields entityTypeId => (store.listFields entityTypeId, store)
  | .listRelationshipTypes versionId => (.ok (store.listRelationshipTypes versionId), store)
  | .listAttributes relationshipTypeId => (.ok (store.listAttributes relationshipTypeId), store)
  | .listViewTemplates versionId => (store.listViewTemplates versionId, store)
  | .listMapsOfContent versionId => (store.listMapsOfContent versionId, store)
  | .getProfile versionId => (.ok (store.profile? versionId), store)
  | .listLabelMappings profileId => (.ok (store.listLabelMappings profileId), store)
  | .listIgnoreEntries profileId => (.ok (store.listIgnoreEntries profileId), store)

end Store

end KnowledgeSchema
