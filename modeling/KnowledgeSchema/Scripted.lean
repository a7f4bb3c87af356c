import KnowledgeSchema.Program

/-!
# Stores by script

A store that answers each call from prepared lists, whatever they hold, after a delay on a clock of
its own, or fails where the script says so. Nothing can be written to it.
-/

namespace KnowledgeSchema

structure Script where
  blueprints : List Blueprint := []
  versions : List Version := []
  entityTypes : List EntityType := []
  fields : String → List Field := fun _ => []
  relationshipTypes : List RelationshipType := []
  attributes : String → List RelationshipAttribute := fun _ => []
  viewTemplates : List ViewTemplate := []
  mapsOfContent : List MapOfContent := []
  profile : Option ExtractionProfile := none
  labelMappings : List LabelMapping := []
  ignoreEntries : List IgnoreEntry := []
  /-- The milliseconds that the calls of a name take. -/
  delay : String → Nat := fun _ => 0
  /-- Whether the calls of a name fail. -/
  fails : String → Bool := fun _ => false

namespace Script

/-- What a call finds, whenever it gets through. -/
def content (script : Script) : (call : Store.Call) → Except Failure call.Result
  | .getBlueprint id => .ok (script.blueprints.find? (·.id == id))
  | .listBlueprints => .ok script.blueprints
  | .getVersion id => .ok (script.versions.find? (·.id == id))
  | .listVersions blueprintId => .ok (script.versions.filter (·.blueprintId == blueprintId))
  | .maxNumber blueprintId =>
    .ok ((script.versions.filter (·.blueprintId == blueprintId)).map (·.number)).max?
  | .listEntityTypes _ => .ok script.entityTypes
  | .listFields id => .ok (script.fields id)
  | .listRelationshipTypes _ => .ok script.relationshipTypes
  | .listAttributes id => .ok (script.attributes id)
  | .listViewTemplates _ => .ok script.viewTemplates
  | .listMapsOfContent _ => .ok script.mapsOfContent
  | .getProfile _ => .ok script.profile
  | .listLabelMappings _ => .ok script.labelMappings
  | .listIgnoreEntries _ => .ok script.ignoreEntries
  | .saveBlueprint _ => .error .storeUnavailable
  | .insertVersion _ => .error .storeUnavailable
  | .updateStatus .. => .error .storeUnavailable
  | .insertVersionWith .. => .error .storeUnavailable
  | .saveAll _ => .error .storeUnavailable
  | .save _ => .error .storeUnavailable

def answer (script : Script) (call : Store.Call) : Except Failure call.Result :=
  if script.fails call.name then .error (.other (.stated (call.name ++ " failed")))
  else script.content call

/-- The answers to an operation that only reads. Nothing is kept and no time passes. -/
def handle (script : Script) (ids : Ids) (time : Timestamp) : (r : Request) → Id r.Answer
  | .store call limit =>
    Operation.withTimeout limit call.name (script.delay call.name) (script.answer call)
  | .freshIds _ => ids
  | .now => time
  | .record _ => ()
  | .fetch _ => none
  | .keep _ => ()
  | .evict _ => ()

def run {α : Type} (script : Script) (ids : Ids) (time : Timestamp) (operation : Operation α) :
    Except Failure α :=
  (Program.run (script.handle ids time) operation.run).run

end Script

end KnowledgeSchema
