import KnowledgeSchema.Operation.Compile
import KnowledgeSchema.Operation.Versions
import KnowledgeSchema.Text.Blank

/-!
# The service

What callers do with blueprints. Artifacts of published versions are kept, because nothing about
them changes while they are published.
-/

namespace KnowledgeSchema

/-- How versions are compiled. -/
structure CompilerSettings where
  maxDepth : UInt64 := defaultMaxDepth
  /-- Seconds for each call of the store, or none at all for zero. -/
  storeTimeout : UInt64 := 30
  /-- Whether artifacts of published versions are kept. -/
  keepsPublished : Bool := true
deriving DecidableEq

namespace CompilerSettings

/-- The limit for a call in milliseconds. -/
def limit (settings : CompilerSettings) : Option Nat :=
  if settings.storeTimeout = 0 then none else some (settings.storeTimeout.toNat * 1000)

end CompilerSettings

namespace Operation

/-! ## Blueprints -/

def createBlueprint (name : String) (description : Option String) (tags : List String)
    (isSystem : Bool) : Operation Blueprint := do
  let name := String.ofList (Text.trim name.toList)
  if name.isEmpty then throw (.invalidInput .emptyName)
  let blueprint := Blueprint.new (← freshId) name (← now)
  let blueprint := { blueprint.addTags tags with description, isSystem }
  call (.saveBlueprint blueprint)
  record (.blueprintCreated blueprint.id blueprint.name (← now))
  return blueprint

def getBlueprint (blueprintId : String) : Operation Blueprint := do
  let some blueprint ← call (.getBlueprint blueprintId)
    | throw (.blueprintNotFound blueprintId)
  return blueprint

def listBlueprints : Operation (List Blueprint) :=
  call .listBlueprints

/-! ## Versions -/

def getVersion (versionId : String) : Operation Version := do
  let some version ← call (.getVersion versionId)
    | throw (.versionNotFound versionId)
  return version

def listVersions (blueprintId : String) : Operation (List Version) := do
  let _ ← getBlueprint blueprintId
  call (.listVersions blueprintId)

/-- Moves a version and drops what was kept for it. -/
def transitionAndEvict (versionId : String) (next : Status) : Operation Version := do
  let version ← transition versionId next
  evict versionId
  return version

def publishVersion (versionId : String) : Operation Version :=
  transitionAndEvict versionId .published

def archiveVersion (versionId : String) : Operation Version :=
  transitionAndEvict versionId .archived

def deprecateVersion (versionId : String) : Operation Version :=
  transitionAndEvict versionId .deprecated

/-- Writes the definitions of a bundle into a draft. -/
def importBundle (versionId : String) (bundle : Bundle) : Operation ImportSummary := do
  let version ← getVersion versionId
  version.ensureEditable
  let ids ← freshIds bundle.idCount
  let set ← bundle.resolve ids version.id
  call (.saveAll set)
  return .of set

/-! ## Artifacts -/

def compileAndRecord (settings : CompilerSettings) (version : Version) : Operation Artifact := do
  let artifact ← compile settings.maxDepth settings.limit version.id
  record (.versionCompiled version.id artifact.fingerprint
    (UInt64.ofNat artifact.diagnostics.length) (← now))
  return artifact

/-- The artifact of a version, from what is kept where that counts. -/
def compileOrFetch (settings : CompilerSettings) (version : Version) : Operation Artifact := do
  if settings.keepsPublished && version.status == .published then
    if let some artifact ← fetch version.id then return artifact
    let artifact ← compileAndRecord settings version
    if artifact.version.status = .published then keep artifact
    return artifact
  else compileAndRecord settings version

def compileBlueprint (settings : CompilerSettings) (blueprintId : String)
    (versionId : Option String) : Operation Artifact := do
  let version ← chooseVersion blueprintId versionId
  compileOrFetch settings version

def compileVersion (settings : CompilerSettings) (versionId : String) : Operation Artifact := do
  let version ← getVersion versionId
  compileOrFetch settings version

end Operation

end KnowledgeSchema
