import KnowledgeSchema.Operation.Content

/-!
# Versions of a blueprint

Numbering, forking and publishing. Others may work on the same store at the same time: a number is
claimed by inserting the version, and a status changes only while it is still the one that was read.
Whoever comes too late tries again.
-/

namespace KnowledgeSchema.Operation

def createAttempts : Nat :=
  5

def transitionAttempts : Nat :=
  5

/-- One more than the highest number, or one. -/
def nextNumber (blueprintId : String) : Operation Int64 := do
  match ← call (.maxNumber blueprintId) with
  | some number => return number + 1
  | none => return 1

/-- Inserts a version alone or with its definitions. -/
def tryInsert (version : Version) : Option DefinitionSet → Operation (Except Failure Unit)
  | some set => attempt (.insertVersionWith version set)
  | none => attempt (.insertVersion version)

/-- Claims the next number for a version, again while others take it first. -/
def claimNumber (version : Version) (forkedFrom : Option String) (set? : Option DefinitionSet) :
    Nat → Failure → Operation Version
  | 0, conflict => throw conflict
  | attempts + 1, _ => do
    let number ← nextNumber version.blueprintId
    let version := { version with number }
    match ← tryInsert version set? with
    | .ok () =>
      record (.versionCreated version.blueprintId version.id number forkedFrom (← now))
      return version
    | .error (.versionConflict blueprintId number) =>
      claimNumber version forkedFrom set? attempts (.versionConflict blueprintId number)
    | .error failure => throw failure

/-- Stores a version of a blueprint that is there. -/
def createVersion (version : Version) (forkedFrom : Option String)
    (set? : Option DefinitionSet) : Operation Version := do
  if (← call (.getBlueprint version.blueprintId)).isNone then
    throw (.blueprintNotFound version.blueprintId)
  claimNumber version forkedFrom set? createAttempts (.other (.noNumber version.blueprintId))

def createDraft (blueprintId : String) : Operation Version := do
  let version := Version.draft (← freshId) blueprintId 0 (← now)
  createVersion version none none

/-- A new draft with a copy of every definition of a version. -/
def forkDraft (sourceId : String) : Operation Version := do
  let some source ← call (.getVersion sourceId)
    | throw (.versionNotFound sourceId)
  let draft := Version.draft (← freshId) source.blueprintId 0 (← now)
  let content ← readContent none source.id
  let ids ← freshIds content.idCount
  createVersion draft (some source.id) (some (content.copy ids draft.id))

/-- The version with the highest number, of several the last. -/
def latest? (versions : List Version) : Option Version :=
  versions.foldl (fun latest version =>
    match latest with
    | some other => if version.number < other.number then some other else some version
    | none => some version) none

/-- The version to compile: the one asked for, else the latest published one, else the latest. -/
def chooseVersion (blueprintId : String) : Option String → Operation Version
  | some versionId => do
    let some version ← call (.getVersion versionId)
      | throw (.versionNotFound versionId)
    return version
  | none => do
    let versions ← call (.listVersions blueprintId)
    match latest? (versions.filter (·.status == .published)) <|> latest? versions with
    | some version => return version
    | none =>
      match ← call (.getBlueprint blueprintId) with
      | none => throw (.blueprintNotFound blueprintId)
      | some _ => throw (.noVersions blueprintId)

/-- Moves a version to a status, again while others move it first. Nothing happens when it is
there already. -/
def moveTo (versionId : String) (next : Status) : Nat → Operation Version
  | 0 => throw (.other (.keptChanging versionId next))
  | attempts + 1 => do
    let some version ← call (.getVersion versionId)
      | throw (.versionNotFound versionId)
    if version.status = next then return version
    let moved ← version.transition next (← now)
    if ← call (.updateStatus version.id version.status moved.status moved.publishedAt) then
      record (.statusChanged version.id version.status next (← now))
      return moved
    else moveTo versionId next attempts

def transition (versionId : String) (next : Status) : Operation Version :=
  moveTo versionId next transitionAttempts

end KnowledgeSchema.Operation
