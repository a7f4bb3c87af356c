import KnowledgeSchema.Cli.Command
import KnowledgeSchema.Cli.Report
import KnowledgeSchema.World

/-!
# Carrying out commands

A command is carried out at a desk: a disk, the directory of the settings, a source of ids and a
clock. Commands that work on a database open it first. What was made on the disk before something
went wrong stays there.
-/

namespace KnowledgeSchema

namespace Operation

/-- Fails unless a version is one of a blueprint. -/
def ensureVersionOf (blueprintId versionId : String) : Operation Unit := do
  let version ← getVersion versionId
  if version.blueprintId ≠ blueprintId then
    throw (.invalidInput (.foreignVersion versionId version.blueprintId blueprintId))

/-- A new draft of a blueprint, empty or with the definitions of one of its versions. -/
def draftOf (blueprintId : String) : Option String → Operation Version
  | none => createDraft blueprintId
  | some sourceId => do
    ensureVersionOf blueprintId sourceId
    forkDraft sourceId

/-- The artifact of a blueprint, from the version asked for if there is one. -/
def compileOf (settings : CompilerSettings) (blueprintId : String) (versionId : Option String) :
    Operation Artifact := do
  if let some versionId := versionId then ensureVersionOf blueprintId versionId
  compileBlueprint settings blueprintId versionId

end Operation

namespace Cli

structure Desk where
  disk : Disk
  /-- The directory of the settings, as a user sees it. -/
  settingsDirectory : String
  ids : Ids
  idsTaken : Nat := 0
  clock : Nat → Timestamp
  ticks : Nat := 0

namespace Desk

def settingsFile (desk : Desk) : String :=
  Settings.file desk.settingsDirectory

def loadSettings (desk : Desk) : Except Trouble Settings :=
  (Settings.load desk.disk desk.settingsFile).mapError .settings

/-! ## Settings -/

def refused {α : Type} (outcome : Except Settings.Flaw α) : Except Trouble α :=
  outcome.mapError (.settings <| .refused ·)

/-- What a command on settings prints, and the disk after it. -/
def runSettings (desk : Desk) (isQuiet : Bool) : SettingsCommand → Except Trouble String × Disk
  | .get key =>
    (do
      let settings ← desk.loadSettings
      .ok (lines [← refused (settings.get desk.settingsDirectory key)]), desk.disk)
  | .set key value =>
    match do refused ((← desk.loadSettings).set key value) with
    | .error trouble => (.error trouble, desk.disk)
    | .ok settings =>
      match settings.save desk.disk desk.settingsFile with
      | (.error flaw, disk) => (.error (.settings flaw), disk)
      | (.ok (), disk) => (.ok (if isQuiet then "" else lines [s!"Set {key} = {value}"]), disk)
  | .list =>
    (do
      let settings ← desk.loadSettings
      .ok (lines ((settings.list desk.settingsDirectory).map fun (key, value) =>
        s!"{key} = {value}")), desk.disk)
  | .reset =>
    match Settings.reset desk.disk desk.settingsFile with
    | .error flaw => (.error (.settings flaw), desk.disk)
    | .ok disk => (.ok (if isQuiet then "" else lines ["Configuration reset to defaults."]), disk)
  | .path => (.ok (lines [desk.settingsFile]), desk.disk)

/-! ## Commands on a database -/

/-- A result with what is printed about it. -/
structure Printed where
  output : String := ""
  errors : String := ""

/-- The operation of a command. -/
def operation (settings : CompilerSettings) (format : Format) :
    StoreCommand Bundle → Operation Printed
  | .createBlueprint name description tags isSystem => do
    let blueprint ← Operation.createBlueprint name description tags isSystem
    return { output := blueprintText format blueprint }
  | .listBlueprints => do
    return { output := blueprintsText format (← Operation.listBlueprints) }
  | .createVersion blueprintId sourceId => do
    return { output := versionText format (← Operation.draftOf blueprintId sourceId) }
  | .listVersions blueprintId => do
    let versions ← Operation.listVersions blueprintId
    return { output := versionsText format blueprintId versions }
  | .publishVersion versionId => do
    return { output := versionText format (← Operation.publishVersion versionId) }
  | .archiveVersion versionId => do
    return { output := versionText format (← Operation.archiveVersion versionId) }
  | .deprecateVersion versionId => do
    return { output := versionText format (← Operation.deprecateVersion versionId) }
  | .importBundle versionId bundle => do
    let summary ← Operation.importBundle versionId bundle
    return { output := summaryText format versionId summary }
  | .compile blueprintId versionId isPretty => do
    let artifact ← Operation.compileOf settings blueprintId versionId
    return { output := artifactText isPretty artifact, errors := warningsText artifact }

def bundleAt (desk : Desk) (path : String) : Except Trouble Bundle :=
  match desk.disk.read path with
  | .error why => .error (.unreadableBundle path why)
  | .ok text => (Bundle.codec.parse text).mapError fun flaw => .failed (.serialization flaw)

/-- Reads what a command imports. -/
def prepare (desk : Desk) : StoreCommand String → Except Trouble (StoreCommand Bundle)
  | .createBlueprint name description tags isSystem =>
    .ok (.createBlueprint name description tags isSystem)
  | .listBlueprints => .ok .listBlueprints
  | .createVersion blueprintId sourceId => .ok (.createVersion blueprintId sourceId)
  | .listVersions blueprintId => .ok (.listVersions blueprintId)
  | .publishVersion versionId => .ok (.publishVersion versionId)
  | .archiveVersion versionId => .ok (.archiveVersion versionId)
  | .deprecateVersion versionId => .ok (.deprecateVersion versionId)
  | .importBundle versionId path => do .ok (.importBundle versionId (← desk.bundleAt path))
  | .compile blueprintId versionId isPretty => .ok (.compile blueprintId versionId isPretty)

/-- Carries out a command on a database that is open. -/
def runOn (desk : Desk) (settings : Settings) (format : Format) (db : OpenDatabase)
    (command : StoreCommand String) : Except Trouble Printed × Desk :=
  match desk.prepare command with
  | .error trouble => (.error trouble, desk)
  | .ok command =>
    let world : World :=
      { store := db.database.store, isReadOnly := db.isReadOnly, ids := desk.ids,
        idsTaken := desk.idsTaken, clock := desk.clock, ticks := desk.ticks }
    match world.perform (.new defaultCapacity) (operation settings.compiler format command) with
    | (outcome, world, _) =>
      let after := { db with database := { db.database with store := world.store } }
      let disk := after.keep desk.disk
      (outcome.mapError .failed,
        { desk with disk, idsTaken := world.idsTaken, ticks := world.ticks })

def runStore (desk : Desk) (database : Option String) (format : Format)
    (command : StoreCommand String) : Except Trouble Printed × Desk :=
  match desk.loadSettings with
  | .error trouble => (.error trouble, desk)
  | .ok settings =>
    let path := database.getD (settings.databasePath desk.settingsDirectory)
    match OpenDatabase.ofPath desk.disk path with
    | (.error flaw, disk) => (.error (.database path flaw), { desk with disk })
    | (.ok db, disk) => { desk with disk }.runOn settings format db command

/-! ## Command lines -/

def reportOf : Except Trouble Printed → Report
  | .ok printed => { output := printed.output, errors := printed.errors }
  | .error trouble => trouble.report

def perform (desk : Desk) (invocation : Invocation) : Report × Desk :=
  match invocation.command with
  | .settings command =>
    match desk.runSettings invocation.isQuiet command with
    | (.ok output, disk) => ({ output }, { desk with disk })
    | (.error trouble, disk) => (trouble.report, { desk with disk })
  | .store command =>
    let format : Format := { asJson := invocation.asJson, isQuiet := invocation.isQuiet }
    match desk.runStore invocation.database format command with
    | (outcome, desk) => (reportOf outcome, desk)

/-- How the command under a path of names is used. -/
def usage (path : List String) : String :=
  " ".intercalate ("Usage: blueprint" :: path ++ ["[OPTIONS]"])

/-- The report on arguments that name no command. -/
def refusal : Refusal → Report
  | .usage => { exit := 2, errors := lines ["error: unexpected or missing argument", usage []] }
  | .help path => { output := lines [usage path] }
  | .version => { output := lines ["blueprint 0.1.0"] }

/-- Carries out a command line. -/
def run (desk : Desk) (arguments : List String) : Report × Desk :=
  match Invocation.read arguments with
  | .ok invocation => desk.perform invocation
  | .error reason => (refusal reason, desk)

end Desk

end Cli

end KnowledgeSchema
