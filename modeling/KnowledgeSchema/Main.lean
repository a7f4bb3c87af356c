import KnowledgeSchema.Cli.Desk
import KnowledgeSchema.Database.Image
import KnowledgeSchema.Identifier
import KnowledgeSchema.Time.Epoch
import Std.Time.DateTime.Timestamp

/-!
# The command

Carries out one command line: takes from the disk what the command may read, runs it, and puts back
what it changed.
-/

namespace KnowledgeSchema.Cli

/-- The path of a place. -/
def pathOf (place : List String) : String :=
  "/" ++ "/".intercalate place

/-- What a file holds. A database is kept as its image. -/
def itemOf (content : String) : DiskItem :=
  match Database.codec.parse content with
  | .ok db => .database db
  | .error _ => .text content

/-- What there is at a place, if there is anything. -/
def readItem (place : List String) : IO (Option DiskItem) := do
  match ← (IO.FS.realPath (pathOf place)).toBaseIO with
  | .error _ => return none
  | .ok path =>
    if ← path.isDir then return some .directory
    else if ← path.pathExists then
      match ← (IO.FS.readFile path).toBaseIO with
      | .ok content => return some (itemOf content)
      | .error _ => return some .other
    else return none

/-- The places on the way of a path. -/
def placesOf (disk : Disk) (path : String) : List (List String) :=
  let start := disk.origin path
  (List.range (start.length + 1)).map start.take ++ OpenDatabase.stops start (Disk.names path)

/-- The disk with everything that there is on the way of a path. -/
def survey (disk : Disk) (path : String) : IO Disk :=
  (placesOf disk path).foldlM (fun disk place => do
    match ← readItem place with
    | some item => return disk.put place item
    | none => return disk) disk

/-- A file that a command reads beside the settings and the database. -/
def bundlePath? : Command → Option String
  | .store (.importBundle _ path) => some path
  | _ => none

/-- The paths of a command line beside that of the settings, which are given. -/
def pathsOf (desk : Desk) (invocation : Invocation) : List String :=
  let database := match invocation.command, desk.loadSettings with
    | .store _, .ok settings =>
      let path := invocation.database.getD (settings.databasePath desk.settingsDirectory)
      match Address.read path with
      | .ok (.file file _) => [path, file]
      | _ => [path]
    | _, _ => []
  database ++ (bundlePath? invocation.command).toList

/-- Puts an item where it belongs. -/
def writeItem (place : List String) : DiskItem → IO Unit
  | .directory => IO.FS.createDirAll (pathOf place)
  | .text content => IO.FS.writeFile (pathOf place) content
  | .database db => IO.FS.writeFile (pathOf place) (Database.codec.write db)
  | .other => pure ()

/-- Brings the files in line with a disk that was `before`. Items come newest first. -/
def writeBack (before after : Disk) (settings : String) : IO Unit := do
  if before.isThere settings && !after.isThere settings then IO.FS.removeFile settings
  for (place, item) in after.items.reverse do
    match item, before.items.lookup place with
    | .directory, some .directory => pure ()
    | .text content, some (.text old) => if content != old then writeItem place item
    | _, _ => writeItem place item

def settingsDirectory : IO String := do
  if let some directory ← IO.getEnv "BLUEPRINT_CONFIG_DIR" then return directory
  if let some directory ← IO.getEnv "XDG_CONFIG_HOME" then
    return Path.inside directory "blueprint"
  let home := (← IO.getEnv "HOME").getD ""
  return Path.inside home ".config/blueprint"

/-- The time of the clock. -/
def timeNow : IO Timestamp := do
  let now ← Std.Time.Timestamp.now
  match Timestamp.ofEpoch? now.val.second.val.toNat now.val.nano.val.toNat with
  | some time => return time
  | none => throw (IO.userError "the clock is out of range")

def newDesk : IO Desk := do
  let directory := Disk.names (← IO.currentDir).toString
  let seed ← IO.getRandomBytes 32
  let now ← timeNow
  return { disk := { directory }, settingsDirectory := ← settingsDirectory,
           ids := Identifier.ofSeed seed.toList, clock := fun _ => now }

/-- The desk with everything that a command line may read. -/
def furnish (desk : Desk) (arguments : List String) : IO Desk := do
  let desk := { desk with disk := ← survey desk.disk desk.settingsFile }
  match Invocation.read arguments with
  | .error _ => return desk
  | .ok invocation =>
    return { desk with disk := ← (pathsOf desk invocation).foldlM survey desk.disk }

end KnowledgeSchema.Cli

open KnowledgeSchema.Cli in
def main (arguments : List String) : IO UInt32 := do
  let before ← furnish (← newDesk) arguments
  let (report, after) := before.run arguments
  writeBack before.disk after.disk before.settingsFile
  IO.print report.output
  IO.eprint report.errors
  return report.exit.toUInt32
