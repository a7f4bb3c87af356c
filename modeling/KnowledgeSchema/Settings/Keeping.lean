import KnowledgeSchema.Disk.Basic
import KnowledgeSchema.Settings.Document

/-!
# Kept settings

Loading settings from a file of a disk, saving them and dropping them. Settings that were never
saved are the default ones, and settings out of range are neither saved nor loaded.
-/

namespace KnowledgeSchema

namespace Settings

inductive KeepingFlaw where
  | refused (flaw : Flaw)
  | unreadable (path : String) (why : Disk.Flaw)
  | noDocument (path : String)
  | noDirectory (path : String) (why : Disk.Flaw)
  | noText
  | unwritable (path : String) (why : Disk.Flaw)
  | notRemoved (path : String) (why : Disk.Flaw)

def KeepingFlaw.message : KeepingFlaw → String
  | .refused flaw => flaw.message
  | .unreadable path _ => s!"Failed to read config file: {path}"
  | .noDocument path => s!"Failed to parse config file: {path}"
  | .noDirectory path _ => s!"Failed to create config directory: {path}"
  | .noText => "Failed to serialize config"
  | .unwritable path _ => s!"Failed to write config file: {path}"
  | .notRemoved path _ => s!"Failed to remove config file: {path}"

def KeepingFlaw.causes : KeepingFlaw → List String
  | .refused flaw => flaw.causes
  | .unreadable _ why => [why.message]
  | .noDocument _ => []
  | .noDirectory _ why => [why.message]
  | .noText => ["out-of-range value for u64 type"]
  | .unwritable _ why => [why.message]
  | .notRemoved _ why => [why.message]

def load (disk : Disk) (path : String) : Except KeepingFlaw Settings :=
  if !disk.isThere path then .ok {}
  else
    match disk.read path with
    | .error why => .error (.unreadable path why)
    | .ok document =>
      match read? document with
      | none => .error (.noDocument path)
      | some settings => do
        settings.validate.mapError .refused
        .ok settings

/-- Writes the settings into a directory that is there. -/
def writeTo (settings : Settings) (disk : Disk) (path : String) : Except KeepingFlaw Disk :=
  match settings.write with
  | none => .error .noText
  | some document =>
    (disk.write path (String.ofList document)).mapError (.unwritable path ·)

/-- Makes the directory of the file where there is none. -/
def save (settings : Settings) (disk : Disk) (path : String) : Except KeepingFlaw Unit × Disk :=
  match settings.validate with
  | .error flaw => (.error (.refused flaw), disk)
  | .ok () =>
    match disk.makeParent path with
    | (.error (parent, why), disk) => (.error (.noDirectory parent why), disk)
    | (.ok (), disk) =>
      match settings.writeTo disk path with
      | .error flaw => (.error flaw, disk)
      | .ok disk => (.ok (), disk)

/-- Drops the settings that were saved. -/
def reset (disk : Disk) (path : String) : Except KeepingFlaw Disk :=
  if disk.isThere path then (disk.remove path).mapError (.notRemoved path)
  else .ok disk

end Settings

end KnowledgeSchema
