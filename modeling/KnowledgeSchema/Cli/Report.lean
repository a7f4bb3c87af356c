import KnowledgeSchema.Bundle.Resolve
import KnowledgeSchema.Artifact.Basic
import KnowledgeSchema.Database.Opening
import KnowledgeSchema.Settings.Keeping

/-!
# Reports

What commands print: the results for a user or for another program, and what went wrong.
-/

namespace KnowledgeSchema.Cli

/-- How a command ends and what it printed. -/
structure Report where
  exit : UInt8 := 0
  output : String := ""
  errors : String := ""

/-- Lines, each of them ended. -/
def lines (texts : List String) : String :=
  String.join (texts.map (· ++ "\n"))

/-- How results are printed. -/
structure Format where
  asJson : Bool
  isQuiet : Bool

/-! ## Results -/

def blueprintText (format : Format) (blueprint : Blueprint) : String :=
  if format.asJson then lines [Blueprint.codec.write blueprint]
  else if format.isQuiet then lines [blueprint.id]
  else
    let tags := blueprint.tags.texts
    lines <|
      ["Blueprint created successfully!", s!"  ID: {blueprint.id}", s!"  Name: {blueprint.name}"] ++
        (if tags.isEmpty then [] else ["  Tags: " ++ ", ".intercalate tags]) ++
        ["", "Next steps:", s!"  Run `blueprint versions create {blueprint.id}` to start a draft"]

def blueprintLine (blueprint : Blueprint) : String :=
  let mark := if blueprint.isSystem then " [system]" else ""
  s!"  {blueprint.id} - {blueprint.name}{mark}"

def blueprintsText (format : Format) (blueprints : List Blueprint) : String :=
  if format.asJson then lines [(Codec.list Blueprint.codec).write blueprints]
  else if blueprints.isEmpty then
    if format.isQuiet then ""
    else
      lines
        ["No blueprints found.", "", "Create one with: blueprint blueprints create <name>"]
  else
    lines ((if format.isQuiet then [] else ["Blueprints:"]) ++ blueprints.map blueprintLine)

def versionText (format : Format) (version : Version) : String :=
  if format.asJson then lines [Version.codec.write version]
  else if format.isQuiet then lines [version.id]
  else lines [s!"Version {version.id} (v{version.number}) is {version.status.name}"]

def versionLine (version : Version) : String :=
  let published := match version.publishedAt with
    | some time => s!" (published {time.displayText})"
    | none => ""
  s!"  v{version.number} {version.id} [{version.status.name}]{published}"

def versionsText (format : Format) (blueprintId : String) (versions : List Version) : String :=
  if format.asJson then lines [(Codec.list Version.codec).write versions]
  else if versions.isEmpty then
    if format.isQuiet then ""
    else
      lines
        ["No versions found.", "", s!"Create one with: blueprint versions create {blueprintId}"]
  else lines (versions.map versionLine)

def summaryText (format : Format) (versionId : String) (summary : ImportSummary) : String :=
  if format.asJson then lines [summary.toJson.text]
  else if format.isQuiet then ""
  else
    lines <|
      [s!"Imported into {versionId}:",
        s!"  Entity types: {summary.entityTypes}",
        s!"  Fields: {summary.fields}",
        s!"  Relationship types: {summary.relationshipTypes}",
        s!"  Relationship attributes: {summary.attributes}",
        s!"  View templates: {summary.viewTemplates}",
        s!"  MOCs: {summary.mapsOfContent}"] ++
        if summary.hasProfile then
          [s!"  Extraction profile: {summary.labelMappings} label mappings, " ++
            s!"{summary.ignoreEntries} ignore entries"]
        else []

def artifactText (isPretty : Bool) (artifact : Artifact) : String :=
  let json := Artifact.codec.encode artifact
  lines [if isPretty then json.indentedText else json.text]

def warningsText (artifact : Artifact) : String :=
  lines (artifact.diagnostics.map fun warning => s!"warning: {warning.text}")

/-! ## What goes wrong -/

inductive Trouble where
  | failed (failure : Failure)
  | settings (flaw : Settings.KeepingFlaw)
  | unreadableBundle (path : String) (why : Disk.Flaw)
  /-- The database of a path cannot be used. -/
  | database (path : String) (flaw : OpenDatabase.Flaw)

namespace Trouble

def quoted (text : String) : String :=
  String.ofList (Text.quote text.toList)

/-- What happened, and what is behind it: what is told of a flaw comes again as its own cause. -/
def withCause (what cause : String) : List String :=
  [what ++ ": " ++ cause, cause]

/-- What is wrong with an address, as far as it is told before anything is opened. -/
def badAddress (cause : String) : List String :=
  withCause "error with configuration" cause

/-- What is wrong with a database that was to be opened. -/
def refused (path : String) (code : Nat) (cause : String) : List String :=
  s!"Failed to connect to database: {quoted path}" ::
    withCause "error returned from database" s!"(code: {code}) {cause}"

def addressChain (path : String) : Address.Flaw → List String
  | .encoding flaw => badAddress flaw.message
  | .unknownParameter name =>
    badAddress s!"unknown query parameter `{name}` while parsing connection URL"
  | .unknownValue name value => badAddress s!"unknown value {quoted value} for `{name}`"
  | .holdsNull =>
    s!"Failed to connect to database: {quoted path}" ::
      withCause "error communicating with database"
        "filename passed to SQLite must not contain nul bytes"
  | .unknownHost name => refused path 1 s!"invalid uri authority: {name}"
  | .unknownMode option value => refused path 1 s!"no such {option} mode: {value}"
  | .refusedMode value => refused path 3 s!"access mode not allowed: {value}"
  | .unknownSystem name => refused path 1 s!"no such vfs: {name}"
  | .nothingToRead =>
    "Failed to run database migrations" ::
      withCause "error returned from database" "(code: 8) attempt to write a readonly database"

def databaseChain (path : String) : OpenDatabase.Flaw → List String
  | .noDirectory parent why =>
    [s!"Failed to create database directory: {quoted parent}", why.message]
  | .address flaw => addressChain path flaw
  | .cannotOpen => refused path 14 "unable to open database file"
  | .noDatabase => refused path 26 "file is not a database"
  | .migration flaw => ["Failed to run database migrations", flaw.message]

/-- What happened, and what lies behind it. -/
def chain : Trouble → List String
  | .failed failure => [failure.message]
  | .settings flaw => flaw.message :: flaw.causes
  | .unreadableBundle path why => [s!"Failed to read bundle {path}: {why.message}"]
  | .database path flaw => databaseChain path flaw

/-- A failure is told with its code and with the command that may help. -/
def text : Trouble → String
  | .failed failure =>
    lines <| s!"Error [{failure.code}]: {failure.message}" ::
      (failure.suggestion.toList.map fun hint => s!"  Try: {hint}")
  | trouble => lines ["Error: " ++ ": ".intercalate trouble.chain]

end Trouble

/-- The report of a command that went wrong. -/
def Trouble.report (trouble : Trouble) : Report :=
  { exit := 1, errors := trouble.text }

end KnowledgeSchema.Cli
