import KnowledgeSchema.Cli.Grammar

/-!
# Commands

Everything that a user can ask for on the command line, and the grammar of it.
-/

namespace KnowledgeSchema.Cli

inductive SettingsCommand where
  | get (key : String)
  | set (key value : String)
  | list
  | reset
  | path

/-- A command that works on a database. What it imports is a `β`: the path of a bundle as long as it
was not read, and a bundle afterwards. -/
inductive StoreCommand (β : Type) where
  | createBlueprint (name : String) (description : Option String) (tags : List String)
      (isSystem : Bool)
  | listBlueprints
  /-- A new draft, empty or with the definitions of a version. -/
  | createVersion (blueprintId : String) (sourceId : Option String)
  | listVersions (blueprintId : String)
  | publishVersion (versionId : String)
  | archiveVersion (versionId : String)
  | deprecateVersion (versionId : String)
  | importBundle (versionId : String) (bundle : β)
  | compile (blueprintId : String) (versionId : Option String) (isPretty : Bool)

inductive Command where
  | settings (command : SettingsCommand)
  | store (command : StoreCommand String)

/-- A command with the options that every command has. -/
structure Invocation where
  command : Command
  /-- The database to use in the place of the one that the settings name. -/
  database : Option String
  asJson : Bool
  isQuiet : Bool

namespace Invocation

/-! ## Grammar -/

def isPath (value : String) : Bool :=
  !value.isEmpty

def commonOptions : List OptionForm :=
  [{ name := "db", accepts := isPath },
    { name := "format", accepts := fun value => value == "text" || value == "json" },
    { name := "quiet", letter := some 'q', takesValue := false }]

def action (options : List OptionForm) (operands : List OperandForm) : Grammar :=
  .action (commonOptions ++ options) operands

def group (commands : List (String × Grammar)) : Grammar :=
  .group commonOptions commands

def blueprintCommands : Grammar :=
  group
    [("create", action
        [{ name := "description", letter := some 'd' },
          { name := "tag", letter := some 't', isRepeatable := true },
          { name := "system", takesValue := false }] [{}]),
      ("list", action [] [])]

def versionCommands : Grammar :=
  group
    [("create", action [{ name := "from" }] [{}]),
      ("list", action [] [{}]),
      ("publish", action [] [{}]),
      ("archive", action [] [{}]),
      ("deprecate", action [] [{}]),
      ("import", action [] [{}, { accepts := isPath }])]

def settingsCommands : Grammar :=
  group
    [("get", action [] [{}]),
      ("set", action [] [{}, {}]),
      ("list", action [] []),
      ("reset", action [] []),
      ("path", action [] [])]

def grammar : Grammar :=
  group
    [("blueprints", blueprintCommands),
      ("versions", versionCommands),
      ("compile", action [{ name := "version" }, { name := "pretty", takesValue := false }] [{}]),
      ("config", settingsCommands)]

/-! ## Meaning -/

def command? (arguments : Arguments) : Option Command :=
  match arguments.path, arguments.operands with
  | ["blueprints", "create"], [name] =>
    some (.store (.createBlueprint name (arguments.value? "description") (arguments.values "tag")
      (arguments.has "system")))
  | ["blueprints", "list"], [] => some (.store .listBlueprints)
  | ["versions", "create"], [id] => some (.store (.createVersion id (arguments.value? "from")))
  | ["versions", "list"], [id] => some (.store (.listVersions id))
  | ["versions", "publish"], [id] => some (.store (.publishVersion id))
  | ["versions", "archive"], [id] => some (.store (.archiveVersion id))
  | ["versions", "deprecate"], [id] => some (.store (.deprecateVersion id))
  | ["versions", "import"], [id, bundle] => some (.store (.importBundle id bundle))
  | ["compile"], [id] =>
    some (.store (.compile id (arguments.value? "version") (arguments.has "pretty")))
  | ["config", "get"], [key] => some (.settings (.get key))
  | ["config", "set"], [key, value] => some (.settings (.set key value))
  | ["config", "list"], [] => some (.settings .list)
  | ["config", "reset"], [] => some (.settings .reset)
  | ["config", "path"], [] => some (.settings .path)
  | _, _ => none

/-- Reads a command line. -/
def read (arguments : List String) : Except Refusal Invocation := do
  let arguments ← grammar.read arguments
  match command? arguments with
  | some command =>
    .ok
      { command
        database := arguments.value? "db"
        asJson := arguments.value? "format" == some "json"
        isQuiet := arguments.has "quiet" }
  | none => .error .usage

end Invocation

end KnowledgeSchema.Cli
