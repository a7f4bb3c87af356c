import KnowledgeSchema.Disk.Path
import KnowledgeSchema.Number.Word
import KnowledgeSchema.Operation.Service

/-!
# Settings

How versions are compiled and which database is used, and the keys under which a user reads and
changes it. A change that is refused leaves everything as it was.
-/

namespace KnowledgeSchema

structure Settings where
  compiler : CompilerSettings := {}
  /-- The file of the database, or none for the one beside the settings. -/
  database : Option String := none
deriving DecidableEq

inductive Setting where
  | maxDepth
  | storeTimeout
  | keepsPublished
  | database
deriving DecidableEq

namespace Setting

def key : Setting → String
  | maxDepth => "compiler.max_inheritance_depth"
  | storeTimeout => "compiler.store_timeout_secs"
  | keepsPublished => "compiler.cache_published"
  | database => "database.path"

/-- The word for a setting where its value is refused. -/
def label : Setting → String
  | maxDepth => "max_inheritance_depth"
  | storeTimeout => "store_timeout_secs"
  | keepsPublished => "cache_published"
  | database => "path"

def all : List Setting :=
  [maxDepth, storeTimeout, keepsPublished, database]

def ofKey? (key : String) : Option Setting :=
  all.find? (·.key == key)

end Setting

/-- The most ancestors that a type may be made to inherit from. -/
def depthLimit : UInt64 :=
  64

inductive Settings.Flaw where
  | unknownKey (key : String)
  | notCount (setting : Setting) (value : String) (flaw : CountFlaw)
  | notTruth (setting : Setting) (value : String)
  | depthRefused
  | depthOutOfRange (depth : UInt64)

namespace Settings

def Flaw.message : Flaw → String
  | .unknownKey key =>
    s!"Unknown configuration key: {key}. Use `blueprint config list` to see available keys."
  | .notCount setting value _ => s!"Invalid {setting.label} value: {value}"
  | .notTruth setting value => s!"Invalid {setting.label} value: {value}"
  | .depthRefused => s!"Inheritance depth must be between 1 and {depthLimit}"
  | .depthOutOfRange depth =>
    s!"compiler.max_inheritance_depth must be between 1 and {depthLimit}, got {depth}"

/-- What lies behind a flaw. -/
def Flaw.causes : Flaw → List String
  | .notCount _ _ flaw => [flaw.message]
  | .notTruth _ _ => ["provided string was not `true` or `false`"]
  | _ => []

def isDepth (depth : UInt64) : Bool :=
  1 ≤ depth && depth ≤ depthLimit

def validate (settings : Settings) : Except Flaw Unit :=
  if isDepth settings.compiler.maxDepth then .ok ()
  else .error (.depthOutOfRange settings.compiler.maxDepth)

/-- The file that settings are kept in. -/
def file (directory : String) : String :=
  Path.inside directory "config.toml"

/-- The database in use, where the settings are kept in a directory. -/
def databasePath (settings : Settings) (directory : String) : String :=
  settings.database.getD (Path.inside directory "blueprint.db")

def value (settings : Settings) (directory : String) : Setting → String
  | .maxDepth => toString settings.compiler.maxDepth
  | .storeTimeout => toString settings.compiler.storeTimeout
  | .keepsPublished => if settings.compiler.keepsPublished then "true" else "false"
  | .database => settings.databasePath directory

def withSetting (key : String) : Except Flaw Setting :=
  match Setting.ofKey? key with
  | some setting => .ok setting
  | none => .error (.unknownKey key)

def get (settings : Settings) (directory key : String) : Except Flaw String := do
  .ok (settings.value directory (← withSetting key))

def list (settings : Settings) (directory : String) : List (String × String) :=
  Setting.all.map fun setting => (setting.key, settings.value directory setting)

def readTruth (setting : Setting) (value : String) : Except Flaw Bool :=
  if value = "true" then .ok true
  else if value = "false" then .ok false
  else .error (.notTruth setting value)

def readNumber (setting : Setting) (value : String) : Except Flaw UInt64 :=
  (readCount value.toList).mapError (.notCount setting value)

/-- Blanks around the path of a database do not count, and a path of nothing else stands for
none. -/
def change (settings : Settings) (setting : Setting) (value : String) : Except Flaw Settings :=
  match setting with
  | .maxDepth => do
    let depth ← readNumber setting value
    if isDepth depth then
      .ok { settings with compiler := { settings.compiler with maxDepth := depth } }
    else .error .depthRefused
  | .storeTimeout => do
    let seconds ← readNumber setting value
    .ok { settings with compiler := { settings.compiler with storeTimeout := seconds } }
  | .keepsPublished => do
    let keeps ← readTruth setting value
    .ok { settings with compiler := { settings.compiler with keepsPublished := keeps } }
  | .database =>
    let path := Text.trim value.toList
    .ok { settings with database := if path.isEmpty then none else some (String.ofList path) }

def set (settings : Settings) (key value : String) : Except Flaw Settings := do
  settings.change (← withSetting key) value

end Settings

end KnowledgeSchema
