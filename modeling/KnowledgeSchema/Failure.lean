import KnowledgeSchema.Blueprint.Status
import KnowledgeSchema.Json.Flaw

/-!
# Failures

Why an operation on blueprints fails, with the code, the message and the hint that a user gets.
-/

namespace KnowledgeSchema

/-- The column of a stored row that a timestamp comes from. -/
inductive TimeColumn where
  | createdAt
  | updatedAt
  | publishedAt

def TimeColumn.name : TimeColumn → String
  | createdAt => "created_at"
  | updatedAt => "updated_at"
  | publishedAt => "published_at"

inductive InputFault where
  | emptyName
  | repeatedKind (kind : String)
  | unknownParent (kind parent : String)
  | secondProfile (versionId : String)
  | foreignVersion (versionId owner blueprintId : String)
  | stated (text : String)

def InputFault.text : InputFault → String
  | emptyName => "Blueprint name cannot be empty"
  | repeatedKind kind => s!"Entity kind {kind} appears more than once in the bundle"
  | unknownParent kind parent => s!"Entity type {kind} names unknown parent kind {parent}"
  | secondProfile versionId => s!"Version '{versionId}' already has an extraction profile"
  | foreignVersion versionId owner blueprintId =>
    s!"Version '{versionId}' belongs to blueprint '{owner}', not '{blueprintId}'"
  | stated text => text

inductive OtherFault where
  | invalidTime (column : TimeColumn) (value : String)
  | keptChanging (versionId : String) (status : Status)
  | noNumber (blueprintId : String)
  | stated (text : String)

def OtherFault.text : OtherFault → String
  | invalidTime column value => s!"Invalid {column.name} timestamp '{value}'"
  | keptChanging versionId status =>
    s!"Version '{versionId}' kept changing while moving it to {status.name}"
  | noNumber blueprintId => s!"Could not allocate a version number for blueprint '{blueprintId}'"
  | stated text => text

inductive Failure where
  | blueprintNotFound (id : String)
  | versionNotFound (id : String)
  | noVersions (blueprintId : String)
  | storeUnavailable
  | storeTimeout (operation : String) (seconds : Nat)
  | versionConflict (blueprintId : String) (number : Int64)
  | invalidTransition (before after : String)
  | versionNotEditable (id status : String)
  | config (text : String)
  | invalidInput (fault : InputFault)
  | serialization (flaw : Json.Flaw)
  | other (fault : OtherFault)
  | io (text : String)

namespace Failure

def kind : Failure → String
  | blueprintNotFound _ => "BlueprintNotFound"
  | versionNotFound _ => "VersionNotFound"
  | noVersions _ => "NoVersions"
  | storeUnavailable => "StoreUnavailable"
  | storeTimeout _ _ => "StoreTimeout"
  | versionConflict _ _ => "VersionConflict"
  | invalidTransition _ _ => "InvalidTransition"
  | versionNotEditable _ _ => "VersionNotEditable"
  | config _ => "ConfigError"
  | invalidInput _ => "InvalidInput"
  | serialization _ => "Serialization"
  | other _ => "Other"
  | io _ => "Io"

def code : Failure → String
  | blueprintNotFound _ => "E001"
  | versionNotFound _ => "E002"
  | noVersions _ => "E003"
  | storeUnavailable => "E100"
  | storeTimeout _ _ => "E101"
  | versionConflict _ _ => "E200"
  | invalidTransition _ _ => "E201"
  | versionNotEditable _ _ => "E202"
  | config _ => "E600"
  | invalidInput _ => "E800"
  | serialization _ => "E801"
  | other _ => "E9999"
  | io _ => "E9999"

def message : Failure → String
  | blueprintNotFound id =>
    s!"Blueprint '{id}' not found. Run `blueprint blueprints list` to see all blueprints."
  | versionNotFound id => s!"Blueprint version '{id}' not found."
  | noVersions id =>
    s!"Blueprint '{id}' has no versions. Create one with `blueprint versions create {id}`."
  | storeUnavailable => "Definition store unavailable"
  | storeTimeout operation seconds =>
    s!"Definition store call '{operation}' timed out after {seconds} seconds"
  | versionConflict blueprintId number =>
    s!"Version number {number} is already taken for blueprint '{blueprintId}'"
  | invalidTransition before after => s!"Cannot move a version from '{before}' to '{after}'"
  | versionNotEditable id status =>
    s!"Version '{id}' is {status} and can no longer be edited. " ++
      s!"Fork a new draft with `blueprint versions create --from {id}`."
  | config text => s!"Configuration error: {text}"
  | invalidInput fault => s!"Invalid input: {fault.text}"
  | serialization flaw => s!"Serialization error: {flaw.text}"
  | other fault => fault.text
  | io text => text

/-- The command that may help. -/
def suggestion : Failure → Option String
  | blueprintNotFound _ => some "blueprint blueprints list"
  | versionNotFound _ => some "blueprint versions list <blueprint-id>"
  | noVersions _ => some "blueprint versions list <blueprint-id>"
  | storeTimeout _ _ => some "blueprint config set compiler.store_timeout_secs <secs>"
  | versionNotEditable id _ => some s!"blueprint versions create <blueprint-id> --from {id}"
  | config _ => some "blueprint config list"
  | _ => none

def isNotFound : Failure → Bool
  | blueprintNotFound _ => true
  | versionNotFound _ => true
  | noVersions _ => true
  | _ => false

/-- Whether the same operation may succeed when it is tried again. -/
def isRetryable : Failure → Bool
  | storeUnavailable => true
  | storeTimeout _ _ => true
  | versionConflict _ _ => true
  | _ => false

end Failure

end KnowledgeSchema
