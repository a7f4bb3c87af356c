import KnowledgeSchema.Settings.Basic
import KnowledgeSchema.Toml.Document

/-!
# Settings as a document

The TOML document that settings are kept in. Reading it takes what it needs, leaves the rest alone,
and has a default for everything that is not there. A count that does not fit in 64 bits with a
sign cannot be written.
-/

namespace KnowledgeSchema.Settings

/-! ## Writing -/

def writeCount (n : UInt64) : Option (List Char) :=
  if n.toNat ≤ Int64.maxValue.toInt.toNat then some (Nat.toDigits 10 n.toNat) else none

def writeTruth (value : Bool) : List Char :=
  if value then "true".toList else "false".toList

/-- A line that gives a value to a key. -/
def pairLine (key : String) (value : List Char) : List Char :=
  key.toList ++ " = ".toList ++ value ++ ['\n']

def headerLine (name : String) : List Char :=
  '[' :: name.toList ++ [']', '\n']

def write (settings : Settings) : Option (List Char) := do
  let depth ← writeCount settings.compiler.maxDepth
  let timeout ← writeCount settings.compiler.storeTimeout
  some <|
    headerLine "compiler" ++ pairLine "max_inheritance_depth" depth ++
      pairLine "store_timeout_secs" timeout ++
      pairLine "cache_published" (writeTruth settings.compiler.keepsPublished) ++ ['\n'] ++
      headerLine "database" ++
      match settings.database with
      | none => []
      | some path => pairLine "path" (Toml.quote path.toList)

/-! ## Reading -/

def countOf? : Toml → Option UInt64
  | .integer n => if n.toInt < 0 then none else some (UInt64.ofNat n.toInt.toNat)
  | _ => none

def truthOf? : Toml → Option Bool
  | .flag value => some value
  | _ => none

def textOf? : Toml → Option String
  | .text value => some value
  | _ => none

/-- A value that may be left out. -/
def readOr {α : Type} (default : α) (read : Toml → Option α) : Option Toml → Option α
  | none => some default
  | some value => read value

def readCompiler (value : Toml) : Option CompilerSettings := do
  let field ← value.field?
  let base : CompilerSettings := {}
  let maxDepth ← readOr base.maxDepth countOf? (field 0 "max_inheritance_depth")
  let storeTimeout ← readOr base.storeTimeout countOf? (field 1 "store_timeout_secs")
  let keepsPublished ← readOr base.keepsPublished truthOf? (field 2 "cache_published")
  some { maxDepth, storeTimeout, keepsPublished }

/-- The path of the database in its own part of the settings. -/
def readDatabase (value : Toml) : Option (Option String) := do
  let field ← value.field?
  readOr none (some <$> textOf? ·) (field 0 "path")

def read? (document : String) : Option Settings := do
  let members ← Toml.parse? document
  let compiler ← readOr {} readCompiler (members.lookup "compiler")
  let database ← readOr none readDatabase (members.lookup "database")
  some { compiler, database }

end KnowledgeSchema.Settings
