import KnowledgeSchema.Database.Basic
import KnowledgeSchema.Disk.Path

/-!
# Disks

A tree of directories that holds texts and databases, and what goes wrong with it. A place in the
tree is the list of the names that lead there, so the root is the empty list. A path is followed
name by name, and only a directory that is there lets anything be looked up in it.
-/

namespace KnowledgeSchema

inductive DiskItem where
  | directory
  | text (content : String)
  | database (db : Database)
  /-- A file that holds neither. -/
  | other

def DiskItem.isDirectory : DiskItem → Bool
  | directory => true
  | _ => false

structure Disk where
  /-- What was put at places. Every place on the way to one of them is a directory. -/
  items : List (List String × DiskItem) := []
  /-- The place that paths start from, unless they start from the root. -/
  directory : List String := []

namespace Disk

inductive Flaw where
  | missing
  | isDirectory
  | notDirectory
  | isThere
  | nameTooLong
  | holdsNull
  | notText

def Flaw.message : Flaw → String
  | .missing => "No such file or directory (os error 2)"
  | .isDirectory => "Is a directory (os error 21)"
  | .notDirectory => "Not a directory (os error 20)"
  | .isThere => "File exists (os error 17)"
  | .nameTooLong => "File name too long (os error 36)"
  | .holdsNull => "file name contained an unexpected NUL byte"
  | .notText => "stream did not contain valid UTF-8"

/-! ## Places -/

def item? (disk : Disk) (place : List String) : Option DiskItem :=
  match disk.items.lookup place with
  | some item => some item
  | none =>
    if place.isEmpty || disk.items.any fun (other, _) => place.isPrefixOf other then
      some .directory
    else none

def put (disk : Disk) (place : List String) (item : DiskItem) : Disk :=
  { disk with items := (place, item) :: disk.items.filter (·.1 != place) }

/-- Takes away what is at a place. The directory that it was in stays. -/
def drop (disk : Disk) (place : List String) : Disk :=
  { disk with items := disk.items.filter (·.1 != place) }.put place.dropLast .directory

/-! ## Ways -/

/-- The names of a path. Empty pieces lead nowhere. -/
def names (path : String) : List String :=
  (path.splitOn "/").filter (· != "")

/-- The place that a path starts from. -/
def origin (disk : Disk) (path : String) : List String :=
  if path.startsWith "/" then [] else disk.directory

/-- The longest name in bytes. -/
def longestName : Nat :=
  255

/-- A path of this length in bytes is too long. -/
def pathLimit : Nat :=
  4096

/-- Looks up a name at a place, where one dot names the directory itself and two name the one above
it. -/
def enter (disk : Disk) (here : List String) (name : String) : Except Flaw (List String) :=
  match disk.item? here with
  | none => .error .missing
  | some .directory =>
    if name == "." then .ok here
    else if name == ".." then .ok here.dropLast
    else if longestName < name.utf8ByteSize then .error .nameTooLong
    else .ok (here ++ [name])
  | some _ => .error .notDirectory

/-- The place that a path leads to, whether or not something is there. -/
def find (disk : Disk) (path : String) : Except Flaw (List String) :=
  if path.contains '\x00' then .error .holdsNull
  else if path.isEmpty then .error .missing
  else if pathLimit ≤ path.utf8ByteSize then .error .nameTooLong
  else (names path).foldlM disk.enter (disk.origin path)

/-- What a path leads to. One that ends with a slash leads to a directory only. -/
def look (disk : Disk) (path : String) : Except Flaw DiskItem := do
  match disk.item? (← disk.find path) with
  | none => .error .missing
  | some item =>
    if path.endsWith "/" && !item.isDirectory then .error .notDirectory else .ok item

def isThere (disk : Disk) (path : String) : Bool :=
  (disk.look path).toOption.isSome

def hasDirectory (disk : Disk) (path : String) : Bool :=
  match disk.look path with
  | .ok item => item.isDirectory
  | .error _ => false

/-! ## Files -/

def read (disk : Disk) (path : String) : Except Flaw String := do
  match ← disk.look path with
  | .directory => .error .isDirectory
  | .text content => .ok content
  | .database _ => .error .notText
  | .other => .error .notText

/-- Writes a text into a directory that is there. -/
def write (disk : Disk) (path content : String) : Except Flaw Disk := do
  let place ← disk.find path
  if path.endsWith "/" then .error .isDirectory
  else
    match disk.item? place with
    | some .directory => .error .isDirectory
    | _ => .ok (disk.put place (.text content))

/-- Removes a file. -/
def remove (disk : Disk) (path : String) : Except Flaw Disk := do
  match ← disk.look path with
  | .directory => .error .isDirectory
  | _ => .ok (disk.drop (← disk.find path))

/-! ## Directories -/

/-- Makes a directory in one that is there. -/
def makeDirectory (disk : Disk) (path : String) : Except Flaw Disk := do
  let place ← disk.find path
  match disk.item? place with
  | some _ => .error .isThere
  | none => .ok (disk.put place .directory)

/-- Makes a directory where there may be one already. -/
def ensureDirectory (disk : Disk) (path : String) : Except Flaw Disk :=
  match disk.makeDirectory path with
  | .ok disk => .ok disk
  | .error flaw => if disk.hasDirectory path then .ok disk else .error flaw

/-- Makes a directory and those above it that are not there. The ones that were made stay even if
the next one cannot be. -/
def makeDirectories (disk : Disk) (path : Path) : Except Flaw Unit × Disk :=
  match disk.ensureDirectory path.text with
  | .ok disk => (.ok (), disk)
  | .error .missing =>
    match h : path.parent? with
    | none => (.error .missing, disk)
    | some parent =>
      have := Path.height_lt_of_parent? h
      match disk.makeDirectories parent with
      | (.error flaw, disk) => (.error flaw, disk)
      | (.ok (), disk) =>
        match disk.ensureDirectory path.text with
        | .ok disk => (.ok (), disk)
        | .error flaw => (.error flaw, disk)
  | .error flaw => (.error flaw, disk)
termination_by path.height

/-- Makes the directory that a path is in, and tells the path of it if that fails. -/
def makeParent (disk : Disk) (path : String) : Except (String × Flaw) Unit × Disk :=
  match Path.above? path with
  | none => (.ok (), disk)
  | some parent =>
    if parent.text.isEmpty then (.ok (), disk)
    else
      match disk.makeDirectories parent with
      | (.ok (), disk) => (.ok (), disk)
      | (.error flaw, disk) => (.error (parent.text, flaw), disk)

end Disk

end KnowledgeSchema
