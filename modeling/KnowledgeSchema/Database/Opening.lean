import KnowledgeSchema.Database.Address
import KnowledgeSchema.Database.Migration
import KnowledgeSchema.Disk.Basic

/-!
# Opening databases

The database of a path is found on a disk and brought up to date. A file that is not there is made,
and so is the directory that it is in. What was made stays, even if the database cannot be used.
-/

namespace KnowledgeSchema

/-- A database in use, with the place that it is kept at, if it is kept. -/
structure OpenDatabase where
  database : Database
  place : Option (List String) := none
  isReadOnly : Bool := false

namespace OpenDatabase

inductive Flaw where
  | noDirectory (path : String) (why : Disk.Flaw)
  | address (flaw : Address.Flaw)
  | cannotOpen
  | noDatabase
  | migration (flaw : Database.Flaw)

/-! ## Places of files -/

/-- The places that names lead by. Two dots take back the name before them, whether or not it is
that of a directory. -/
def stops (start : List String) : List String → List (List String)
  | [] => []
  | "." :: names => stops start names
  | ".." :: names => start.dropLast :: stops start.dropLast names
  | name :: names => (start ++ [name]) :: stops (start ++ [name]) names

/-- The longest name in bytes for which there can be a journal, whose name is longer. -/
def longestName : Nat :=
  247

/-- The longest path from the root in bytes, and the longest on the way to it. -/
def longestPath : Nat × Nat :=
  (504, 511)

def pathLength (place : List String) : Nat :=
  place.foldr (fun name length => name.utf8ByteSize + 1 + length) 0

/-- Whether a place may be passed on the way to a file: no file is above it, and every name on it
could be that of something in the directory that it is in. -/
def canPass (disk : Disk) (place : List String) : Bool :=
  pathLength place ≤ longestPath.2 &&
    (List.range place.length).all fun depth =>
      match disk.item? (place.take depth), place[depth]? with
      | some item, some name => item.isDirectory && name.utf8ByteSize ≤ Disk.longestName
      | _, _ => true

/-- The place of a file, if there is no hindrance on the way to it. -/
def placeOf? (disk : Disk) (path : String) : Option (List String) :=
  let start := disk.origin path
  let passed := stops start (Disk.names path)
  let place := passed.getLastD start
  if passed.all (canPass disk) && pathLength place ≤ longestPath.1 then some place else none

/-! ## Files -/

/-- The disk with an empty file at a place where nothing was. -/
def makeFile (disk : Disk) (place : List String) : Disk :=
  match disk.item? place, disk.item? place.dropLast with
  | none, some .directory => disk.put place (.text "")
  | _, _ => disk

/-- What there is in a file. An empty file will do for an empty database that can be changed. -/
def readFile (disk : Disk) (place : List String) (isReadOnly : Bool) :
    Except Flaw OpenDatabase :=
  match disk.item? place with
  | some (.database database) => .ok { database, place := some place, isReadOnly }
  | some (.text "") =>
    if isReadOnly || longestName < (place.getLastD "").utf8ByteSize then .error .cannotOpen
    else .ok { database := {}, place := some place }
  | some (.text _) => .error .noDatabase
  | some .other => .error .noDatabase
  | some .directory => .error .cannotOpen
  | none => .error .cannotOpen

def ofFile (disk : Disk) (path : String) (access : FileAccess) : Except Flaw OpenDatabase × Disk :=
  match placeOf? disk path with
  | none => (.error .cannotOpen, disk)
  | some place =>
    let disk := if access == .create then makeFile disk place else disk
    (readFile disk place (access == .read), disk)

/-! ## Opening -/

/-- Makes the directory in which a path is, unless something is there. -/
def prepare (disk : Disk) (path : String) : Except Flaw Unit × Disk :=
  match Path.above? path with
  | none => (.ok (), disk)
  | some parent =>
    if disk.isThere parent.text then (.ok (), disk)
    else
      match disk.makeParent path with
      | (.ok (), disk) => (.ok (), disk)
      | (.error (parent, why), disk) => (.error (.noDirectory parent why), disk)

def ofAddress (disk : Disk) (path : String) : Except Flaw OpenDatabase × Disk :=
  match Address.read path with
  | .error flaw => (.error (.address flaw), disk)
  | .ok .nowhere => (.ok { database := {} }, disk)
  | .ok (.file path access) => ofFile disk path access

/-- The database with everything that it needs. -/
def migrate (db : OpenDatabase) : Except Flaw OpenDatabase :=
  match db.database.migrate with
  | (.ok (), database) => .ok { db with database }
  | (.error flaw, _) => .error (.migration flaw)

/-- The disk with the database where it belongs. -/
def keep (db : OpenDatabase) (disk : Disk) : Disk :=
  match db.place with
  | some place => disk.put place (.database db.database)
  | none => disk

/-- The database of a path, up to date, and the disk with everything that was made for it. -/
def ofPath (disk : Disk) (path : String) : Except Flaw OpenDatabase × Disk :=
  match prepare disk path with
  | (.error flaw, disk) => (.error flaw, disk)
  | (.ok (), disk) =>
    match ofAddress disk path with
    | (.error flaw, disk) => (.error flaw, disk)
    | (.ok db, disk) =>
      match db.migrate with
      | .error flaw => (.error flaw, disk)
      | .ok db => (.ok db, db.keep disk)

end OpenDatabase

end KnowledgeSchema
