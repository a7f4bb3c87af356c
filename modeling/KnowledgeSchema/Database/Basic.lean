import KnowledgeSchema.Store.Edit

/-!
# Databases

A store together with what has been set up for it: the tables and indexes that were created, and the
numbers of the migrations that were recorded. Setting up what is there already changes nothing.
-/

namespace KnowledgeSchema

/-- An index of a table on one of its columns. -/
structure Index where
  table : Table
  column : String
deriving DecidableEq

structure Database where
  /-- Whether there is a table to record migrations in. -/
  keepsRecord : Bool := false
  recorded : List Int64 := []
  tables : List Table := []
  indexes : List Index := []
  store : Store := {}

/-- One step of setting up a database. -/
inductive SetUp where
  | table (table : Table)
  | index (index : Index)
  /-- The number of a migration, which can be recorded once. -/
  | record (number : Int64)

namespace Database

inductive Flaw where
  /-- There is no table to record migrations in. -/
  | keepsNoRecord
  | recordedBefore (number : Int64)
  | noTable (table : Table)
  /-- The highest number recorded does not fit in 32 bits. -/
  | numberTooLarge (number : Int64)

def Flaw.message : Flaw → String
  | .keepsNoRecord => "no such table: _migrations"
  | .recordedBefore _ => "UNIQUE constraint failed: _migrations.version"
  | .noTable table => s!"no such table: main.{table.name}"
  | .numberTooLarge _ => "out of range integral type conversion attempted"

def keepRecord (db : Database) : Database :=
  { db with keepsRecord := true }

def has (db : Database) (table : Table) : Bool :=
  db.tables.contains table

def record (db : Database) (number : Int64) : Except Flaw Database :=
  if !db.keepsRecord then .error .keepsNoRecord
  else if db.recorded.contains number then .error (.recordedBefore number)
  else .ok { db with recorded := db.recorded ++ [number] }

def setUp (db : Database) : SetUp → Except Flaw Database
  | .table table => .ok (if db.has table then db else { db with tables := db.tables ++ [table] })
  | .index index =>
    if db.indexes.contains index then .ok db
    else if db.has index.table then .ok { db with indexes := db.indexes ++ [index] }
    else .error (.noTable index.table)
  | .record number => db.record number

/-- Takes steps one after another, up to the first that fails. -/
def setUpAll : List SetUp → Database → Except Flaw Unit × Database
  | [], db => (.ok (), db)
  | step :: rest, db =>
    match db.setUp step with
    | .ok db => setUpAll rest db
    | .error flaw => (.error flaw, db)

/-- The highest number recorded, or zero. -/
def current (db : Database) : Except Flaw Int :=
  match db.recorded.max? with
  | none => .ok 0
  | some number =>
    if Int32.minValue.toInt ≤ number.toInt && number.toInt ≤ Int32.maxValue.toInt then
      .ok number.toInt
    else .error (.numberTooLarge number)

/-- What a store answers when one of its tables may be missing. -/
def listBlueprints (db : Database) : Except Failure (List Blueprint) :=
  if db.has .blueprints then db.store.listBlueprints else .error .storeUnavailable

end Database

end KnowledgeSchema
