import Mathlib.Tactic.SplitIfs
import KnowledgeSchema.Database.Opening
import KnowledgeSchema.Proofs.Disk.Files
import KnowledgeSchema.Proofs.Program.Outcome

/-!
# Opening a database loses no rows

To open a database directories and files may be made, and tables may be set up in it. Nothing of it
touches a row, whether or not the database can be used in the end, and a database that is open has
the rows that were kept at its place.
-/

namespace KnowledgeSchema

/-! ### Rows on a disk -/

def DiskItem.rows : DiskItem → Store
  | .database db => db.store
  | _ => {}

namespace Disk

/-- The rows of the database that is kept at a place. -/
def rowsAt (disk : Disk) (place : List String) : Store :=
  ((disk.item? place).map DiskItem.rows).getD {}

/-- The same rows are kept at every place. -/
def SameRows (after before : Disk) : Prop :=
  ∀ place, after.rowsAt place = before.rowsAt place

variable {disk after between : Disk} {place : List String}

theorem SameRows.refl (disk : Disk) : disk.SameRows disk :=
  fun _ => rfl

theorem SameRows.trans (hafter : after.SameRows between) (hbetween : between.SameRows disk) :
    after.SameRows disk :=
  fun place => (hafter place).trans (hbetween place)

/-- A directory has no rows, so only what was put at a place counts. -/
theorem rowsAt_eq_lookup (disk : Disk) (place : List String) :
    disk.rowsAt place = ((disk.items.lookup place).map DiskItem.rows).getD {} := by
  unfold rowsAt item?
  cases disk.items.lookup place with
  | some item => rfl
  | none => split_ifs <;> rfl

theorem rowsAt_put (disk : Disk) (place : List String) (item : DiskItem) (other : List String) :
    (disk.put place item).rowsAt other =
      if other = place then item.rows else disk.rowsAt other := by
  rw [rowsAt_eq_lookup, rowsAt_eq_lookup, put, List.lookup_cons]
  by_cases hother : other = place
  · simp [hother]
  · have hmiss : (other == place) = false := beq_false_of_ne hother
    rw [if_neg hother, hmiss]
    exact congrArg (fun item? => (Option.map DiskItem.rows item?).getD {})
      (lookup_filter_of_ne hother)

/-- What is put at a place with the rows that were kept there takes none away. -/
theorem sameRows_put {item : DiskItem} (hrows : item.rows = disk.rowsAt place) :
    (disk.put place item).SameRows disk := by
  intro other
  rw [rowsAt_put]
  split_ifs with hother
  · rw [hother, hrows]
  · rfl

theorem rowsAt_of_item? {item? : Option DiskItem} (hitem : disk.item? place = item?) :
    disk.rowsAt place = (item?.map DiskItem.rows).getD {} := by
  rw [rowsAt, hitem]

/-! ### Directories -/

theorem sameRows_makeDirectory {path : String} (hmade : disk.makeDirectory path = .ok after) :
    after.SameRows disk := by
  obtain ⟨place, -, hput⟩ := Outcome.bind_eq_ok.mp hmade
  split at hput
  next => cases hput
  next hnone =>
    cases hput
    exact sameRows_put (rowsAt_of_item? hnone).symm

theorem sameRows_ensureDirectory {path : String} (hensured : disk.ensureDirectory path = .ok after) :
    after.SameRows disk := by
  unfold ensureDirectory at hensured
  split at hensured
  next made hmade =>
    cases hensured
    exact sameRows_makeDirectory hmade
  next =>
    split_ifs at hensured
    cases hensured
    exact .refl _

/-- Directories that were made stay even if the next one cannot be, and no rows are lost by them. -/
theorem sameRows_makeDirectories (disk : Disk) (path : Path) :
    (disk.makeDirectories path).2.SameRows disk := by
  fun_induction makeDirectories disk path with
  | case1 path made hmade => exact sameRows_ensureDirectory hmade
  | case2 => exact .refl disk
  | case3 path hmissing parent hparent hheight flaw between hbetween ih =>
    rw [hbetween] at ih
    exact ih
  | case4 path hmissing parent hparent hheight between hbetween after hmade ih =>
    rw [hbetween] at ih
    exact (sameRows_ensureDirectory hmade).trans ih
  | case5 path hmissing parent hparent hheight between hbetween flaw hflaw ih =>
    rw [hbetween] at ih
    exact ih
  | case6 => exact .refl disk

theorem sameRows_makeParent (disk : Disk) (path : String) :
    (disk.makeParent path).2.SameRows disk := by
  unfold makeParent
  split
  next => exact .refl disk
  next parent hparent =>
    have hmade := sameRows_makeDirectories disk parent
    split_ifs
    · exact .refl disk
    · split
      next after hafter =>
        rw [hafter] at hmade
        exact hmade
      next flaw after hafter =>
        rw [hafter] at hmade
        exact hmade

end Disk

/-! ### Setting up -/

namespace Database

variable {database after : Database}

theorem store_record {number : Int64} (hrecord : database.record number = .ok after) :
    after.store = database.store := by
  unfold record at hrecord
  split_ifs at hrecord
  cases hrecord
  rfl

theorem store_setUp {step : SetUp} (hstep : database.setUp step = .ok after) :
    after.store = database.store := by
  cases step with
  | table table =>
    cases hstep
    split_ifs <;> rfl
  | index index =>
    simp only [setUp] at hstep
    split_ifs at hstep <;> cases hstep <;> rfl
  | record number => exact store_record hstep

theorem store_setUpAll (steps : List SetUp) (database : Database) :
    (setUpAll steps database).2.store = database.store := by
  induction steps generalizing database with
  | nil => rfl
  | cons step rest ih =>
    rw [setUpAll]
    split
    next after hstep => exact (ih after).trans (store_setUp hstep)
    next => rfl

/-- Setting a database up leaves its rows alone. -/
theorem store_migrate (database : Database) : database.migrate.2.store = database.store := by
  simp only [migrate]
  split
  next current _ => exact store_setUpAll (Migration.pending current) database.keepRecord
  next => rfl

end Database

/-! ### Opening -/

namespace OpenDatabase

/-- A database has the rows that are kept at its place, and none if it has no place. -/
def IsKeptOn (db : OpenDatabase) (disk : Disk) : Prop :=
  db.database.store = (db.place.map disk.rowsAt).getD {}

variable {disk after : Disk} {db : OpenDatabase} {place : List String} {path : String}

theorem IsKeptOn.of_sameRows (hkept : db.IsKeptOn disk) (hsame : after.SameRows disk) :
    db.IsKeptOn after := by
  have hrows : after.rowsAt = disk.rowsAt := funext hsame
  rw [IsKeptOn, hrows]
  exact hkept

theorem IsKeptOn.nodup_versions (hkept : db.IsKeptOn disk)
    (hkeyed : ∀ place, ((disk.rowsAt place).versions.map (·.id)).Nodup) :
    (db.database.store.versions.map (·.id)).Nodup := by
  rw [hkept]
  cases db.place with
  | none => exact List.nodup_nil
  | some place => exact hkeyed place

theorem IsKeptOn.sameRows_keep (hkept : db.IsKeptOn disk) : (db.keep disk).SameRows disk := by
  unfold keep
  split
  next place hplace =>
    rw [IsKeptOn, hplace] at hkept
    exact Disk.sameRows_put hkept
  next => exact .refl disk

theorem IsKeptOn.migrate (hkept : db.IsKeptOn disk) {ready : OpenDatabase}
    (hready : db.migrate = .ok ready) : ready.IsKeptOn disk := by
  unfold OpenDatabase.migrate at hready
  have hstore := Database.store_migrate db.database
  split at hready
  next database hdatabase =>
    cases hready
    rw [hdatabase] at hstore
    exact hstore.trans hkept
  next => cases hready

theorem sameRows_makeFile (disk : Disk) (place : List String) :
    (makeFile disk place).SameRows disk := by
  unfold makeFile
  split
  next hnone _ => exact Disk.sameRows_put (Disk.rowsAt_of_item? hnone).symm
  next => exact .refl disk

theorem isKeptOn_readFile {isReadOnly : Bool} (hread : readFile disk place isReadOnly = .ok db) :
    db.IsKeptOn disk := by
  unfold readFile at hread
  split at hread
  next database hitem =>
    cases hread
    exact (Disk.rowsAt_of_item? hitem).symm
  next hitem =>
    split_ifs at hread
    cases hread
    exact (Disk.rowsAt_of_item? hitem).symm
  all_goals cases hread

theorem ofFile_keeps (disk : Disk) (path : String) (access : FileAccess) :
    (ofFile disk path access).2.SameRows disk ∧
      ∀ db, (ofFile disk path access).1 = .ok db → db.IsKeptOn (ofFile disk path access).2 := by
  unfold ofFile
  split
  next => exact ⟨.refl disk, fun db hdb => nomatch hdb⟩
  next place _ =>
    refine ⟨?_, fun db hdb => isKeptOn_readFile hdb⟩
    dsimp only
    split_ifs
    · exact sameRows_makeFile disk place
    · exact .refl disk

theorem sameRows_prepare (disk : Disk) (path : String) : (prepare disk path).2.SameRows disk := by
  have hmade := Disk.sameRows_makeParent disk path
  unfold prepare
  split
  next => exact .refl disk
  next =>
    split_ifs
    · exact .refl disk
    · split
      next after hafter =>
        rw [hafter] at hmade
        exact hmade
      next parent why after hafter =>
        rw [hafter] at hmade
        exact hmade

theorem ofAddress_keeps (disk : Disk) (path : String) :
    (ofAddress disk path).2.SameRows disk ∧
      ∀ db, (ofAddress disk path).1 = .ok db → db.IsKeptOn (ofAddress disk path).2 := by
  unfold ofAddress
  split
  next => exact ⟨.refl disk, fun db hdb => nomatch hdb⟩
  next =>
    refine ⟨.refl disk, fun db hdb => ?_⟩
    cases hdb
    rfl
  next path access _ => exact ofFile_keeps disk path access

/-- Whether or not a database can be opened, no rows are lost, and one that is open has the rows that
are kept at its place. -/
theorem ofPath_keeps (disk : Disk) (path : String) :
    (ofPath disk path).2.SameRows disk ∧
      ∀ db, (ofPath disk path).1 = .ok db → db.IsKeptOn disk := by
  have hprepared := sameRows_prepare disk path
  unfold ofPath
  split
  next flaw between hbetween =>
    rw [hbetween] at hprepared
    exact ⟨hprepared, fun db hdb => nomatch hdb⟩
  next between hbetween =>
    rw [hbetween] at hprepared
    obtain ⟨hfound, hkept⟩ := ofAddress_keeps between path
    split
    next flaw later hlater =>
      rw [hlater] at hfound
      exact ⟨hfound.trans hprepared, fun db hdb => nomatch hdb⟩
    next found later hlater =>
      rw [hlater] at hfound hkept
      have hlost := hfound.trans hprepared
      split
      next flaw _ => exact ⟨hlost, fun db hdb => nomatch hdb⟩
      next ready hready =>
        have hheld := (hkept found rfl).migrate hready
        refine ⟨hheld.sameRows_keep.trans hlost, fun db hdb => ?_⟩
        cases hdb
        exact hheld.of_sameRows fun place => (hlost place).symm

end OpenDatabase

end KnowledgeSchema
