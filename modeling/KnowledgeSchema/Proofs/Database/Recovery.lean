import Mathlib.Logic.Relation
import KnowledgeSchema.Database.Migration
import KnowledgeSchema.Proofs.Database.Constraints
import KnowledgeSchema.Proofs.Numbering.Sequence

/-!
# Interrupted migrations

The scripts of all migrations make one course of steps, and at every moment some first steps of it
have been taken. That is so however often a run was cut off, wherever that was, and even if several
runs go on at the same time: a run takes steps that were taken before again, which changes nothing,
until it comes to a new one. What a run has left to do after the highest number on record holds no
number that is on record, so the next run that is not cut off comes to the end of the course.
-/

namespace KnowledgeSchema

namespace SetUp

def table? : SetUp → Option Table
  | .table each => some each
  | _ => none

def index? : SetUp → Option Index
  | .index each => some each
  | _ => none

def number? : SetUp → Option Int64
  | .record number => some number
  | _ => none

end SetUp

/-- The columns of a table that have an index. -/
def Table.indexed : Table → List String
  | blueprints => ["name"]
  | versions => ["blueprint_id", "status"]
  | entityTypes | relationshipTypes | viewTemplates | mapsOfContent => ["version_id"]
  | fields => ["entity_type_id"]
  | attributes => ["relationship_type_id"]
  | profiles => []
  | labelMappings | ignoreEntries => ["profile_id"]

theorem Table.mem_all (table : Table) : table ∈ all := by
  cases table <;> decide

def Index.all : List Index :=
  Table.all.flatMap fun table => table.indexed.map fun column => ⟨table, column⟩

/-! ### The course -/

namespace Migration

/-- The steps that lead from an empty database to one that is up to date. -/
def course : List SetUp :=
  all.flatMap steps

/-- Every table is set up before its indexes. -/
theorem course_ordered : ∀ place < course.length, ∀ step ∈ course[place]?, ∀ index ∈ step.index?,
    index.table ∈ (course.take place).filterMap SetUp.table? := by
  decide

theorem scripts_unnumbered : ∀ migration ∈ all, migration.script.filterMap SetUp.number? = [] := by
  decide

theorem numbers_increase : all.Pairwise fun first second =>
    first.number.toInt < second.number.toInt := by
  decide

theorem number_mem_range : ∀ migration ∈ all,
    0 < migration.number.toInt ∧ migration.number.toInt ≤ target := by
  decide

/-- What was done of some migrations: all steps of the first ones, and some steps of the script of the
next one, which is not on record. -/
theorem exists_finished {migrations : List Migration} {done : List SetUp}
    (hscripts : ∀ migration ∈ migrations, migration.script.filterMap SetUp.number? = [])
    (hdone : done <+: migrations.flatMap steps) :
    ∃ finished rest begun, migrations = finished ++ rest ∧
      done = finished.flatMap steps ++ begun ∧ begun.filterMap SetUp.number? = [] := by
  induction migrations generalizing done with
  | nil => exact ⟨[], [], [], rfl, List.prefix_nil.mp hdone, rfl⟩
  | cons migration migrations ih =>
    rw [List.flatMap_cons, steps, List.append_assoc] at hdone
    rcases List.prefix_or_prefix_of_prefix hdone (List.prefix_append _ _) with hscript | ⟨more, rfl⟩
    · refine ⟨[], migration :: migrations, done, rfl, rfl, List.eq_nil_iff_forall_not_mem.mpr ?_⟩
      intro number hnumber
      have hmem := (hscript.filterMap SetUp.number?).subset hnumber
      rw [hscripts migration List.mem_cons_self] at hmem
      cases hmem
    · rw [List.prefix_append_right_inj] at hdone
      cases more with
      | nil =>
        refine ⟨[], migration :: migrations, migration.script, rfl, List.append_nil _, ?_⟩
        exact hscripts migration List.mem_cons_self
      | cons step more =>
        rw [List.singleton_append, List.cons_prefix_cons] at hdone
        obtain ⟨rfl, hmore⟩ := hdone
        obtain ⟨finished, rest, begun, rfl, rfl, hbegun⟩ := ih
          (fun other hother => hscripts other (List.mem_cons_of_mem _ hother)) hmore
        refine ⟨migration :: finished, rest, begun, rfl, ?_, hbegun⟩
        simp [steps]

theorem numbers_of_finished {finished : List Migration} (hall : ∀ migration ∈ finished, migration ∈ all) :
    (finished.flatMap steps).filterMap SetUp.number? = finished.map (·.number) := by
  induction finished with
  | nil => rfl
  | cons migration finished ih =>
    rw [List.flatMap_cons, List.filterMap_append, steps, List.filterMap_append,
      scripts_unnumbered migration (hall migration List.mem_cons_self),
      ih fun other hother => hall other (List.mem_cons_of_mem _ hother)]
    rfl

/-- Behind the numbers of the first migrations, the others are left to do. -/
theorem pending_eq {finished rest : List Migration} (hall : all = finished ++ rest) {current : Int}
    (hfinished : ∀ migration ∈ finished, migration.number.toInt ≤ current)
    (hrest : ∀ migration ∈ rest, current < migration.number.toInt) :
    pending current = rest.flatMap steps := by
  have hnone : finished.filter (fun migration => current < migration.number.toInt) = [] :=
    List.filter_eq_nil_iff.mpr fun migration hmem => by simpa using hfinished migration hmem
  have hothers : rest.filter (fun migration => current < migration.number.toInt) = rest :=
    List.filter_eq_self.mpr fun migration hmem => by simpa using hrest migration hmem
  rw [pending, hall, List.filter_append, hnone, hothers, List.nil_append]

end Migration

/-! ### Databases on the course -/

namespace Database

variable {db : Database} {rows : Store} {done taken left : List SetUp} {step : SetUp}

/-- The database in which some steps were taken, with some rows. -/
def ofSteps (done : List SetUp) (rows : Store) : Database where
  keepsRecord := true
  recorded := done.filterMap SetUp.number?
  tables := done.filterMap SetUp.table?
  indexes := done.filterMap SetUp.index?
  store := rows

/-- A database with every table, each with its constraints and its indexes, and with both migrations
on record. -/
def upToDate (rows : Store) : Database where
  keepsRecord := true
  recorded := [1, 2]
  tables := Table.all
  indexes := Index.all
  store := rows

theorem upToDate_eq (rows : Store) : upToDate rows = ofSteps Migration.course rows := rfl

theorem ofSteps_concat (done : List SetUp) (step : SetUp) (rows : Store) :
    ofSteps (done ++ [step]) rows =
      { ofSteps done rows with
        recorded := (ofSteps done rows).recorded ++ step.number?.toList
        tables := (ofSteps done rows).tables ++ step.table?.toList
        indexes := (ofSteps done rows).indexes ++ step.index?.toList } := by
  simp only [ofSteps, List.filterMap_append]
  cases step <;> rfl

theorem keepRecord_eq_self (hkeeps : db.keepsRecord = true) : db.keepRecord = db := by
  rw [keepRecord, ← hkeeps]

/-- A step that was taken changes nothing, or is refused if it is on record. -/
theorem setUp_of_mem (hmem : step ∈ done) :
    (ofSteps done rows).setUp step =
      match step.number? with
      | none => .ok (ofSteps done rows)
      | some number => .error (.recordedBefore number) := by
  cases step with
  | table each =>
    have htable : (ofSteps done rows).has each = true :=
      List.contains_iff_mem.mpr (List.mem_filterMap.mpr ⟨_, hmem, rfl⟩)
    simp only [setUp, htable, if_true]
    rfl
  | index each =>
    have hindex : (ofSteps done rows).indexes.contains each = true :=
      List.contains_iff_mem.mpr (List.mem_filterMap.mpr ⟨_, hmem, rfl⟩)
    simp only [setUp, hindex, if_true]
    rfl
  | record number =>
    have hnumber : (ofSteps done rows).recorded.contains number = true :=
      List.contains_iff_mem.mpr (List.mem_filterMap.mpr ⟨_, hmem, rfl⟩)
    simp only [setUp, record, hnumber, if_true]
    rfl

/-- What the next step sets up is not there yet. -/
theorem not_mem_of_next {α : Type} (f : SetUp → Option α)
    (hnodup : (Migration.course.filterMap f).Nodup) (hnext : done ++ [step] <+: Migration.course)
    {item : α} (hitem : f step = some item) : item ∉ done.filterMap f := by
  have hsome := hnodup.sublist (hnext.filterMap f).sublist
  rw [List.filterMap_append, List.nodup_append] at hsome
  exact fun hmem => hsome.2.2 item hmem item (List.mem_filterMap.mpr
    ⟨step, List.mem_singleton_self step, hitem⟩) rfl

theorem setUp_next (hnext : done ++ [step] <+: Migration.course) :
    (ofSteps done rows).setUp step = .ok (ofSteps (done ++ [step]) rows) := by
  cases step with
  | table each =>
    have hnew := not_mem_of_next SetUp.table? (by decide) hnext rfl
    have htable : (ofSteps done rows).has each = false := by simpa [has, ofSteps] using hnew
    simp [setUp, htable, ofSteps_concat, SetUp.table?, SetUp.index?, SetUp.number?]
  | index each =>
    have hnew := not_mem_of_next SetUp.index? (by decide) hnext rfl
    have hindex : each ∉ (ofSteps done rows).indexes := hnew
    have htable : (ofSteps done rows).has each.table = true := by
      obtain ⟨rest, hcourse⟩ := hnext
      have hplace : Migration.course[done.length]? = some (.index each) := by
        rw [← hcourse]
        simp
      have htake : Migration.course.take done.length = done := by
        rw [← hcourse]
        simp
      have hmem := Migration.course_ordered done.length (by rw [← hcourse]; simp) _ hplace each rfl
      rw [htake] at hmem
      exact List.contains_iff_mem.mpr hmem
    simp [setUp, hindex, htable, ofSteps_concat, SetUp.table?, SetUp.index?, SetUp.number?]
  | record number =>
    have hnew := not_mem_of_next SetUp.number? (by decide) hnext rfl
    have hnumber : number ∉ (ofSteps done rows).recorded := hnew
    have hkeeps : (ofSteps done rows).keepsRecord = true := rfl
    simp [setUp, record, hkeeps, hnumber, ofSteps_concat, SetUp.table?, SetUp.index?, SetUp.number?]

/-- A run that is on the course takes a step that was taken before, or the next one. -/
theorem taken_or_next (htaken : taken <+: done) (hdone : done <+: Migration.course)
    (hcourse : taken ++ step :: left = Migration.course) :
    taken ++ [step] <+: done ∨ done = taken := by
  have hstep : taken ++ [step] <+: Migration.course := ⟨left, by rw [← hcourse]; simp⟩
  rcases List.prefix_or_prefix_of_prefix hstep hdone with hbefore | hbehind
  · exact Or.inl hbefore
  · rcases List.prefix_concat_iff.mp hbehind with hequal | hbehind
    · exact Or.inl (hequal ▸ List.prefix_rfl)
    · exact Or.inr (hbehind.eq_of_length (le_antisymm hbehind.length_le htaken.length_le))

/-- A run gets to the end of the course if nothing that it has to record is on record. -/
theorem setUpAll_left (htaken : taken <+: done) (hdone : done <+: Migration.course)
    (hcourse : taken ++ left = Migration.course)
    (hunrecorded : ∀ number ∈ left.filterMap SetUp.number?, number ∉ done.filterMap SetUp.number?) :
    setUpAll left (ofSteps done rows) = (.ok (), ofSteps Migration.course rows) := by
  induction left generalizing taken done with
  | nil =>
    rw [List.append_nil] at hcourse
    have hend : done = Migration.course :=
      hdone.eq_of_length (le_antisymm hdone.length_le (hcourse ▸ htaken.length_le))
    rw [hend]
    rfl
  | cons step left ih =>
    have hnext : taken ++ [step] ++ left = Migration.course := by rw [← hcourse]; simp
    have hothers : ∀ number ∈ left.filterMap SetUp.number?,
        number ∈ (step :: left).filterMap SetUp.number? := fun number hnumber =>
      ((List.sublist_cons_self step left).filterMap _).subset hnumber
    rw [setUpAll]
    rcases taken_or_next htaken hdone hcourse with hbefore | rfl
    · have hmem : step ∈ done := hbefore.subset (by simp)
      have hscript : step.number? = none := by
        by_contra hsome
        obtain ⟨number, hnumber⟩ := Option.ne_none_iff_exists'.mp hsome
        exact hunrecorded number (List.mem_filterMap.mpr ⟨step, List.mem_cons_self, hnumber⟩)
          (List.mem_filterMap.mpr ⟨step, hmem, hnumber⟩)
      rw [setUp_of_mem hmem, hscript]
      exact ih hbefore hdone hnext fun number hnumber => hunrecorded number (hothers number hnumber)
    · have hprefix : done ++ [step] <+: Migration.course := ⟨left, hnext⟩
      rw [setUp_next hprefix]
      refine ih List.prefix_rfl hprefix hnext fun number hnumber hmem => ?_
      rw [List.filterMap_append, List.mem_append] at hmem
      rcases hmem with hmem | hmem
      · exact hunrecorded number (hothers number hnumber) hmem
      · -- The course records no number twice.
        have hnodup : (Migration.course.filterMap SetUp.number?).Nodup := by decide
        rw [← hnext, List.filterMap_append, List.filterMap_append, List.nodup_append] at hnodup
        exact hnodup.2.2 number (List.mem_append_right _ hmem) number hnumber rfl

/-- With the first migrations on record, the record can be read and tells them from the others. -/
theorem exists_current {finished rest : List Migration} (hall : Migration.all = finished ++ rest)
    (hrecorded : db.recorded = finished.map (·.number)) :
    ∃ current, db.current = .ok current ∧
      (∀ migration ∈ finished, migration.number.toInt ≤ current) ∧
      ∀ migration ∈ rest, current < migration.number.toInt := by
  have hincrease := Migration.numbers_increase
  rw [hall, List.pairwise_append] at hincrease
  rw [Database.current, hrecorded]
  cases hmax : (finished.map (·.number)).max? with
  | none =>
    rw [List.max?_eq_none_iff, List.map_eq_nil_iff] at hmax
    subst hmax
    exact ⟨0, rfl, fun migration hmem => absurd hmem List.not_mem_nil, fun migration hmem =>
      (Migration.number_mem_range migration (hall ▸ List.mem_append_right _ hmem)).1⟩
  | some number =>
    obtain ⟨hmem, hmost⟩ := List.max?_eq_some_iff.mp hmax
    obtain ⟨last, hlast, rfl⟩ := List.mem_map.mp hmem
    obtain ⟨hpositive, hbound⟩ :=
      Migration.number_mem_range last (hall ▸ List.mem_append_left _ hlast)
    have hfits : (Int32.minValue.toInt ≤ last.number.toInt &&
        last.number.toInt ≤ Int32.maxValue.toInt) = true := by
      have hleast : Int32.minValue.toInt ≤ 0 := by decide
      have hgreatest : Migration.target ≤ Int32.maxValue.toInt := by decide
      simp only [Bool.and_eq_true, decide_eq_true_eq]
      omega
    refine ⟨last.number.toInt, by simp only [hfits, if_true], fun migration hmem => ?_,
      fun migration hmem => hincrease.2.2 last hlast migration hmem⟩
    exact Int64.le_iff_toInt_le.mp (hmost _ (List.mem_map_of_mem hmem))

/-- What a run finds left to do leads from steps that were taken to the end of the course, and holds
no number that is on record. -/
theorem exists_pending (rows : Store) (hdone : done <+: Migration.course) :
    ∃ current taken, (ofSteps done rows).current = .ok current ∧ taken <+: done ∧
      taken ++ Migration.pending current = Migration.course ∧
      ∀ number ∈ (Migration.pending current).filterMap SetUp.number?,
        number ∉ done.filterMap SetUp.number? := by
  obtain ⟨finished, rest, begun, hall, rfl, hbegun⟩ :=
    Migration.exists_finished Migration.scripts_unnumbered hdone
  have hfinished : ∀ migration ∈ finished, migration ∈ Migration.all := fun migration hmem =>
    hall ▸ List.mem_append_left _ hmem
  have hrest : ∀ migration ∈ rest, migration ∈ Migration.all := fun migration hmem =>
    hall ▸ List.mem_append_right _ hmem
  have hrecorded : (finished.flatMap Migration.steps ++ begun).filterMap SetUp.number? =
      finished.map (·.number) := by
    rw [List.filterMap_append, hbegun, List.append_nil, Migration.numbers_of_finished hfinished]
  obtain ⟨current, hcurrent, hmost, hahead⟩ :=
    @exists_current (ofSteps (finished.flatMap Migration.steps ++ begun) rows) _ _ hall hrecorded
  have hpending := Migration.pending_eq hall hmost hahead
  refine ⟨current, finished.flatMap Migration.steps, hcurrent, List.prefix_append _ _, ?_, ?_⟩
  · rw [hpending, Migration.course, hall, List.flatMap_append]
  · intro number hnumber hmem
    rw [hpending, Migration.numbers_of_finished hrest] at hnumber
    rw [hrecorded] at hmem
    obtain ⟨later, hlater, rfl⟩ := List.mem_map.mp hnumber
    obtain ⟨earlier, hearlier, hsame⟩ := List.mem_map.mp hmem
    have hbehind := (hmost earlier hearlier).trans_lt (hahead later hlater)
    rw [hsame] at hbehind
    exact lt_irrefl _ hbehind

/-- From anywhere on the course, a run that is not cut off brings a database up to date. -/
theorem migrate_of_keepRecord (hdone : done <+: Migration.course)
    (hdb : db.keepRecord = ofSteps done rows) : db.migrate = (.ok (), upToDate rows) := by
  obtain ⟨current, taken, hcurrent, htaken, hcourse, hunrecorded⟩ := exists_pending rows hdone
  simp only [migrate, hdb, hcurrent, upToDate_eq]
  exact setUpAll_left htaken hdone hcourse hunrecorded

theorem migrate_upToDate (rows : Store) : (upToDate rows).migrate = (.ok (), upToDate rows) :=
  migrate_of_keepRecord List.prefix_rfl rfl

/-- A database that has a later migration on record is left as it is, and a run ends well if the
number of it can be read. -/
theorem migrate_of_ahead (hkeeps : db.keepsRecord = true) {number : Int64}
    (hmem : number ∈ db.recorded) (hahead : Migration.target < number.toInt) :
    db.migrate = (db.current.map fun _ => (), db) := by
  simp only [migrate, keepRecord_eq_self hkeeps]
  cases hcurrent : db.current with
  | error flaw => rfl
  | ok current =>
    have hmost : number.toInt ≤ current := by
      rw [Database.current] at hcurrent
      cases hmax : db.recorded.max? with
      | none =>
        rw [List.max?_eq_none_iff] at hmax
        rw [hmax] at hmem
        cases hmem
      | some greatest =>
        rw [hmax] at hcurrent
        dsimp only at hcurrent
        split_ifs at hcurrent
        cases hcurrent
        exact Int64.le_iff_toInt_le.mp ((List.max?_eq_some_iff.mp hmax).2 number hmem)
    have hpending : Migration.pending current = [] := by
      refine Migration.pending_eq (List.append_nil _).symm (fun migration hall => ?_)
        fun migration hnone => absurd hnone List.not_mem_nil
      exact ((Migration.number_mem_range migration hall).2.trans_lt hahead).le.trans hmost
    simp only [hpending]
    rfl

/-- What a run that begins now has to do. -/
def leftToDo (db : Database) : List SetUp :=
  match db.current with
  | .ok current => Migration.pending current
  | .error _ => []

theorem exists_taken (rows : Store) (hdone : done <+: Migration.course) :
    ∃ taken, taken <+: done ∧ taken ++ (ofSteps done rows).leftToDo = Migration.course := by
  obtain ⟨current, taken, hcurrent, htaken, hcourse, -⟩ := exists_pending rows hdone
  exact ⟨taken, htaken, by rw [leftToDo, hcurrent]; exact hcourse⟩

end Database

/-! ### Runs -/

/-- A database while it is brought up to date, with the steps that every run so far has left. A run
that is cut off takes none of them any more. -/
structure Upgrade where
  database : Database := {}
  runs : List (List SetUp) := []

namespace Upgrade

/-- What can happen next. Runs may begin at any time, also while others go on. -/
inductive Step : Upgrade → Upgrade → Prop where
  /-- A run begins with a look at the record, which it makes if there is none. -/
  | start (db : Database) (runs : List (List SetUp)) :
      Step ⟨db, runs⟩ ⟨db.keepRecord, db.keepRecord.leftToDo :: runs⟩
  | take {db next : Database} {step : SetUp} {left : List SetUp} (before after : List (List SetUp))
      (hstep : db.setUp step = .ok next) :
      Step ⟨db, before ++ (step :: left) :: after⟩ ⟨next, before ++ left :: after⟩
  /-- A run ends when a step of it is refused. -/
  | fail {db : Database} {step : SetUp} {left : List SetUp} {flaw : Database.Flaw}
      (before after : List (List SetUp)) (hstep : db.setUp step = .error flaw) :
      Step ⟨db, before ++ (step :: left) :: after⟩ ⟨db, before ++ after⟩
  /-- Rows are written to tables that are there, in any way that these allow. -/
  | write {db : Database} {rows : Store} (runs : List (List SetUp)) (hrows : db.Admits rows) :
      Step ⟨db, runs⟩ ⟨{ db with store := rows }, runs⟩

/-- What an empty database can come to. -/
def IsReachable (upgrade : Upgrade) : Prop :=
  Relation.ReflTransGen Step {} upgrade

variable {upgrade later : Upgrade} {done : List SetUp}

/-- A database in which the first steps of the course were taken, and runs of which none is ahead of
it. -/
structure IsOnCourse (upgrade : Upgrade) (done : List SetUp) : Prop where
  begun : done <+: Migration.course
  database : upgrade.database.keepRecord = .ofSteps done upgrade.database.store
  runs : ∀ left ∈ upgrade.runs, upgrade.database.keepsRecord = true ∧
    ∃ taken, taken <+: done ∧ taken ++ left = Migration.course
  rows : upgrade.database.Admits upgrade.database.store

theorem isOnCourse_empty : IsOnCourse {} [] where
  begun := List.nil_prefix
  database := rfl
  runs left hleft := absurd hleft List.not_mem_nil
  rows := ⟨fun table htable => absurd htable List.not_mem_nil, fun table _ => by cases table <;> rfl⟩

theorem IsOnCourse.start {db : Database} {runs : List (List SetUp)}
    (hcourse : IsOnCourse ⟨db, runs⟩ done) :
    IsOnCourse ⟨db.keepRecord, db.keepRecord.leftToDo :: runs⟩ done where
  begun := hcourse.begun
  database := hcourse.database
  runs := by
    refine List.forall_mem_cons.mpr ⟨⟨rfl, ?_⟩, fun left hleft => ⟨rfl, (hcourse.runs left hleft).2⟩⟩
    rw [hcourse.database]
    exact Database.exists_taken _ hcourse.begun
  rows := ⟨hcourse.rows.obeyed, hcourse.rows.absent⟩

theorem IsOnCourse.take {db next : Database} {step : SetUp} {left : List SetUp}
    {before after : List (List SetUp)} (hcourse : IsOnCourse ⟨db, before ++ (step :: left) :: after⟩ done)
    (hstep : db.setUp step = .ok next) :
    ∃ more, IsOnCourse ⟨next, before ++ left :: after⟩ (done ++ more) := by
  obtain ⟨hkeeps, taken, htaken, hall⟩ := hcourse.runs (step :: left) (by simp)
  have hdb : db = .ofSteps done db.store :=
    (Database.keepRecord_eq_self hkeeps).symm.trans hcourse.database
  have hothers : ∀ other ∈ before ++ after, ∃ taken, taken <+: done ∧
      taken ++ other = Migration.course := fun other hother =>
    (hcourse.runs other (by simp only [List.mem_append, List.mem_cons] at hother ⊢; tauto)).2
  have hnext : taken ++ [step] ++ left = Migration.course := by rw [← hall]; simp
  rw [hdb] at hstep
  -- The database goes on with a run that is at its front, and stays as it is for one behind.
  obtain ⟨more, hmore, hdone, rfl⟩ : ∃ more, taken ++ [step] <+: done ++ more ∧
      done ++ more <+: Migration.course ∧ next = .ofSteps (done ++ more) db.store := by
    rcases Database.taken_or_next htaken hcourse.begun hall with hbefore | rfl
    · refine ⟨[], by rwa [List.append_nil], by rw [List.append_nil]; exact hcourse.begun, ?_⟩
      rw [Database.setUp_of_mem (hbefore.subset (by simp))] at hstep
      rw [List.append_nil]
      cases hnumber : step.number? with
      | none =>
        rw [hnumber] at hstep
        exact (Except.ok.inj hstep).symm
      | some number =>
        rw [hnumber] at hstep
        cases hstep
    · refine ⟨[step], List.prefix_rfl, ⟨left, hnext⟩, ?_⟩
      rw [Database.setUp_next ⟨left, hnext⟩] at hstep
      exact (Except.ok.inj hstep).symm
  refine ⟨more, hdone, rfl, fun other hother => ⟨rfl, ?_⟩, ?_⟩
  · have hmem : other = left ∨ other ∈ before ++ after := by
      simp only [List.mem_append, List.mem_cons] at hother ⊢
      tauto
    rcases hmem with rfl | hmem
    · exact ⟨taken ++ [step], hmore, hnext⟩
    · obtain ⟨taken, htaken, hall⟩ := hothers other hmem
      exact ⟨taken, htaken.trans (List.prefix_append _ _), hall⟩
  · refine hcourse.rows.mono ?_
    rw [hdb]
    exact ((List.prefix_append done more).filterMap _).subset

/-- Whatever happens, the database stays on the course and never goes back. -/
theorem Step.isOnCourse (hstep : Step upgrade later) (hcourse : upgrade.IsOnCourse done) :
    ∃ more, later.IsOnCourse (done ++ more) := by
  cases hstep with
  | start db runs => exact ⟨[], by rw [List.append_nil]; exact hcourse.start⟩
  | take before after htake => exact hcourse.take htake
  | fail before after =>
    refine ⟨[], (List.append_nil done).symm ▸
      ⟨hcourse.begun, hcourse.database, fun left hleft => hcourse.runs left ?_, hcourse.rows⟩⟩
    simp only [List.mem_append, List.mem_cons] at hleft ⊢
    tauto
  | @write db rows runs hrows =>
    refine ⟨[], (List.append_nil done).symm ▸
      ⟨hcourse.begun, ?_, hcourse.runs, hrows.obeyed, hrows.absent⟩⟩
    exact congrArg (fun other : Database => { other with store := rows }) hcourse.database

theorem IsReachable.isOnCourse (hreachable : upgrade.IsReachable) :
    ∃ done, upgrade.IsOnCourse done := by
  induction hreachable with
  | refl => exact ⟨[], isOnCourse_empty⟩
  | tail _ hstep ih =>
    obtain ⟨done, hcourse⟩ := ih
    obtain ⟨more, hmore⟩ := hstep.isOnCourse hcourse
    exact ⟨done ++ more, hmore⟩

/-! ### Runs that are cut off -/

section

variable {db after : Database} {taken left : List SetUp} {runs : List (List SetUp)}

theorem IsReachable.takeAll (hreachable : IsReachable ⟨db, (taken ++ left) :: runs⟩)
    (htaken : Database.setUpAll taken db = (.ok (), after)) : IsReachable ⟨after, left :: runs⟩ := by
  induction taken generalizing db with
  | nil =>
    cases htaken
    exact hreachable
  | cons step taken ih =>
    rw [Database.setUpAll] at htaken
    cases hstep : db.setUp step with
    | error flaw =>
      rw [hstep] at htaken
      cases htaken
    | ok next =>
      rw [hstep] at htaken
      exact ih (hreachable.tail (.take [] runs hstep)) htaken

/-- A run can be cut off behind any number of its steps. -/
theorem IsReachable.cutOff (hreachable : IsReachable ⟨db, runs⟩) (count : Nat)
    (htaken : Database.setUpAll (db.keepRecord.leftToDo.take count) db.keepRecord =
      (.ok (), after)) :
    IsReachable ⟨after, db.keepRecord.leftToDo.drop count :: runs⟩ := by
  have hstarted := hreachable.tail (.start db runs)
  rw [← List.take_append_drop count db.keepRecord.leftToDo] at hstarted
  exact takeAll hstarted htaken

/-- A program can call what it has tables for while others are missing. -/
theorem IsReachable.call (hreachable : IsReachable ⟨db, runs⟩) (call : Store.Call)
    (htables : ∀ table ∈ call.tables, table ∈ db.tables) :
    IsReachable ⟨{ db with store := (db.store.run call).2 }, runs⟩ := by
  obtain ⟨done, hcourse⟩ := hreachable.isOnCourse
  exact hreachable.tail (.write runs (hcourse.rows.run htables))

end

/-! ### Recovery -/

/-- However often it was interrupted, and whatever was written meanwhile, one more run brings a
database up to date: all tables are there with their constraints and indexes, each migration is on
record once, no row is lost, and nothing is left to do. A database that is ahead is left alone. -/
theorem migrate_recovers :
    (∀ upgrade : Upgrade, upgrade.IsReachable →
      let after := Database.upToDate upgrade.database.store
      upgrade.database.migrate = (.ok (), after) ∧
        after.migrationStatus = .ok { current := 2, target := 2, needsMigration := false } ∧
        after.migrate = (.ok (), after) ∧ after.Admits after.store ∧
        ∀ rows, after.Admits rows ↔ rows.IsLawful) ∧
      ∀ db : Database, db.keepsRecord = true →
        ∀ number ∈ db.recorded, Migration.target < number.toInt →
          db.migrate = (db.current.map fun _ => (), db) := by
  refine ⟨fun upgrade hreachable => ?_, fun db hkeeps number hmem hahead =>
    Database.migrate_of_ahead hkeeps hmem hahead⟩
  obtain ⟨done, hcourse⟩ := hreachable.isOnCourse
  have hadmits : ∀ rows, (Database.upToDate upgrade.database.store).Admits rows ↔ rows.IsLawful :=
    fun rows => Database.admits_iff_isLawful Table.mem_all
  exact ⟨Database.migrate_of_keepRecord hcourse.begun hcourse.database, rfl,
    Database.migrate_upToDate _, (hadmits _).mpr hcourse.rows.isLawful, hadmits⟩

/-! ### Three runs that are cut off -/

/-- A draft that came in when there were only tables for blueprints and versions. -/
def early : Store where
  blueprints := [(Blueprint.new "b" "Novel" .epoch).toRow]
  versions := [(Version.draft "v" "b" 1 .epoch).toRow]

/-- A database with a part of the second script. The second run was cut off before it could record the
first one. -/
def interrupted : Upgrade where
  database := .ofSteps (Migration.course.take 16) early
  runs := [Migration.course.drop 16, Migration.course.drop 13, Migration.course.drop 4]

theorem isReachable_interrupted : interrupted.IsReachable := by
  have hfirst : IsReachable ⟨.ofSteps (Migration.course.take 4) {}, [Migration.course.drop 4]⟩ :=
    IsReachable.cutOff .refl 4 rfl
  have hblueprint := hfirst.call (.saveBlueprint (.new "b" "Novel" .epoch)) (by decide)
  have hversion := hblueprint.call (.insertVersion (.draft "v" "b" 1 .epoch)) (by decide)
  have hrows : IsReachable ⟨.ofSteps (Migration.course.take 4) early, [Migration.course.drop 4]⟩ :=
    hversion
  have hsecond : IsReachable ⟨.ofSteps (Migration.course.take 13) early,
      [Migration.course.drop 13, Migration.course.drop 4]⟩ := hrows.cutOff 13 rfl
  exact hsecond.cutOff 16 rfl

/-- A database that a later program has brought further. -/
def ahead : Database :=
  { Database.upToDate early with recorded := [1, 2, 3] }

theorem migrate_recovers_interrupted :
    interrupted.IsReachable ∧ interrupted.database.migrate = (.ok (), .upToDate early) ∧
      ahead.keepsRecord = true ∧ 3 ∈ ahead.recorded ∧ Migration.target < (3 : Int64).toInt ∧
        ahead.migrate = (.ok (), ahead) :=
  ⟨isReachable_interrupted, (migrate_recovers.1 interrupted isReachable_interrupted).1, rfl,
    by decide, by decide, migrate_recovers.2 ahead rfl 3 (by decide) (by decide)⟩

end Upgrade

end KnowledgeSchema
