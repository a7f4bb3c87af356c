import Mathlib.Data.List.Infix
import KnowledgeSchema.Proofs.Time.Texts
import KnowledgeSchema.Store.Call

/-!
# Version rows

What the calls of a store do to its version rows. Rows are added at the end and never dropped, and
only a change of a status writes into one that is there.
-/

namespace KnowledgeSchema

/-! ### Rows and versions -/

theorem readTime_storedText {time : Timestamp} (hyear : 0 ≤ time.date.year ∧ time.date.year ≤ 9999)
    (column : TimeColumn) : readTime column time.storedText = .ok time := by
  rw [readTime, Timestamp.ofStoredText?_storedText time hyear]

theorem Blueprint.toBlueprint_toRow {blueprint : Blueprint}
    (htags : readJson .textSet (Codec.textSet.write blueprint.tags) = .ok blueprint.tags)
    (hcreated : 0 ≤ blueprint.createdAt.date.year ∧ blueprint.createdAt.date.year ≤ 9999)
    (hupdated : 0 ≤ blueprint.updatedAt.date.year ∧ blueprint.updatedAt.date.year ≤ 9999) :
    blueprint.toRow.toBlueprint = .ok blueprint := by
  simp only [BlueprintRow.toBlueprint, toRow, htags, readTime_storedText hcreated,
    readTime_storedText hupdated]
  rfl

namespace Version

/-- A version as it is when it is inserted. -/
def IsNew (version : Version) : Prop :=
  version.status = .draft ∧ version.publishedAt = none

/-- Whether a reader takes the stored texts of both timestamps. -/
def IsReadable (version : Version) : Prop :=
  (0 ≤ version.createdAt.date.year ∧ version.createdAt.date.year ≤ 9999) ∧
    ∀ time ∈ version.publishedAt, 0 ≤ time.date.year ∧ time.date.year ≤ 9999

theorem toVersion_toRow {version : Version} (hreadable : version.IsReadable) :
    version.toRow.toVersion = .ok version := by
  obtain ⟨hcreated, hpublished⟩ := hreadable
  obtain ⟨id, blueprintId, number, status, notes, createdAt, publishedAt⟩ := version
  have hoptional : readOptional (readTime .publishedAt) (publishedAt.map Timestamp.storedText) =
      .ok publishedAt := by
    cases publishedAt with
    | none => rfl
    | some time =>
      simp only [Option.map_some, readOptional, readTime_storedText (hpublished time rfl)]
      rfl
  simp only [VersionRow.toVersion, toRow, hoptional, readTime_storedText hcreated]
  rfl

theorem eq_of_readTime {column : TimeColumn} {time read : Timestamp}
    (hread : readTime column time.storedText = .ok read) : read = time := by
  rw [readTime] at hread
  split at hread
  next found hfound =>
    cases hread
    exact Timestamp.eq_of_ofStoredText?_storedText hfound
  next => cases hread

theorem eq_of_toVersion_toRow {version read : Version}
    (hread : version.toRow.toVersion = .ok read) : read = version := by
  obtain ⟨id, blueprintId, number, status, notes, createdAt, publishedAt⟩ := version
  simp only [VersionRow.toVersion, toRow] at hread
  cases hpublished : readOptional (readTime .publishedAt)
      (publishedAt.map Timestamp.storedText) with
  | error failure =>
    rw [hpublished] at hread
    cases hread
  | ok published =>
    cases hcreated : readTime .createdAt createdAt.storedText with
    | error failure =>
      rw [hpublished, hcreated] at hread
      cases hread
    | ok created =>
      rw [hpublished, hcreated] at hread
      have hcreated := eq_of_readTime hcreated
      have hpublished : published = publishedAt := by
        cases publishedAt with
        | none =>
          cases hpublished
          rfl
        | some time =>
          cases htime : readTime .publishedAt time.storedText with
          | error failure => simp [readOptional, htime] at hpublished
          | ok read =>
            simp only [Option.map_some, readOptional, htime] at hpublished
            cases hpublished
            rw [eq_of_readTime htime]
      cases hread
      rw [hcreated, hpublished]

end Version

theorem VersionRow.eq_of_toVersion {row : VersionRow} {version : Version}
    (hread : row.toVersion = .ok version) :
    version.id = row.id ∧ version.blueprintId = row.blueprintId ∧ version.number = row.number ∧
      version.status = row.status := by
  rw [toVersion] at hread
  cases hpublished : readOptional (readTime .publishedAt) row.publishedAt with
  | error failure =>
    rw [hpublished] at hread
    cases hread
  | ok published =>
    cases hcreated : readTime .createdAt row.createdAt with
    | error failure =>
      rw [hpublished, hcreated] at hread
      cases hread
    | ok created =>
      rw [hpublished, hcreated] at hread
      cases hread
      exact ⟨rfl, rfl, rfl, rfl⟩

namespace Store

def row? (store : Store) (versionId : String) : Option VersionRow :=
  store.versions.find? (·.id == versionId)

variable {store after : Store} {versionId : String}

theorem row?_id {row : VersionRow} (hrow : store.row? versionId = some row) :
    row.id = versionId := by
  simpa using List.find?_some hrow

theorem mem_of_row? {row : VersionRow} (hrow : store.row? versionId = some row) :
    row ∈ store.versions :=
  List.mem_of_find?_eq_some hrow

theorem row?_congr (hversions : after.versions = store.versions) (versionId : String) :
    after.row? versionId = store.row? versionId := by
  rw [row?, hversions, row?]

theorem version?_eq_some {version : Version}
    (hread : store.version? versionId = .ok (some version)) :
    ∃ row, store.row? versionId = some row ∧ row.toVersion = .ok version := by
  rw [version?, ← row?] at hread
  cases hrow : store.row? versionId with
  | none =>
    rw [hrow] at hread
    cases hread
  | some row =>
    refine ⟨row, rfl, ?_⟩
    rw [hrow, Option.mapM_some] at hread
    cases hversion : row.toVersion with
    | error failure =>
      rw [hversion] at hread
      cases hread
    | ok found =>
      rw [hversion] at hread
      cases hread
      rfl

theorem version?_of_row? {row : VersionRow} (hrow : store.row? versionId = some row) :
    store.version? versionId = some <$> row.toVersion := by
  rw [version?, ← row?, hrow]
  rfl

/-! ### Writes of definitions -/

theorem guarded_eq_ok {allowed : Bool} {written : Store} :
    guarded allowed written = .ok after ↔ allowed = true ∧ written = after := by
  cases allowed <;> simp [guarded]

/-- A profile is written as all definitions are once it has passed the two checks of its own. -/
theorem saveProfile_eq_ok {profile : ExtractionProfile} :
    store.saveProfile profile = .ok after ↔
      (profile.threshold.isNumber = true ∧
        (store.hasProfile profile.id = true ∨
          store.profiles.any (·.versionId == profile.versionId) = false)) ∧
      guarded (store.hasProfile profile.id || store.hasVersion profile.versionId)
        { store with
          profiles := putRow (·.id) (fun old new => { new with versionId := old.versionId })
            profile.toRow store.profiles } = .ok after := by
  rw [saveProfile]
  by_cases hnumber : profile.threshold.isNumber = true
  · rw [hnumber, Bool.not_true, if_neg Bool.false_ne_true]
    by_cases hrival : store.profiles.any (·.versionId == profile.versionId) = true
    · cases hknown : store.hasProfile profile.id <;> simp [hrival]
    · simp [hrival]
  · simp [hnumber]

/-- Definitions are written without a look at the versions, let alone a change of them. -/
theorem versions_save {definition : Definition} (hsave : store.save definition = .ok after) :
    after.versions = store.versions := by
  cases definition with
  | profile profile =>
    rw [← (guarded_eq_ok.mp (saveProfile_eq_ok.mp hsave).2).2]
  | _ =>
    rw [← (guarded_eq_ok.mp hsave).2]

theorem blueprints_save {definition : Definition} (hsave : store.save definition = .ok after) :
    after.blueprints = store.blueprints := by
  cases definition with
  | profile profile =>
    rw [← (guarded_eq_ok.mp (saveProfile_eq_ok.mp hsave).2).2]
  | _ =>
    rw [← (guarded_eq_ok.mp hsave).2]

theorem blueprints_saveBlueprint {blueprint : Blueprint}
    (hunused : store.hasBlueprint blueprint.id = false) :
    (store.saveBlueprint blueprint).blueprints = store.blueprints ++ [blueprint.toRow] := by
  rw [saveBlueprint, putRow, if_neg]
  rw [hasBlueprint] at hunused
  simpa [Blueprint.toRow] using hunused

theorem writeAll_cons {write : Write} {writes : List Write} :
    store.writeAll (write :: writes) = .ok after ↔
      ∃ between, store.write write = .ok between ∧ between.writeAll writes = .ok after := by
  rw [writeAll, List.foldlM_cons]
  cases hwrite : store.write write with
  | error failure =>
    constructor
    · intro hafter
      cases hafter
    · rintro ⟨between, hbetween, -⟩
      cases hbetween
  | ok between =>
    constructor
    · intro hafter
      exact ⟨between, rfl, hafter⟩
    · rintro ⟨_, hbetween, hafter⟩
      cases hbetween
      exact hafter

theorem versions_writeAll_definitions {definitions : List Definition}
    (hwrite : store.writeAll (definitions.map .definition) = .ok after) :
    after.versions = store.versions := by
  induction definitions generalizing store with
  | nil =>
    cases hwrite
    rfl
  | cons definition rest ih =>
    obtain ⟨between, hsave, hrest⟩ := writeAll_cons.mp hwrite
    rw [ih hrest, versions_save hsave]

theorem blueprints_writeAll_definitions {definitions : List Definition}
    (hwrite : store.writeAll (definitions.map .definition) = .ok after) :
    after.blueprints = store.blueprints := by
  induction definitions generalizing store with
  | nil =>
    cases hwrite
    rfl
  | cons definition rest ih =>
    obtain ⟨between, hsave, hrest⟩ := writeAll_cons.mp hwrite
    rw [ih hrest, blueprints_save hsave]

/-! ### Calls -/

/-- Whether a call only reads. -/
def Call.isReading : Call → Bool
  | saveBlueprint _ | insertVersion _ | updateStatus .. => false
  | insertVersionWith .. | saveAll _ | save _ => false
  | _ => true

def Call.inserted? : Call → Option Version
  | insertVersion version => some version
  | insertVersionWith version _ => some version
  | _ => none

/-- Writes that are made together are all made, or the store stays as it was. -/
theorem commit_cases (store : Store) (writes : List Write) :
    (∃ failure, store.commit writes = (.error failure, store)) ∨
      ∃ after, store.writeAll writes = .ok after ∧ store.commit writes = (.ok (), after) := by
  rw [commit]
  cases store.writeAll writes with
  | error failure => exact Or.inl ⟨failure, rfl⟩
  | ok after => exact Or.inr ⟨after, rfl, rfl⟩

theorem commit_eq_of_error {writes : List Write} {failure : Failure}
    (herror : (store.commit writes).1 = .error failure) : (store.commit writes).2 = store := by
  rcases store.commit_cases writes with ⟨_, hfailed⟩ | ⟨after, -, hmade⟩
  · rw [hfailed]
  · rw [hmade] at herror
    cases herror

/-- A call that fails leaves the store as it was. -/
theorem run_eq_of_error {call : Call} {failure : Failure}
    (herror : (store.run call).1 = .error failure) : (store.run call).2 = store := by
  cases call with
  | saveBlueprint | insertVersion | insertVersionWith | saveAll | save =>
    exact commit_eq_of_error herror
  | updateStatus => cases herror
  | _ => rfl

theorem Call.writes_of_isChange {call : Call} (hcall : call.isChange = false) : call.writes = [] := by
  cases call with
  | saveAll set => simpa [isChange] using hcall
  | saveBlueprint | insertVersion | insertVersionWith | save | updateStatus => cases hcall
  | _ => rfl

theorem run_eq_of_isChange {call : Call} (hcall : call.isChange = false) :
    (store.run call).2 = store := by
  cases call with
  | saveBlueprint | insertVersion | insertVersionWith | save | updateStatus => cases hcall
  | saveAll set =>
    rw [run, Call.writes_of_isChange hcall]
    rfl
  | _ => rfl

theorem insertVersion_eq_ok {version : Version}
    (hinsert : store.insertVersion version = .ok after) :
    0 < version.number ∧ store.isTaken version = false ∧
      after = { store with versions := store.versions ++ [version.toRow] } := by
  rw [insertVersion] at hinsert
  split_ifs at hinsert with hnumber htaken hblueprint
  cases hinsert
  exact ⟨Int64.not_le.mp hnumber, by simpa using htaken, rfl⟩

/-! ### Versions whose keys are free -/

section Free

variable {version : Version} {row : VersionRow}

theorem id_ne_of_isTaken (hfree : store.isTaken version = false) (hrow : row ∈ store.versions) :
    row.id ≠ version.id := by
  intro hid
  have hkeys := List.any_eq_false.mp hfree row hrow
  simp [hid] at hkeys

theorem number_ne_of_isTaken (hfree : store.isTaken version = false) (hrow : row ∈ store.versions)
    (hblueprint : row.blueprintId = version.blueprintId) : row.number ≠ version.number := by
  intro hnumber
  have hkeys := List.any_eq_false.mp hfree row hrow
  simp [hblueprint, hnumber] at hkeys

theorem not_mem_ids_of_isTaken (hfree : store.isTaken version = false) :
    version.id ∉ store.versions.map (·.id) := by
  intro hmem
  obtain ⟨row, hrow, hid⟩ := List.mem_map.mp hmem
  exact id_ne_of_isTaken hfree hrow hid

theorem row?_eq_none_of_isTaken (hfree : store.isTaken version = false) :
    store.row? version.id = none := by
  rw [row?, List.find?_eq_none]
  intro row hrow hid
  exact id_ne_of_isTaken hfree hrow (beq_iff_eq.mp hid)

end Free

theorem run_inserted (store : Store) {call : Call} {version : Version}
    (hcall : call.inserted? = some version) :
    ((∃ result, (store.run call).1 = .ok result) ∧ 0 < version.number ∧
        store.isTaken version = false ∧
        (store.run call).2.versions = store.versions ++ [version.toRow]) ∨
      ((∃ failure, (store.run call).1 = .error failure) ∧ (store.run call).2 = store) := by
  have hcommit : ∀ definitions : List Definition,
      let outcome := store.commit (.version version :: definitions.map .definition)
      (outcome.1 = .ok () ∧ 0 < version.number ∧ store.isTaken version = false ∧
          outcome.2.versions = store.versions ++ [version.toRow]) ∨
        ((∃ failure, outcome.1 = .error failure) ∧ outcome.2 = store) := by
    intro definitions
    dsimp only
    rcases store.commit_cases (.version version :: definitions.map .definition) with
      ⟨failure, hfailed⟩ | ⟨after, hwrite, hmade⟩
    · rw [hfailed]
      exact Or.inr ⟨⟨failure, rfl⟩, rfl⟩
    · rw [hmade]
      obtain ⟨between, hinsert, hrest⟩ := writeAll_cons.mp hwrite
      obtain ⟨hnumber, htaken, hbetween⟩ := insertVersion_eq_ok hinsert
      refine Or.inl ⟨rfl, hnumber, htaken, ?_⟩
      rw [versions_writeAll_definitions hrest, hbetween]
  cases call with
  | insertVersion =>
    cases hcall
    rcases hcommit [] with ⟨hok, hrest⟩ | herror
    · exact Or.inl ⟨⟨(), hok⟩, hrest⟩
    · exact Or.inr herror
  | insertVersionWith _ set =>
    cases hcall
    rcases hcommit set.definitions with ⟨hok, hrest⟩ | herror
    · exact Or.inl ⟨⟨(), hok⟩, hrest⟩
    · exact Or.inr herror
  | _ => cases hcall

/-- All that a call can do to the versions. -/
theorem versions_run (store : Store) (call : Call) :
    (store.run call).2.versions = store.versions ∨
      (∃ version, call.inserted? = some version ∧ 0 < version.number ∧
        store.isTaken version = false ∧
        (store.run call).2.versions = store.versions ++ [version.toRow]) ∨
      ∃ id expected status publishedAt, call = .updateStatus id expected status publishedAt := by
  have hcommit : ∀ definitions : List Definition,
      (store.commit (definitions.map .definition)).2.versions = store.versions := by
    intro definitions
    rcases store.commit_cases (definitions.map .definition) with ⟨_, hfailed⟩ | ⟨_, hwrite, hmade⟩
    · rw [hfailed]
    · rw [hmade, versions_writeAll_definitions hwrite]
  cases call with
  | updateStatus id expected status publishedAt =>
    exact Or.inr (Or.inr ⟨id, expected, status, publishedAt, rfl⟩)
  | insertVersion version =>
    rcases @run_inserted store (.insertVersion version) version rfl with
      ⟨-, hinserted⟩ | ⟨-, hsame⟩
    · exact Or.inr (Or.inl ⟨version, rfl, hinserted⟩)
    · exact Or.inl (by rw [hsame])
  | insertVersionWith version set =>
    rcases @run_inserted store (.insertVersionWith version set) version rfl with
      ⟨-, hinserted⟩ | ⟨-, hsame⟩
    · exact Or.inr (Or.inl ⟨version, rfl, hinserted⟩)
    · exact Or.inl (by rw [hsame])
  | saveAll set => exact Or.inl (hcommit set.definitions)
  | save definition => exact Or.inl (hcommit [definition])
  | _ => exact Or.inl rfl

/-! ### What stays of all rows -/

/-- What the version rows are known by for good, their ids, blueprints and numbers. -/
def keys (store : Store) : List (String × String × Int64) :=
  store.versions.map fun row => (row.id, row.blueprintId, row.number)

theorem keys_run (store : Store) (call : Call) :
    (store.run call).2.keys = store.keys ∨
      ∃ version, call.inserted? = some version ∧ 0 < version.number ∧
        store.isTaken version = false ∧
        (store.run call).2.versions = store.versions ++ [version.toRow] := by
  rcases versions_run store call with hversions | hinserted | ⟨_, _, _, _, rfl⟩
  · exact Or.inl (by rw [keys, hversions, keys])
  · exact Or.inr hinserted
  · apply Or.inl
    simp only [run, updateStatus, keys, List.map_map]
    apply List.map_congr_left
    intro row _
    simp only [Function.comp_apply]
    split <;> rfl

theorem keys_inserted {version : Version}
    (hversions : after.versions = store.versions ++ [version.toRow]) :
    after.keys = store.keys ++ [(version.id, version.blueprintId, version.number)] := by
  rw [keys, hversions, List.map_append]
  rfl

theorem keys_run_prefix (store : Store) (call : Call) :
    store.keys <+: (store.run call).2.keys := by
  rcases keys_run store call with hkeys | ⟨version, -, -, -, hversions⟩
  · exact hkeys ▸ List.prefix_rfl
  · rw [keys_inserted hversions]
    exact List.prefix_append _ _

/-! ### The row of one version -/

theorem row?_inserted {version : Version} (htaken : store.isTaken version = false)
    (hversions : after.versions = store.versions ++ [version.toRow]) :
    after.row? versionId =
      if version.id = versionId then some version.toRow else store.row? versionId := by
  rw [row?, hversions, List.find?_append]
  split_ifs with hid
  · have hnone : store.versions.find? (·.id == version.id) = none := row?_eq_none_of_isTaken htaken
    rw [← hid, hnone]
    simp [Version.toRow]
  · simp [row?, Version.toRow, hid]

theorem row?_updateStatus (store : Store) (id : String) (expected status : Status)
    (publishedAt : Option Timestamp) (versionId : String) :
    (store.updateStatus id expected status publishedAt).1.row? versionId =
      (store.row? versionId).map fun row =>
        if id = versionId ∧ row.status = expected then
          { row with status, publishedAt := publishedAt.map Timestamp.storedText }
        else row := by
  have hid : ((fun row : VersionRow => row.id == versionId) ∘ fun row =>
      if (row.id == id && row.status == expected) = true then
        { row with status, publishedAt := publishedAt.map Timestamp.storedText }
      else row) = fun row => row.id == versionId := by
    funext row
    simp only [Function.comp_apply]
    split <;> rfl
  rw [row?, updateStatus, List.find?_map, hid, row?]
  apply Option.map_congr
  intro row hrow
  have hmatch : row.id = versionId := row?_id hrow
  refine if_congr ?_ rfl rfl
  beta_reduce
  rw [hmatch, Bool.and_eq_true, beq_iff_eq, beq_iff_eq, @eq_comm _ versionId]

theorem updateStatus_of_not {id : String} {expected status : Status}
    {publishedAt : Option Timestamp}
    (hmissed : (store.updateStatus id expected status publishedAt).2 = false) :
    (store.updateStatus id expected status publishedAt).1 = store := by
  have hrows : ∀ row ∈ store.versions, (row.id == id && row.status == expected) = false := by
    simpa [updateStatus] using hmissed
  have hmap : (store.versions.map fun row =>
      if (row.id == id && row.status == expected) = true then
        { row with status, publishedAt := publishedAt.map Timestamp.storedText }
      else row) = store.versions := by
    conv_rhs => rw [← List.map_id store.versions]
    apply List.map_congr_left
    intro row hrow
    rw [hrows row hrow]
    rfl
  rw [updateStatus, hmap]

def IsSingle (store : Store) (versionId : String) : Prop :=
  ∀ row ∈ store.versions, row.id = versionId → store.row? versionId = some row

theorem isSingle_of_row?_eq_none (hnone : store.row? versionId = none) :
    store.IsSingle versionId := by
  intro row hrow hid
  have habsent := List.find?_eq_none.mp hnone row hrow
  simp [hid] at habsent

theorem isSingle_of_nodup (hnodup : (store.versions.map (·.id)).Nodup)
    (versionId : String) : store.IsSingle versionId := by
  intro row hrow hid
  rw [row?]
  generalize store.versions = versions at hnodup hrow
  induction versions with
  | nil => cases hrow
  | cons first rest ih =>
    rw [List.map_cons, List.nodup_cons] at hnodup
    rcases List.mem_cons.mp hrow with rfl | hrow
    · rw [List.find?_cons_of_pos (by simpa using hid)]
    · have hother : first.id ≠ versionId := fun hsame =>
        hnodup.1 (hsame.trans hid.symm ▸ List.mem_map_of_mem hrow)
      rw [List.find?_cons_of_neg (by simpa using hother)]
      exact ih hnodup.2 hrow

theorem IsSingle.inserted {version : Version} (hsingle : store.IsSingle versionId)
    (htaken : store.isTaken version = false)
    (hversions : after.versions = store.versions ++ [version.toRow]) :
    after.IsSingle versionId := by
  intro row hrow hid
  rw [row?_inserted htaken hversions]
  rw [hversions] at hrow
  rcases List.mem_append.mp hrow with hrow | hrow
  · have hother : version.id ≠ versionId := hid ▸ (id_ne_of_isTaken htaken hrow).symm
    rw [if_neg hother]
    exact hsingle row hrow hid
  · obtain rfl := List.mem_singleton.mp hrow
    exact if_pos hid

theorem IsSingle.updateStatus (hsingle : store.IsSingle versionId) (id : String)
    (expected status : Status) (publishedAt : Option Timestamp) :
    (store.updateStatus id expected status publishedAt).1.IsSingle versionId := by
  intro row hrow hid
  obtain ⟨old, hold, rfl⟩ := List.mem_map.mp hrow
  have hsame : old.id = versionId := by
    split at hid <;> exact hid
  rw [row?_updateStatus, hsingle old hold hsame]
  refine congrArg some (if_congr ?_ rfl rfl)
  beta_reduce
  rw [hsame, Bool.and_eq_true, beq_iff_eq, beq_iff_eq, @eq_comm _ versionId]

theorem updateStatus_eq_true (hsingle : store.IsSingle versionId) (expected status : Status)
    (publishedAt : Option Timestamp) :
    (store.updateStatus versionId expected status publishedAt).2 = true ↔
      ∃ row, store.row? versionId = some row ∧ row.status = expected := by
  simp only [Store.updateStatus, List.any_eq_true, Bool.and_eq_true, beq_iff_eq]
  constructor
  · rintro ⟨row, hrow, hid, hstatus⟩
    exact ⟨row, hsingle row hrow hid, hstatus⟩
  · rintro ⟨row, hrow, hstatus⟩
    exact ⟨row, mem_of_row? hrow, row?_id hrow, hstatus⟩

end Store

end KnowledgeSchema
