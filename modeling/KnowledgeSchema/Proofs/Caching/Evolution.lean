import KnowledgeSchema.Proofs.Freezing.Placement
import KnowledgeSchema.Proofs.Program.Versions

/-!
# What stays of public versions

A version is public once it is no draft any more. Whatever is done to a store, call after call, a
public version keeps its definitions and its blueprint, and its row changes only to another status
than that of a published version.
-/

namespace KnowledgeSchema

namespace Store

/-- The rows of public versions, their definitions and the blueprints that are there stay what they
are, or a version stops being published for good. -/
structure Respects (store after : Store) : Prop where
  blueprint : ∀ id row, store.blueprints.find? (·.id == id) = some row →
    after.blueprints.find? (·.id == id) = some row
  rows : ∀ versionId row, store.row? versionId = some row → row.status ≠ .draft →
    after.rowsOf versionId = store.rowsOf versionId
  row : ∀ versionId row, store.row? versionId = some row → row.status ≠ .draft →
    ∃ later, after.row? versionId = some later ∧ later.status ≠ .draft ∧
      (later.status = .published → later = row)
  single : ∀ versionId, store.IsSingle versionId → after.IsSingle versionId

variable {store between after : Store} {versionId : String}

theorem Respects.refl (store : Store) : store.Respects store where
  blueprint _ _ hrow := hrow
  rows _ _ _ _ := rfl
  row _ row hrow hpublic := ⟨row, hrow, hpublic, fun _ => rfl⟩
  single _ hsingle := hsingle

theorem Respects.trans (hfirst : store.Respects between) (hsecond : between.Respects after) :
    store.Respects after where
  blueprint id row hrow := hsecond.blueprint id row (hfirst.blueprint id row hrow)
  rows versionId row hrow hpublic := by
    obtain ⟨later, hlater, hlaterPublic, -⟩ := hfirst.row versionId row hrow hpublic
    rw [hsecond.rows versionId later hlater hlaterPublic, hfirst.rows versionId row hrow hpublic]
  row versionId row hrow hpublic := by
    obtain ⟨later, hlater, hlaterPublic, hsame⟩ := hfirst.row versionId row hrow hpublic
    obtain ⟨last, hlast, hlastPublic, hlastSame⟩ := hsecond.row versionId later hlater hlaterPublic
    refine ⟨last, hlast, hlastPublic, fun hpublished => ?_⟩
    obtain rfl := hlastSame hpublished
    exact hsame hpublished
  single versionId hsingle := hsecond.single versionId (hfirst.single versionId hsingle)

theorem respects_of_row? (hblueprints : after.blueprints = store.blueprints)
    (hrows : ∀ versionId row, store.row? versionId = some row → row.status ≠ .draft →
      after.rowsOf versionId = store.rowsOf versionId)
    (hrow : ∀ versionId row, store.row? versionId = some row → after.row? versionId = some row)
    (hsingle : ∀ versionId, store.IsSingle versionId → after.IsSingle versionId) :
    store.Respects after where
  blueprint _ _ hrow := by rw [hblueprints, hrow]
  rows := hrows
  row versionId row hfound hpublic := ⟨row, hrow versionId row hfound, hpublic, fun _ => rfl⟩
  single := hsingle

/-! ### Single calls -/

theorem respects_saveBlueprint {blueprint : Blueprint}
    (hunused : store.hasBlueprint blueprint.id = false) :
    store.Respects (store.saveBlueprint blueprint) := by
  constructor
  · intro id row hrow
    rw [blueprints_saveBlueprint hunused, List.find?_append, hrow]
    rfl
  · exact fun _ _ _ _ => rfl
  · exact fun _ row hrow hpublic => ⟨row, hrow, hpublic, fun _ => rfl⟩
  · exact fun _ hsingle => hsingle

theorem row?_of_inserted {version : Version}
    (hversions : after.versions = store.versions ++ [version.toRow]) {row : VersionRow}
    (hrow : store.row? versionId = some row) : after.row? versionId = some row := by
  rw [row?, hversions, List.find?_append, ← row?, hrow]
  rfl

/-- A new version with definitions under unused ids. -/
theorem respects_writes {version : Version} {set? : Option DefinitionSet} {ids : List String}
    (hunused : ∀ id ∈ ids, id ∉ store.definitionIds)
    (hwithin : ∀ set ∈ set?, ∀ definition ∈ set.definitions, definition.IsWithin ids version.id)
    (hwrite : store.writeAll (version.writes set?) = .ok after) :
    store.Respects after ∧ IsConfined ids version.id store after ∧
      after.blueprints = store.blueprints := by
  obtain ⟨between, hinsert, hrest⟩ := writeAll_cons.mp hwrite
  obtain ⟨-, htaken, rfl⟩ := insertVersion_eq_ok hinsert
  have hevery : ∀ definition ∈ set?.toList.flatMap DefinitionSet.definitions,
      definition.IsWithin ids version.id := by
    intro definition hdefinition
    obtain ⟨set, hset, hmem⟩ := List.mem_flatMap.mp hdefinition
    exact hwithin set (Option.mem_toList.mp hset) definition hmem
  have hpart : definitionPart { store with versions := store.versions ++ [version.toRow] } =
      store.definitionPart := rfl
  have hreserved := isReserved_of_unused version.id hunused
  have hconfined := (hreserved.congr hpart).isConfined_writeAll hevery hrest
  have hwhole : IsConfined ids version.id store after :=
    ⟨hconfined.reserved, (addsOnly_of_congr hpart).trans hconfined.adds, fun other hother =>
      (hconfined.others other hother).trans (rowsOf_congr hpart other)⟩
  have hblueprints := blueprints_writeAll_definitions hrest
  have hversions := versions_writeAll_definitions hrest
  refine ⟨respects_of_row? hblueprints (fun other row hrow _ => hwhole.others other ?_)
    (fun _ _ => row?_of_inserted hversions) fun _ hsingle => hsingle.inserted htaken hversions,
    hwhole, hblueprints⟩
  rintro rfl
  exact id_ne_of_isTaken htaken (mem_of_row? hrow) (row?_id hrow)

theorem respects_updateStatus {id : String} {expected status : Status}
    {publishedAt : Option Timestamp} (hcan : expected.canBecome status = true) :
    store.Respects (store.updateStatus id expected status publishedAt).1 where
  blueprint _ _ hrow := hrow
  rows _ _ _ _ := rfl
  row versionId row hrow hpublic := by
    rw [row?_updateStatus, hrow, Option.map_some]
    by_cases hmatch : id = versionId ∧ row.status = expected
    · refine ⟨_, rfl, ?_⟩
      rw [if_pos hmatch]
      obtain ⟨-, rfl⟩ := hmatch
      cases hstatus : row.status <;> cases status <;> simp_all [Status.canBecome]
    · rw [if_neg hmatch]
      exact ⟨row, rfl, hpublic, fun _ => rfl⟩
  single _ hsingle := hsingle.updateStatus id expected status publishedAt

/-- An import into a draft. -/
theorem respects_saveAll {set : DefinitionSet} {ids : List String} {draft : VersionRow}
    (hunused : ∀ id ∈ ids, id ∉ store.definitionIds)
    (hwithin : ∀ definition ∈ set.definitions, definition.IsWithin ids versionId)
    (hrow : store.row? versionId = some draft) (hdraft : draft.status = .draft) :
    store.Respects (store.run (.saveAll set)).2 ∧
      (store.run (.saveAll set)).2.blueprints = store.blueprints := by
  have hconfined := (isReserved_of_unused versionId hunused).isConfined_saveAll hwithin
  rcases store.commit_eq_or (Call.saveAll set).writes with hsame | hwrite
  · rw [run, hsame]
    exact ⟨.refl store, rfl⟩
  · have hblueprints := blueprints_writeAll_definitions hwrite
    have hversions := versions_writeAll_definitions hwrite
    refine ⟨respects_of_row? hblueprints (fun other row hother hpublic =>
      hconfined.others other ?_) (fun _ _ hother => (row?_congr hversions _).trans hother)
      fun other hsingle => ?single, hblueprints⟩
    case single =>
      intro row hrow hid
      exact (row?_congr hversions other).trans (hsingle row (hversions ▸ hrow) hid)
    rintro rfl
    rw [hrow] at hother
    cases hother
    exact hpublic hdraft

theorem row?_of_editable {version : Version} (hversion : store.version? versionId = .ok (some version))
    (heditable : version.ensureEditable = .ok ()) :
    ∃ row, store.row? version.id = some row ∧ row.status = .draft := by
  obtain ⟨row, hrow, hread⟩ := version?_eq_some hversion
  obtain ⟨hid, -, -, hstatus⟩ := VersionRow.eq_of_toVersion hread
  refine ⟨row, by rw [hid, row?_id hrow, hrow], ?_⟩
  rw [← hstatus]
  cases hcase : version.status with
  | draft => rfl
  | _ => simp [Version.ensureEditable, Status.isEditable, hcase] at heditable

/-! ### Artifacts -/

/-- While a version stays published, it compiles to the same artifact. -/
theorem Respects.compiled (hrespects : store.Respects after) {maxDepth : UInt64}
    {artifact : Artifact} {row : VersionRow} (hrow : store.row? versionId = some row)
    (hpublished : row.status = .published) (hlater : after.row? versionId = some row)
    (hcompiled : store.compiled maxDepth versionId = .ok artifact) :
    after.compiled maxDepth versionId = .ok artifact := by
  obtain ⟨version, blueprint, content, hversion, hblueprint, hcontent, rfl⟩ :=
    compiled_eq_ok hcompiled
  have hafterVersion : after.version? versionId = .ok (some version) := by
    rw [version?_of_row? hlater, ← version?_of_row? hrow, hversion]
  have hafterBlueprint : after.blueprint? version.blueprintId = .ok (some blueprint) := by
    rw [blueprint?] at hblueprint ⊢
    cases hfind : store.blueprints.find? (·.id == version.blueprintId) with
    | none =>
      rw [hfind] at hblueprint
      cases hblueprint
    | some blueprintRow =>
      rw [hrespects.blueprint _ _ hfind, ← hfind, hblueprint]
  have hafterContent : after.content version.id = .ok content := by
    rw [id_of_version? hversion, content_congr (hrespects.rows versionId row hrow ?_), hcontent]
    simp [hpublished]
  rw [Store.compiled, hafterVersion]
  change (after.blueprint? version.blueprintId >>= _) = _
  rw [hafterBlueprint]
  change (after.content version.id >>= _) = _
  rw [hafterContent]
  rfl

end Store

end KnowledgeSchema
