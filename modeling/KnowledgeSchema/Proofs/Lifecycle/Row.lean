import Mathlib.Logic.Relation
import KnowledgeSchema.Proofs.Store.Versions

/-!
# The life of a version row

A row comes as a draft, is published once, and is retired from there. Statuses never come back, so a
row that still has the status it was read with is still the row that was read.
-/

namespace KnowledgeSchema

def Status.rank : Status → Nat
  | draft => 0
  | published => 1
  | deprecated => 2
  | archived => 3

namespace VersionRow

/-- A change of the status of a row. Publication sets its time, and nothing changes besides. -/
inductive Step : VersionRow → VersionRow → Prop
  | published {row : VersionRow} {time : String} (hdraft : row.status = .draft)
      (hunset : row.publishedAt = none) :
    Step row { row with status := .published, publishedAt := some time }
  | archived {row : VersionRow} (hpublic : row.status = .published ∨ row.status = .deprecated) :
    Step row { row with status := .archived }
  | deprecated {row : VersionRow} (hpublished : row.status = .published) :
    Step row { row with status := .deprecated }

/-- What may happen to the row of a version, from before there is one. -/
inductive Life : Option VersionRow → Option VersionRow → Prop
  | rest (row? : Option VersionRow) : Life row? row?
  | create {row : VersionRow} (hdraft : row.status = .draft) (hunset : row.publishedAt = none) :
    Life none (some row)
  | move {old row : VersionRow} (hstep : Step old row) : Life (some old) (some row)

def Reaches : VersionRow → VersionRow → Prop :=
  Relation.ReflTransGen Step

variable {old row : VersionRow}

theorem Step.rank_lt (hstep : Step old row) : old.status.rank < row.status.rank := by
  cases hstep with
  | published hdraft => simp [hdraft, Status.rank]
  | archived hpublic =>
    rcases hpublic with hpublished | hdeprecated
    · simp [hpublished, Status.rank]
    · simp [hdeprecated, Status.rank]
  | deprecated hpublished => simp [hpublished, Status.rank]

theorem Step.publishedAt {time : String} (hstep : Step old row)
    (htime : old.publishedAt = some time) : row.publishedAt = some time := by
  cases hstep with
  | published _ hunset =>
    rw [hunset] at htime
    cases htime
  | archived => exact htime
  | deprecated => exact htime

theorem Reaches.eq_or_rank_lt (hreaches : Reaches old row) :
    row = old ∨ old.status.rank < row.status.rank := by
  induction hreaches with
  | refl => exact Or.inl rfl
  | tail _ hstep ih =>
    have hlt := hstep.rank_lt
    rcases ih with rfl | hrank
    · exact Or.inr hlt
    · exact Or.inr (hrank.trans hlt)

/-- No status is ever left and taken again. -/
theorem Reaches.eq_of_status (hreaches : Reaches old row) (hstatus : row.status = old.status) :
    row = old := by
  rcases hreaches.eq_or_rank_lt with heq | hrank
  · exact heq
  · rw [hstatus] at hrank
    exact absurd hrank (lt_irrefl _)

theorem Life.reaches {row? : Option VersionRow} (hlife : Life (some old) row?) :
    ∃ row, row? = some row ∧ Reaches old row := by
  cases hlife with
  | rest => exact ⟨old, rfl, .refl⟩
  | move hstep => exact ⟨_, rfl, .single hstep⟩

end VersionRow

namespace Version

def IsStamped (version : Version) : Prop :=
  version.publishedAt = none ↔ version.status = .draft

variable {version moved : Version} {next : Status} {now : Timestamp}

theorem IsNew.isStamped (hnew : version.IsNew) : version.IsStamped :=
  iff_of_true hnew.2 hnew.1

theorem toRow_publishedAt_eq_none :
    version.toRow.publishedAt = none ↔ version.publishedAt = none :=
  Option.map_eq_none_iff

theorem transition_eq_ok (hmoved : version.transition next now = .ok moved) :
    version.status.canBecome next = true ∧
      moved =
        { version with
          status := next
          publishedAt :=
            if next = .published then some (version.publishedAt.getD now)
            else version.publishedAt } := by
  rw [transition] at hmoved
  by_cases hcan : version.status.canBecome next = true
  · rw [if_pos hcan] at hmoved
    cases hmoved
    exact ⟨hcan, rfl⟩
  · rw [if_neg hcan] at hmoved
    cases hmoved

/-- The row of a version that is moved on goes one step. -/
theorem step_of_transition (hstamped : version.IsStamped)
    (hmoved : version.transition next now = .ok moved) :
    version.toRow.Step moved.toRow ∧ moved.IsStamped := by
  obtain ⟨hcan, rfl⟩ := transition_eq_ok hmoved
  have hunset : version.status = .draft → version.toRow.publishedAt = none := fun hdraft =>
    toRow_publishedAt_eq_none.mpr (hstamped.mpr hdraft)
  have hset : version.status ≠ .draft → version.publishedAt ≠ none := fun hpublic hnone =>
    hpublic (hstamped.mp hnone)
  cases hstatus : version.status with
  | draft =>
    cases next with
    | published => exact ⟨.published hstatus (hunset hstatus), by simp [IsStamped]⟩
    | _ =>
      rw [hstatus] at hcan
      cases hcan
  | published =>
    have htime := hset (by simp [hstatus])
    cases next with
    | archived => exact ⟨.archived (Or.inl hstatus), by simp [IsStamped, htime]⟩
    | deprecated => exact ⟨.deprecated hstatus, by simp [IsStamped, htime]⟩
    | _ =>
      rw [hstatus] at hcan
      cases hcan
  | deprecated =>
    have htime := hset (by simp [hstatus])
    cases next with
    | archived => exact ⟨.archived (Or.inr hstatus), by simp [IsStamped, htime]⟩
    | _ =>
      rw [hstatus] at hcan
      cases hcan
  | archived =>
    rw [hstatus] at hcan
    cases hcan

end Version

/-! ### Stored rows -/

namespace Store

/-- A version has at most one row, written from a version that has a time of publication unless it
is a draft. -/
structure IsSound (store : Store) (versionId : String) : Prop where
  single : store.IsSingle versionId
  written : ∀ row, store.row? versionId = some row →
    ∃ version : Version, row = version.toRow ∧ version.IsStamped

variable {store after : Store} {versionId : String}

theorem isSound_of_row?_eq_none (hnone : store.row? versionId = none) :
    store.IsSound versionId where
  single := isSingle_of_row?_eq_none hnone
  written row hrow := by
    rw [hnone] at hrow
    cases hrow

theorem IsSound.of_versions (hsound : store.IsSound versionId)
    (hversions : after.versions = store.versions) : after.IsSound versionId where
  single row hrow hid := by
    rw [row?_congr hversions]
    exact hsound.single row (hversions ▸ hrow) hid
  written row hrow := hsound.written row (row?_congr hversions versionId ▸ hrow)

theorem IsSound.stamped {row : VersionRow} (hsound : store.IsSound versionId)
    (hrow : store.row? versionId = some row) : row.publishedAt = none ↔ row.status = .draft := by
  obtain ⟨version, rfl, hstamped⟩ := hsound.written row hrow
  exact Version.toRow_publishedAt_eq_none.trans hstamped

theorem IsSound.row?_of_version? {version : Version} (hsound : store.IsSound versionId)
    (hread : store.version? versionId = .ok (some version)) :
    store.row? versionId = some version.toRow ∧ version.IsStamped := by
  obtain ⟨row, hrow, hversion⟩ := version?_eq_some hread
  obtain ⟨written, rfl, hstamped⟩ := hsound.written row hrow
  obtain rfl := Version.eq_of_toVersion_toRow hversion
  exact ⟨hrow, hstamped⟩

theorem IsSound.inserted {version : Version} (hsound : store.IsSound versionId)
    (hnew : version.IsNew) (htaken : store.isTaken version = false)
    (hversions : after.versions = store.versions ++ [version.toRow]) :
    after.IsSound versionId ∧
      (after.row? versionId = store.row? versionId ∨
        (store.row? versionId = none ∧
          VersionRow.Life (store.row? versionId) (after.row? versionId))) := by
  have hrow := @row?_inserted _ _ versionId _ htaken hversions
  have hsingle := hsound.single.inserted htaken hversions
  split_ifs at hrow with hid
  · have hnone : store.row? versionId = none := hid ▸ row?_eq_none_of_isTaken htaken
    refine ⟨⟨hsingle, ?_⟩, Or.inr ⟨hnone, ?_⟩⟩
    · intro row hfound
      rw [hrow] at hfound
      cases hfound
      exact ⟨version, rfl, hnew.isStamped⟩
    · rw [hnone, hrow]
      exact .create hnew.1 (Version.toRow_publishedAt_eq_none.mpr hnew.2)
  · exact ⟨⟨hsingle, fun row hfound => hsound.written row (hrow ▸ hfound)⟩, Or.inl hrow⟩

theorem row?_updateStatus_of_ne {id : String} (hother : id ≠ versionId) (expected status : Status)
    (publishedAt : Option Timestamp) :
    (store.updateStatus id expected status publishedAt).1.row? versionId =
      store.row? versionId := by
  rw [row?_updateStatus]
  simp [hother]

theorem IsSound.moved {version moved : Version} {next : Status} {now : Timestamp}
    (hsound : store.IsSound versionId) (hrow : store.row? versionId = some version.toRow)
    (hstamped : version.IsStamped) (hmoved : version.transition next now = .ok moved) :
    (store.updateStatus versionId version.status moved.status moved.publishedAt).1.row? versionId =
        some moved.toRow ∧
      (store.updateStatus versionId version.status moved.status moved.publishedAt).1.IsSound
        versionId := by
  have hafter : (store.updateStatus versionId version.status moved.status
      moved.publishedAt).1.row? versionId = some moved.toRow := by
    obtain ⟨-, rfl⟩ := Version.transition_eq_ok hmoved
    rw [row?_updateStatus, hrow]
    simp [Version.toRow]
  refine ⟨hafter, hsound.single.updateStatus _ _ _ _, fun row hfound => ?_⟩
  rw [hafter] at hfound
  cases hfound
  exact ⟨moved, rfl, (Version.step_of_transition hstamped hmoved).2⟩

end Store

end KnowledgeSchema
