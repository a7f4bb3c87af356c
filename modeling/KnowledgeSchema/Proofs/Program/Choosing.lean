import KnowledgeSchema.Proofs.Program.Versions

/-!
# The version that is chosen

Without being asked for a version, a blueprint is compiled from the published version with the
highest number, and as long as there is none from the version with the highest number. The choice is
made among the rows of the blueprint.
-/

namespace KnowledgeSchema

/-! ### The highest number -/

theorem Operation.latest?_cons_cons (first second : Version) (rest : List Version) :
    latest? (first :: second :: rest) =
      latest? ((if second.number < first.number then first else second) :: rest) := by
  by_cases hless : second.number < first.number <;> simp [latest?, hless]

theorem Operation.latest?_cons (first : Version) (rest : List Version) :
    ∃ latest ∈ first :: rest, latest? (first :: rest) = some latest ∧
      ∀ version ∈ first :: rest, version.number ≤ latest.number := by
  induction rest generalizing first with
  | nil => exact ⟨first, List.mem_cons_self, rfl, by simp⟩
  | cons second rest ih =>
    rw [latest?_cons_cons]
    by_cases hless : second.number < first.number
    · obtain ⟨latest, hmem, hlatest, hhighest⟩ := ih first
      rw [if_pos hless]
      have hfirst := hhighest first List.mem_cons_self
      exact ⟨latest, by grind, hlatest, by grind [Int64.le_trans, Int64.le_of_lt]⟩
    · obtain ⟨latest, hmem, hlatest, hhighest⟩ := ih second
      rw [if_neg hless]
      have hsecond := hhighest second List.mem_cons_self
      exact ⟨latest, by grind, hlatest, by grind [Int64.le_trans, Int64.not_lt]⟩

theorem Operation.latest?_eq_none {versions : List Version} :
    latest? versions = none ↔ versions = [] := by
  cases versions with
  | nil => exact iff_of_true rfl rfl
  | cons first rest =>
    obtain ⟨latest, -, hlatest, -⟩ := latest?_cons first rest
    simp [hlatest]

theorem Operation.latest?_eq_some {versions : List Version} {latest : Version}
    (hlatest : latest? versions = some latest) :
    latest ∈ versions ∧ ∀ version ∈ versions, version.number ≤ latest.number := by
  cases versions with
  | nil => cases hlatest
  | cons first rest =>
    obtain ⟨found, hmem, hfound, hhighest⟩ := latest?_cons first rest
    cases hfound.symm.trans hlatest
    exact ⟨hmem, hhighest⟩

/-! ### The choice -/

namespace Store

/-- The version to compile: the one asked for, else the latest published one, else the latest. -/
def chooseVersion (store : Store) (blueprintId : String) : Option String → Except Failure Version
  | some versionId => store.readVersion versionId
  | none => do
    let versions ← store.listVersions blueprintId
    match Operation.latest? (versions.filter (·.status == .published)) <|>
        Operation.latest? versions with
    | some version => return version
    | none =>
      match ← store.blueprint? blueprintId with
      | none => throw (.blueprintNotFound blueprintId)
      | some _ => throw (.noVersions blueprintId)

/-- Whether a row of a blueprint has the highest number, among its published ones if there are any. -/
structure IsLatest (store : Store) (blueprintId : String) (row : VersionRow) : Prop where
  stored : row ∈ store.versions
  owned : row.blueprintId = blueprintId
  published : row.status = .published → ∀ other ∈ store.versions, other.blueprintId = blueprintId →
    other.status = .published → other.number ≤ row.number
  unpublished : row.status ≠ .published → ∀ other ∈ store.versions,
    other.blueprintId = blueprintId → other.status ≠ .published ∧ other.number ≤ row.number

variable {store : Store} {blueprintId : String} {versions : List Version} {version : Version}

theorem version?_of_mem_listVersions (hsingle : ∀ versionId, store.IsSingle versionId)
    (hversions : store.listVersions blueprintId = .ok versions) (hmem : version ∈ versions) :
    store.version? version.id = .ok (some version) := by
  obtain ⟨row, hrow, hread⟩ := Outcome.exists_of_mem_mapM hversions hmem
  have hstored : row ∈ store.versions :=
    List.mem_of_mem_filter (Store.mem_ordered.mp hrow)
  have hid := (VersionRow.eq_of_toVersion hread).1
  rw [hid, Store.version?_of_row? (hsingle row.id row hstored rfl), hread]
  rfl

/-- Every row of a blueprint is listed. -/
theorem exists_mem_listVersions (hversions : store.listVersions blueprintId = .ok versions)
    {row : VersionRow} (hrow : row ∈ store.versions) (howner : row.blueprintId = blueprintId) :
    ∃ version ∈ versions, row.toVersion = .ok version := by
  apply Outcome.exists_mem_of_mapM hversions
  rw [mem_ordered, versionsOf, List.mem_filter]
  exact ⟨hrow, beq_iff_eq.mpr howner⟩

theorem latest_of_chooseVersion (hchosen : store.chooseVersion blueprintId none = .ok version) :
    ∃ versions, store.listVersions blueprintId = .ok versions ∧
      (Operation.latest? (versions.filter (·.status == .published)) <|>
        Operation.latest? versions) = some version := by
  obtain ⟨versions, hversions, hlatest⟩ := Outcome.bind_eq_ok.mp hchosen
  refine ⟨versions, hversions, ?_⟩
  cases hfound : Operation.latest? (versions.filter (·.status == .published)) <|>
      Operation.latest? versions with
  | some latest =>
    simp only [hfound] at hlatest
    cases hlatest
    rfl
  | none =>
    simp only [hfound] at hlatest
    obtain ⟨blueprint?, -, hthrown⟩ := Outcome.bind_eq_ok.mp hlatest
    cases blueprint? <;> cases hthrown

/-- The version that is chosen among the versions of a blueprint is one with the highest number. -/
theorem highest_of_latest
    (hlatest : (Operation.latest? (versions.filter (·.status == .published)) <|>
      Operation.latest? versions) = some version) :
    version ∈ versions ∧
      (version.status = .published → ∀ other ∈ versions, other.status = .published →
        other.number ≤ version.number) ∧
      (version.status ≠ .published → ∀ other ∈ versions,
        other.status ≠ .published ∧ other.number ≤ version.number) := by
  cases hpublished : Operation.latest? (versions.filter (·.status == .published)) with
  | some published =>
    rw [hpublished] at hlatest
    cases hlatest
    obtain ⟨hmem, hhighest⟩ := Operation.latest?_eq_some hpublished
    obtain ⟨hversion, hstatus⟩ := List.mem_filter.mp hmem
    rw [beq_iff_eq] at hstatus
    refine ⟨hversion, fun _ other hother hpublic => ?_, fun hother => absurd hstatus hother⟩
    exact hhighest other (List.mem_filter.mpr ⟨hother, beq_iff_eq.mpr hpublic⟩)
  | none =>
    rw [hpublished] at hlatest
    obtain ⟨hversion, hhighest⟩ := Operation.latest?_eq_some hlatest
    have hnone : ∀ other ∈ versions, other.status ≠ .published := by
      simpa using Operation.latest?_eq_none.mp hpublished
    refine ⟨hversion, fun hstatus => absurd hstatus (hnone version hversion), ?_⟩
    exact fun _ other hother => ⟨hnone other hother, hhighest other hother⟩

theorem isLatest_of_chooseVersion (hchosen : store.chooseVersion blueprintId none = .ok version) :
    ∃ row, store.IsLatest blueprintId row ∧ row.toVersion = .ok version := by
  obtain ⟨versions, hversions, hlatest⟩ := latest_of_chooseVersion hchosen
  obtain ⟨hmem, hpublished, hunpublished⟩ := highest_of_latest hlatest
  obtain ⟨row, hrow, hread⟩ := Outcome.exists_of_mem_mapM hversions hmem
  rw [mem_ordered, versionsOf, List.mem_filter, beq_iff_eq] at hrow
  obtain ⟨-, -, hnumber, hstatus⟩ := VersionRow.eq_of_toVersion hread
  refine ⟨row, ⟨hrow.1, hrow.2, fun hpublic other hother howner hotherPublic => ?_,
    fun hprivate other hother howner => ?_⟩, hread⟩
  · obtain ⟨listed, hlisted, hotherRead⟩ := exists_mem_listVersions hversions hother howner
    obtain ⟨-, -, hotherNumber, hotherStatus⟩ := VersionRow.eq_of_toVersion hotherRead
    rw [← hnumber, ← hotherNumber]
    exact hpublished (hstatus.trans hpublic) listed hlisted (hotherStatus.trans hotherPublic)
  · obtain ⟨listed, hlisted, hotherRead⟩ := exists_mem_listVersions hversions hother howner
    obtain ⟨-, -, hotherNumber, hotherStatus⟩ := VersionRow.eq_of_toVersion hotherRead
    rw [← hnumber, ← hotherNumber, ← hotherStatus]
    exact hunpublished (hstatus ▸ hprivate) listed hlisted

/-- The version that is chosen is read from its own row. -/
theorem version?_of_chooseVersion (hsingle : ∀ versionId, store.IsSingle versionId)
    {versionId : Option String} (hchosen : store.chooseVersion blueprintId versionId = .ok version) :
    store.version? version.id = .ok (some version) := by
  cases versionId with
  | some versionId =>
    have hread := readVersion_eq_ok.mp hchosen
    rwa [id_of_version? hread]
  | none =>
    obtain ⟨versions, hversions, hlatest⟩ := latest_of_chooseVersion hchosen
    exact version?_of_mem_listVersions hsingle hversions (highest_of_latest hlatest).1

/-- Without any version of a blueprint it depends on the blueprint what is wrong. -/
theorem chooseVersion_of_none (hnone : ∀ row ∈ store.versions, row.blueprintId ≠ blueprintId) :
    store.chooseVersion blueprintId none =
      (store.blueprint? blueprintId >>= fun
        | none => .error (.blueprintNotFound blueprintId)
        | some _ => .error (.noVersions blueprintId)) := by
  have hrows : store.versionsOf blueprintId = [] := by
    simpa [versionsOf] using hnone
  have hversions : store.listVersions blueprintId = .ok [] := by
    simp [listVersions, hrows, ordered]
    rfl
  rw [chooseVersion, hversions]
  rfl

end Store

theorem World.yields_chooseVersion {world : World} {agent : Agent} (hserving : world.IsServing)
    (blueprintId : String) (versionId : Option String) :
    world.Yields agent (Operation.chooseVersion blueprintId versionId)
      (world.store.chooseVersion blueprintId versionId) := by
  cases versionId with
  | some versionId => exact yields_getVersion hserving versionId
  | none =>
    refine (yields_callWithin hserving rfl).bind fun versions _ => ?_
    cases Operation.latest? (versions.filter (·.status == .published)) <|>
        Operation.latest? versions with
    | some version => exact yields_pure version
    | none =>
      refine (yields_callWithin hserving rfl).bind fun blueprint? _ => ?_
      cases blueprint? with
      | none => exact yields_throw _
      | some blueprint => exact yields_throw _

end KnowledgeSchema
