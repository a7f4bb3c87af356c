import KnowledgeSchema.Proofs.Concurrent.System
import KnowledgeSchema.Proofs.Store.Consistency
import KnowledgeSchema.Proofs.Store.Failures

/-!
# Conflicts of versions

A conflict tells who asked for a new version that its number is taken. It is reported whenever one of
the two keys of the row is in use, its number within the blueprint or its id, so that it can be relied
on only where ids are not used twice.
-/

namespace KnowledgeSchema

namespace Store

variable {store : Store} {call : Call} {version : Version}

/-- Whether a blueprint has a version with a number. -/
def HasNumber (store : Store) (blueprintId : String) (number : Int64) : Prop :=
  ∃ row ∈ store.versions, row.blueprintId = blueprintId ∧ row.number = number

theorem isTaken_iff_hasNumber :
    store.isTaken version = true ↔
      store.hasVersion version.id = true ∨ store.HasNumber version.blueprintId version.number := by
  simp only [isTaken, hasVersion, HasNumber, List.any_eq_true, Bool.or_eq_true, Bool.and_eq_true,
    beq_iff_eq, and_or_left, exists_or]

/-- Whether a call fails with a conflict, of whichever version. -/
def ReportsConflict (store : Store) (call : Call) : Prop :=
  ∃ blueprintId number, (store.run call).1 = .error (.versionConflict blueprintId number)

/-- A conflict is reported of a new version exactly when its number is taken in its blueprint. The
report names both, and nothing is written then. Otherwise the row of the version goes in. -/
structure ConflictsOnNumber (store : Store) (call : Call) (version : Version) : Prop where
  reported : store.ReportsConflict call ↔ store.HasNumber version.blueprintId version.number
  named : ∀ blueprintId number,
    (store.run call).1 = .error (.versionConflict blueprintId number) →
      blueprintId = version.blueprintId ∧ number = version.number
  unchanged : store.ReportsConflict call → (store.run call).2 = store
  inserted : ¬store.HasNumber version.blueprintId version.number →
    store.insertVersion version = .ok { store with versions := store.versions ++ [version.toRow] }

/-! ### The failures of a new version -/

theorem insertVersion_eq (hblueprint : store.hasBlueprint version.blueprintId = true)
    (hpositive : 0 < version.number) :
    store.insertVersion version =
      if store.isTaken version = true then
        .error (.versionConflict version.blueprintId version.number)
      else .ok { store with versions := store.versions ++ [version.toRow] } := by
  rw [insertVersion, if_neg (Int64.not_le.mpr hpositive), if_pos hblueprint]

theorem run_of_isTaken (hcall : call.inserted? = some version)
    (hblueprint : store.hasBlueprint version.blueprintId = true) (hpositive : 0 < version.number)
    (htaken : store.isTaken version = true) :
    (store.run call).1 = .error (.versionConflict version.blueprintId version.number) := by
  have hinsert : store.insertVersion version =
      .error (.versionConflict version.blueprintId version.number) := by
    rw [insertVersion_eq hblueprint hpositive, if_pos htaken]
  have hwrite : ∀ writes, store.writeAll (.version version :: writes) =
      .error (.versionConflict version.blueprintId version.number) := by
    intro writes
    rw [writeAll, List.foldlM_cons, write, hinsert]
    rfl
  cases call with
  | insertVersion =>
    cases hcall
    rw [run, commit, Call.writes, hwrite]
  | insertVersionWith =>
    cases hcall
    rw [run, commit, Call.writes, hwrite]
  | _ => cases hcall

/-- The refusals of a store leave no other conflict than that of the version itself. -/
theorem eq_of_conflict (hcall : call.inserted? = some version) {blueprintId : String}
    {number : Int64}
    (hconflict : (store.run call).1 = .error (.versionConflict blueprintId number)) :
    store.isTaken version = true ∧ blueprintId = version.blueprintId ∧ number = version.number := by
  cases failsOnly_run store call _ hconflict with
  | unreadable hunreadable => exact hunreadable.elim
  | conflict hinserted _ htaken =>
    cases hcall.symm.trans hinserted
    exact ⟨htaken, rfl, rfl⟩

theorem reportsConflict_iff (hcall : call.inserted? = some version)
    (hblueprint : store.hasBlueprint version.blueprintId = true) (hpositive : 0 < version.number) :
    store.ReportsConflict call ↔ store.isTaken version = true := by
  constructor
  · rintro ⟨_, _, hconflict⟩
    exact (eq_of_conflict hcall hconflict).1
  · intro htaken
    exact ⟨_, _, run_of_isTaken hcall hblueprint hpositive htaken⟩

/-- A new version for a blueprint that is there, under a number from one on, alone or with its
definitions. If no version has its id, a conflict means that its number is taken. If one has, a
conflict is reported all the same, be the number taken or not, and nothing is written. -/
theorem conflictsOnNumber (hcall : call.inserted? = some version)
    (hblueprint : store.hasBlueprint version.blueprintId = true) (hpositive : 0 < version.number) :
    (store.hasVersion version.id = false → store.ConflictsOnNumber call version) ∧
      (store.hasVersion version.id = true →
        (store.run call).1 = .error (.versionConflict version.blueprintId version.number) ∧
          (store.run call).2 = store) := by
  have hreported := reportsConflict_iff hcall hblueprint hpositive
  constructor
  · intro hunused
    have htaken : store.isTaken version = true ↔
        store.HasNumber version.blueprintId version.number := by
      simp [isTaken_iff_hasNumber, hunused]
    refine ⟨hreported.trans htaken, fun _ _ hconflict => (eq_of_conflict hcall hconflict).2,
      ?_, fun hfree => ?_⟩
    · rintro ⟨_, _, hconflict⟩
      exact run_eq_of_error hconflict
    · rw [insertVersion_eq hblueprint hpositive, if_neg (mt htaken.mp hfree)]
  · intro hused
    have htaken := isTaken_iff_hasNumber.mpr (Or.inl hused)
    have hconflict := run_of_isTaken hcall hblueprint hpositive htaken
    exact ⟨hconflict, run_eq_of_error hconflict⟩

/-! ### An id that is used twice -/

/-- A blueprint with one version. -/
def started : Store :=
  ((({} : Store).run (.saveBlueprint (.new "b" "Novel" .epoch))).2.run
    (.insertVersion (.draft "v" "b" 1 .epoch))).2

theorem isReachable_started : started.IsReachable := by
  refine .run (.run .empty _ ?_) _ ?_ <;> simp [Call.writes, Write.IsNormal]

theorem conflictsOnNumber_started :
    started.ConflictsOnNumber (.insertVersion (.draft "w" "b" 1 .epoch)) (.draft "w" "b" 1 .epoch) ∧
      started.ConflictsOnNumber (.insertVersionWith (.draft "w" "b" 2 .epoch) {})
        (.draft "w" "b" 2 .epoch) ∧
      (started.run (.insertVersion (.draft "v" "b" 2 .epoch))).1 = .error (.versionConflict "b" 2) :=
  ⟨(conflictsOnNumber rfl rfl (by decide)).1 rfl, (conflictsOnNumber rfl rfl (by decide)).1 rfl,
    ((@conflictsOnNumber _ _ (.draft "v" "b" 2 .epoch) rfl rfl (by decide)).2 rfl).1⟩

/-- The second version of a blueprint is refused for its number when it has the id of the first. -/
theorem not_conflictsOnNumber_started :
    started.IsReachable ∧ started.hasBlueprint "b" = true ∧ (0 : Int64) < 2 ∧
      ¬started.HasNumber "b" 2 ∧
      ¬started.ConflictsOnNumber (.insertVersion (.draft "v" "b" 2 .epoch))
        (.draft "v" "b" 2 .epoch) ∧
      ¬started.ConflictsOnNumber (.insertVersionWith (.draft "v" "b" 2 .epoch) {})
        (.draft "v" "b" 2 .epoch) := by
  have hnumber : ¬started.HasNumber "b" 2 := by
    rintro ⟨row, hrow, -, hnumber⟩
    cases List.mem_singleton.mp hrow
    exact absurd hnumber (by decide)
  have hpositive : (0 : Int64) < 2 := by decide
  refine ⟨isReachable_started, rfl, hpositive, hnumber, fun hconflicts => hnumber ?_,
    fun hconflicts => hnumber ?_⟩
  · exact hconflicts.reported.mp ⟨_, _, run_of_isTaken rfl rfl hpositive rfl⟩
  · exact hconflicts.reported.mp ⟨_, _, run_of_isTaken rfl rfl hpositive rfl⟩

end Store

end KnowledgeSchema
