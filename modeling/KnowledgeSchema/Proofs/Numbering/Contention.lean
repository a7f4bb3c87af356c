import KnowledgeSchema.Proofs.Numbering.Attempts

/-!
# Conflicts only under contention

Each conflict of a call that creates a draft takes another rival. So a call that gives up on a
conflict had five of them, and with fewer one of its attempts succeeds.
-/

namespace KnowledgeSchema

/-! ### Every call upholds the pact -/

section Beginning

variable {ids : Ids} {scene : Scene} {caller : Caller}

/-- A call that creates a draft gives back how that ended. -/
def Scene.HasReplied (caller : Caller) (outcome : Except Failure Reply) (scene : Scene) : Prop :=
  caller.command.Creates →
    ∃ drafting, outcome = Reply.version <$> drafting ∧ scene.HasDrafted caller drafting

theorem drafts_replied {operation : Operation Version}
    (hdrafts : (allotmentPact ids).Upholds caller (Scene.HasDrafted caller) operation.run scene) :
    (allotmentPact ids).Upholds caller (Scene.HasReplied caller)
      (Reply.version <$> operation).run scene := by
  rw [Operation.run_map]
  refine Pact.Upholds.bind (hdrafts.mono fun drafting scene _ hdrafted => ?_)
  have hstable := stable_span ids caller.task fun own span => Drafts caller own span drafting
  cases drafting with
  | ok version => exact Pact.upholds_done hstable hdrafted fun _ _ hlater _ => ⟨_, rfl, hlater⟩
  | error failure => exact Pact.upholds_done hstable hdrafted fun _ _ hlater _ => ⟨_, rfl, hlater⟩

theorem drafts_nothing (hinjective : Function.Injective ids)
    (hcommand : ¬caller.command.Creates) :
    (allotmentPact ids).Upholds caller (Scene.HasReplied caller) caller.command.operation.run
      scene := by
  refine Pact.upholds_of_every (Pact.stable_ofTask _ _ fun _ => True) ?_ ?_
    (Operation.every_iff.mp caller.command.every_mayMake) trivial
  · intro scene r hallotted _ hmay
    obtain ⟨hallows, hholds⟩ := hallotted.keeps hinjective
      (Scene.keys_exchange_of_mayMake hallotted.issue.undisturbed hcommand hmay)
    exact ⟨hallows, hholds, trivial⟩
  · intro outcome scene _ _ hcreates
    exact absurd hcreates hcommand

theorem begins_allotment (hinjective : Function.Injective ids) :
    (allotmentPact ids).Begins Scene.HasReplied := by
  rintro ⟨task, agent, command⟩ scene - -
  cases command with
  | createDraft owner => exact drafts_replied (drafts_createDraft hinjective rfl)
  | forkDraft sourceId => exact drafts_replied (drafts_forkDraft hinjective rfl)
  | _ => exact drafts_nothing hinjective (by simp [Command.Creates])

end Beginning

/-! ### Reachable systems -/

/-- In a system of managers and services drafts fail to get a number only when others get it. -/
structure System.IsDiligent (system : System) : Prop where
  /-- A call that gives up on a conflict was outrun by five others at least, between its first
  request and its last. -/
  outrun : ∀ i agent command blueprintId number, command.Creates →
    system.tasks[i]? =
        some ⟨agent, command, .done (.error (.versionConflict blueprintId number))⟩ →
      command.Targets (system.scene.ofTask i) blueprintId ∧
        5 ≤ (system.scene.span i).countP (·.rivals i blueprintId)
  /-- Each of them inserted one version of the blueprint. -/
  rival : ∀ e ∈ system.journal, ∀ i blueprintId, e.rivals i blueprintId = true →
    e.caller.task ≠ i ∧ ∃ version : Version, version.blueprintId = blueprintId ∧
      e.after.store.versions = e.before.store.versions ++ [version.toRow]
  /-- With fewer than five, and a store that carries its calls out, a call inserts its draft with
  the number after the highest one at its last look, unless there is no such blueprint or no such
  source. -/
  inserted : ∀ i agent command outcome, command.Creates →
    system.tasks[i]? = some ⟨agent, command, .done outcome⟩ →
      (∀ e ∈ system.scene.ofTask i, ∀ failure, e.Fails failure →
        ∃ blueprintId number, failure = .versionConflict blueprintId number) →
      (∀ blueprintId, command.Targets (system.scene.ofTask i) blueprintId →
        (system.scene.span i).countP (·.rivals i blueprintId) < 5) →
        (∃ version, outcome = .ok (.version version) ∧
            Inserted command (system.scene.ofTask i) version) ∨
          ∃ failure, outcome = .error failure ∧ Misses command (system.scene.ofTask i) failure
  /-- A call is over some day, whatever the others do. -/
  ends : ∀ i, i < system.tasks.length → system.Ends i

/-- The ids come from a source that never repeats itself and has none that a version has already. -/
theorem System.isDiligent_run (store : Store) (ids : Ids) (clock : Nat → Timestamp)
    (capacity : Nat → Nat) (hinjective : Function.Injective ids)
    (hunused : ∀ place, ids place ∉ store.versions.map (·.id)) (actions : List Action) :
    ((start store ids clock capacity).run actions).IsDiligent := by
  have hallotted : (start store ids clock capacity).scene.IsAllotted ids := by
    refine ⟨⟨⟨rfl, rfl⟩, rfl, fun _ _ hnone => ?_, fun _ _ _ hnone => ?_⟩,
      fun place _ hthere => hunused place ?_, fun _ hnone => ?_⟩
    · cases hnone
    · cases hnone
    · rwa [Store.versionIds, Store.keys, List.map_map] at hthere
    · cases hnone
  have hkept := Pact.kept_run (begins_allotment hinjective) (Pact.kept_start hallotted) actions
  generalize (start store ids clock capacity).run actions = system at hkept
  constructor
  · intro i agent command blueprintId number hcreates htask
    obtain ⟨drafting, heq, hdrafted⟩ := hkept.returned htask hcreates
    cases hdrafted with
    | inserted => cases heq
    | missed hmisses =>
      cases heq
      cases hmisses
    | outrun htarget hrivals =>
      cases heq
      exact ⟨htarget, hrivals⟩
    | failed _ _ hother =>
      cases heq
      exact absurd rfl (hother _ _)
  · intro e he i blueprintId hrivals
    have hother : e.caller.task ≠ i := by
      simp only [Exchange.rivals, Bool.and_eq_true, bne_iff_ne] at hrivals
      exact hrivals.1
    exact ⟨hother, (hkept.allows e he).version_of_rivals hrivals⟩
  · intro i agent command outcome hcreates htask hcarried hfewer
    obtain ⟨drafting, rfl, hdrafted⟩ := hkept.returned htask hcreates
    cases hdrafted with
    | inserted hinserted => exact Or.inl ⟨_, rfl, hinserted⟩
    | missed hmisses => exact Or.inr ⟨_, rfl, hmisses⟩
    | outrun htarget hrivals => exact absurd hrivals (Nat.not_le.mpr (hfewer _ htarget))
    | failed he hfails hother =>
      obtain ⟨blueprintId, number, rfl⟩ := hcarried _ he _ hfails
      exact absurd rfl (hother blueprintId number)
  · exact fun i => ends_of_lt

/-- A call is outrun once and gets the second number. -/
theorem System.isDiligent_run_race :
    Function.Injective Ids.tally ∧ (∀ place, Ids.tally place ∉ ({} : Store).versions.map (·.id)) ∧
      (fresh.run <|
        [.begin 0 (.createBlueprint "Novel" none [] false), .begin 1 (.createDraft "x"),
          .begin 2 (.createDraft "x")] ++
          List.replicate 5 (.advance 0) ++ List.replicate 4 (.advance 1) ++
          List.replicate 7 (.advance 2) ++ List.replicate 5 (.advance 1)).IsDiligent :=
  ⟨Ids.tally_injective, fun _ => List.not_mem_nil,
    isDiligent_run {} .tally _ _ Ids.tally_injective (fun _ => List.not_mem_nil) _⟩

end KnowledgeSchema
