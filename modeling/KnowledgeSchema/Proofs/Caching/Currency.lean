import KnowledgeSchema.Proofs.Caching.Harmless
import KnowledgeSchema.Proofs.Program.Choosing

/-!
# Agents that are up to date

What is kept for a version may be outdated only once the version has left the published status. A
version that is read as published is then as good as compiled.
-/

namespace KnowledgeSchema

namespace Operation

/-- Compiles the version that is chosen, whatever is kept for it. -/
def compileBlueprintAnew (settings : CompilerSettings) (blueprintId : String)
    (versionId : Option String) : Operation Artifact := do
  let version ← chooseVersion blueprintId versionId
  compile settings.maxDepth settings.limit version.id

def compileVersionAnew (settings : CompilerSettings) (versionId : String) : Operation Artifact := do
  let version ← getVersion versionId
  compile settings.maxDepth settings.limit version.id

end Operation

/-- What is kept for a version that is still published is what it compiles to. -/
def Agent.IsCurrent (agent : Agent) (maxDepth : UInt64) (store : Store) : Prop :=
  ∀ versionId artifact, agent.fetch versionId = some artifact →
    ∃ row, store.row? versionId = some row ∧ row.status ≠ .draft ∧
      (row.status = .published → store.compiled maxDepth versionId = .ok artifact)

namespace Agent

variable {agent after : Agent} {maxDepth : UInt64} {store later : Store}

theorem IsCurrent.respects (hcurrent : agent.IsCurrent maxDepth store)
    (hrespects : store.Respects later) : agent.IsCurrent maxDepth later := by
  intro versionId artifact hfetch
  obtain ⟨row, hrow, hpublic, hcompiled⟩ := hcurrent versionId artifact hfetch
  obtain ⟨moved, hmoved, hmovedPublic, hsame⟩ := hrespects.row versionId row hrow hpublic
  refine ⟨moved, hmoved, hmovedPublic, fun hpublished => ?_⟩
  obtain rfl := hsame hpublished
  exact hrespects.compiled hrow hpublished hmoved (hcompiled hpublished)

theorem IsCurrent.forget (hcurrent : agent.IsCurrent maxDepth store)
    (hremembered : ∀ versionId artifact, after.fetch versionId = some artifact →
      agent.fetch versionId = some artifact) : after.IsCurrent maxDepth store :=
  fun versionId artifact hfetch => hcurrent versionId artifact (hremembered _ _ hfetch)

theorem fetch_keep {artifact found : Artifact} {versionId : String}
    (hfetch : (agent.keep artifact).fetch versionId = some found) :
    (versionId = artifact.version.id ∧ found = artifact) ∨
      agent.fetch versionId = some found := by
  rw [fetch, keep, List.lookup_cons] at hfetch
  cases hkey : versionId == artifact.version.id with
  | true =>
    rw [hkey] at hfetch
    exact Or.inl ⟨beq_iff_eq.mp hkey, (Option.some.inj hfetch).symm⟩
  | false =>
    rw [hkey] at hfetch
    exact Or.inr (World.lookup_filter_bne hfetch)

/-- An artifact is kept under the version it was compiled from. -/
theorem IsCurrent.keep (hcurrent : agent.IsCurrent maxDepth store) {artifact : Artifact}
    {versionId : String} (hcompiled : store.compiled maxDepth versionId = .ok artifact)
    (hpublished : artifact.version.status = .published) :
    (agent.keep artifact).IsCurrent maxDepth store := by
  obtain ⟨version, blueprint, content, hversion, -, -, rfl⟩ := Store.compiled_eq_ok hcompiled
  change version.status = .published at hpublished
  obtain rfl := Store.id_of_version? hversion
  intro other found hfetch
  rcases fetch_keep hfetch with ⟨rfl, rfl⟩ | hold
  · obtain ⟨row, hrow, hread⟩ := Store.version?_eq_some hversion
    obtain ⟨-, -, -, hstatus⟩ := VersionRow.eq_of_toVersion hread
    refine ⟨row, hrow, ?_, fun _ => hcompiled⟩
    rw [← hstatus, hpublished]
    decide
  · exact hcurrent other found hold

end Agent

namespace World

variable {world : World} {agent : Agent} {settings : CompilerSettings} {version : Version}
  {maxDepth : UInt64}

/-- An operation that comes to an outcome, changes nothing in the store and keeps no artifact but for
a good reason. -/
structure Compiles (world : World) (agent : Agent) (maxDepth : UInt64)
    (operation : Operation Artifact) (outcome : Except Failure Artifact) : Prop where
  outcome : (world.perform agent operation).1 = outcome
  ready : (world.perform agent operation).2.1.IsReady
  store : (world.perform agent operation).2.1.store = world.store
  current : (world.perform agent operation).2.2.IsCurrent maxDepth world.store

theorem Yields.compiles {operation : Operation Artifact} {outcome : Except Failure Artifact}
    (hyields : world.Yields agent operation outcome) (hready : world.IsReady)
    (hcurrent : agent.IsCurrent maxDepth world.store) :
    world.Compiles agent maxDepth operation outcome := by
  rw [Yields] at hyields
  constructor
  · rw [hyields]
  · rwa [hyields]
  · rw [hyields]
  · rwa [hyields]

theorem Yields.compiles_bind_ok {α : Type} {operation : Operation α} {value : α}
    {next : α → Operation Artifact} {outcome : Except Failure Artifact}
    (hyields : world.Yields agent operation (.ok value))
    (hnext : world.Compiles agent maxDepth (next value) outcome) :
    world.Compiles agent maxDepth (operation >>= next) outcome := by
  obtain ⟨houtcome, hready, hstore, hcurrent⟩ := hnext
  constructor <;> rw [perform_bind_ok hyields] <;> assumption

theorem Yields.compiles_bind {α : Type} {operation : Operation α} {outcome : Except Failure α}
    {next : α → Operation Artifact} {rest : α → Except Failure Artifact}
    (hyields : world.Yields agent operation outcome) (hready : world.IsReady)
    (hcurrent : agent.IsCurrent maxDepth world.store)
    (hnext : ∀ value, outcome = .ok value →
      world.Compiles agent maxDepth (next value) (rest value)) :
    world.Compiles agent maxDepth (operation >>= next) (outcome >>= rest) := by
  cases outcome with
  | error failure =>
    have hfailed : world.Yields agent (operation >>= next) (.error failure) := by
      rw [Yields, perform_bind, hyields]
    exact hfailed.compiles hready hcurrent
  | ok value => exact hyields.compiles_bind_ok (hnext value rfl)

theorem perform_compileAndRecord (hserving : world.IsServing) (settings : CompilerSettings)
    (version : Version) :
    world.perform agent (Operation.compileAndRecord settings version) =
      match world.store.compiled settings.maxDepth version.id with
      | .ok artifact =>
        (.ok artifact, world.now.2, agent.record (.versionCompiled version.id artifact.fingerprint
          (UInt64.ofNat artifact.diagnostics.length) (world.clock world.ticks)))
      | .error failure => (.error failure, world, agent) := by
  rw [Operation.compileAndRecord, perform_bind, yields_compile hserving]
  cases world.store.compiled settings.maxDepth version.id with
  | error failure => rfl
  | ok artifact => rfl

theorem compiles_compileAndRecord (hready : world.IsReady)
    (hcurrent : agent.IsCurrent settings.maxDepth world.store) (version : Version) :
    world.Compiles agent settings.maxDepth (Operation.compileAndRecord settings version)
      (world.store.compiled settings.maxDepth version.id) := by
  have hperform := @perform_compileAndRecord world agent hready.serving settings version
  cases hcompiled : world.store.compiled settings.maxDepth version.id with
  | error failure =>
    rw [hcompiled] at hperform
    exact Yields.compiles hperform hready hcurrent
  | ok artifact =>
    rw [hcompiled] at hperform
    constructor
    · rw [hperform]
    · rw [hperform]
      exact hready.now
    · rw [hperform]
      rfl
    · rw [hperform]
      exact hcurrent

theorem Compiles.keep {operation : Operation Artifact} {versionId : String}
    (hcompiles : world.Compiles agent maxDepth operation
      (world.store.compiled maxDepth versionId)) :
    world.Compiles agent maxDepth
      (do
        let artifact ← operation
        if artifact.version.status = .published then Operation.keep artifact
        return artifact)
      (world.store.compiled maxDepth versionId) := by
  obtain ⟨houtcome, hready, hstore, hcurrent⟩ := hcompiles
  rcases hperform : world.perform agent operation with ⟨outcome, later, after⟩
  rw [hperform] at houtcome hready hstore hcurrent
  obtain rfl : outcome = _ := houtcome
  cases hcompiled : world.store.compiled maxDepth versionId with
  | error failure =>
    rw [hcompiled] at hperform
    constructor <;> rw [perform_bind, hperform] <;> assumption
  | ok artifact =>
    rw [hcompiled] at hperform
    by_cases hpublished : artifact.version.status = .published
    · have hkept := hcurrent.keep hcompiled hpublished
      have hwhole : world.perform agent (do
            let artifact ← operation
            if artifact.version.status = .published then Operation.keep artifact
            return artifact) = (.ok artifact, later, after.keep artifact) := by
        rw [perform_bind_ok hperform, if_pos hpublished]
        rfl
      constructor <;> rw [hwhole] <;> assumption
    · have hwhole : world.perform agent (do
            let artifact ← operation
            if artifact.version.status = .published then Operation.keep artifact
            return artifact) = (.ok artifact, later, after) := by
        rw [perform_bind_ok hperform, if_neg hpublished]
        rfl
      constructor <;> rw [hwhole] <;> assumption

/-- What is kept for the version that was just read is as good as compiling it. -/
theorem compiles_compileOrFetch (hready : world.IsReady)
    (hcurrent : agent.IsCurrent settings.maxDepth world.store)
    (hversion : world.store.version? version.id = .ok (some version)) :
    world.Compiles agent settings.maxDepth (Operation.compileOrFetch settings version)
      (world.store.compiled settings.maxDepth version.id) := by
  rw [Operation.compileOrFetch]
  by_cases hkeeps : (settings.keepsPublished && version.status == .published) = true
  · simp only [hkeeps, if_true]
    rw [Bool.and_eq_true, beq_iff_eq] at hkeeps
    have hfetch : world.Yields agent (Operation.fetch version.id) (.ok (agent.fetch version.id)) :=
      perform_fetch version.id
    cases hkept : agent.fetch version.id with
    | some artifact =>
      obtain ⟨row, hrow, -, hcompiled⟩ := hcurrent version.id artifact hkept
      obtain ⟨other, hother, hread⟩ := Store.version?_eq_some hversion
      cases hrow.symm.trans hother
      have hstatus := (VersionRow.eq_of_toVersion hread).2.2.2
      rw [hcompiled (hstatus.symm.trans hkeeps.2)]
      rw [hkept] at hfetch
      exact (hfetch.bind_ok (yields_pure artifact)).compiles hready hcurrent
    | none =>
      rw [hkept] at hfetch
      have hkeep := (compiles_compileAndRecord hready hcurrent version).keep
      exact hfetch.compiles_bind_ok hkeep
  · simp only [hkeeps]
    exact compiles_compileAndRecord hready hcurrent version

theorem version?_of_compiled {store : Store} {versionId : String} {artifact : Artifact}
    (hcompiled : store.compiled maxDepth versionId = .ok artifact) :
    store.version? artifact.version.id = .ok (some artifact.version) := by
  obtain ⟨version, blueprint, content, hversion, -, -, rfl⟩ := Store.compiled_eq_ok hcompiled
  obtain rfl := Store.id_of_version? hversion
  exact hversion

theorem compiles_compileBlueprint (hready : world.IsReady)
    (hsingle : ∀ versionId, world.store.IsSingle versionId)
    (hcurrent : agent.IsCurrent settings.maxDepth world.store) (blueprintId : String)
    (versionId : Option String) :
    ∃ outcome, world.Compiles agent settings.maxDepth
        (Operation.compileBlueprint settings blueprintId versionId) outcome ∧
      world.Yields agent (Operation.compileBlueprintAnew settings blueprintId versionId) outcome ∧
      ∀ artifact, outcome = .ok artifact →
        world.store.version? artifact.version.id = .ok (some artifact.version) := by
  have hchosen := @yields_chooseVersion world agent hready.serving blueprintId versionId
  refine ⟨world.store.chooseVersion blueprintId versionId >>= fun version =>
    world.store.compiled settings.maxDepth version.id, ?_, ?_, ?_⟩
  · exact hchosen.compiles_bind hready hcurrent fun version hversion =>
      compiles_compileOrFetch hready hcurrent (Store.version?_of_chooseVersion hsingle hversion)
  · exact hchosen.bind fun version _ => yields_compile hready.serving _ _ _
  · intro artifact houtcome
    obtain ⟨_, -, hcompiled⟩ := Outcome.bind_eq_ok.mp houtcome
    exact version?_of_compiled hcompiled

theorem compiles_compileVersion (hready : world.IsReady)
    (hcurrent : agent.IsCurrent settings.maxDepth world.store) (versionId : String) :
    ∃ outcome, world.Compiles agent settings.maxDepth
        (Operation.compileVersion settings versionId) outcome ∧
      world.Yields agent (Operation.compileVersionAnew settings versionId) outcome ∧
      ∀ artifact, outcome = .ok artifact →
        world.store.version? artifact.version.id = .ok (some artifact.version) := by
  have hchosen := @yields_getVersion world agent hready.serving versionId
  refine ⟨world.store.readVersion versionId >>= fun version =>
    world.store.compiled settings.maxDepth version.id, ?_, ?_, ?_⟩
  · refine hchosen.compiles_bind hready hcurrent fun version hversion => ?_
    have hread := Store.readVersion_eq_ok.mp hversion
    exact compiles_compileOrFetch hready hcurrent (by rwa [Store.id_of_version? hread])
  · exact hchosen.bind fun version _ => yields_compile hready.serving _ _ _
  · intro artifact houtcome
    obtain ⟨_, -, hcompiled⟩ := Outcome.bind_eq_ok.mp houtcome
    exact version?_of_compiled hcompiled

end World

end KnowledgeSchema
