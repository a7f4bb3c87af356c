import KnowledgeSchema.Cli.Desk
import KnowledgeSchema.Proofs.Caching.Currency
import KnowledgeSchema.Proofs.Concurrent.Requests

/-!
# The artifact of a blueprint

A blueprint is compiled from the version asked for, if it is one of its own, and else from the one
that is chosen among its versions. What comes of it is a function of the store.
-/

namespace KnowledgeSchema

/-! ### What a store has to say -/

namespace Store

/-- Fails unless a version is one of a blueprint. -/
def ensureVersionOf (store : Store) (blueprintId versionId : String) : Except Failure Unit := do
  let version ← store.readVersion versionId
  if version.blueprintId ≠ blueprintId then
    throw (.invalidInput (.foreignVersion versionId version.blueprintId blueprintId))

/-- The artifact of a blueprint, from the version asked for if there is one. -/
def compiledOf (store : Store) (maxDepth : UInt64) (blueprintId : String)
    (versionId : Option String) : Except Failure Artifact := do
  if let some versionId := versionId then store.ensureVersionOf blueprintId versionId
  let version ← store.chooseVersion blueprintId versionId
  store.compiled maxDepth version.id

/-- Whether an artifact may be printed for a blueprint: by its own account it is one of the blueprint,
and it was made from the version asked for, or else from the latest one. -/
structure MayPrint (store : Store) (blueprintId : String) (versionId : Option String)
    (artifact : Artifact) : Prop where
  blueprint : ((Artifact.codec.encode artifact).member? "meta").bind (·.member? "id") =
    some (.str blueprintId)
  owner : ((Artifact.codec.encode artifact).member? "version").bind (·.member? "blueprint_id") =
    some (.str blueprintId)
  stored : store.version? artifact.version.id = .ok (some artifact.version)
  asked : ∀ asked, versionId = some asked → artifact.version.id = asked
  latest : versionId = none →
    ∃ row, store.IsLatest blueprintId row ∧ row.toVersion = .ok artifact.version

variable {store : Store} {blueprintId versionId : String} {maxDepth : UInt64}

theorem id_of_blueprint? {blueprint : Blueprint}
    (hblueprint : store.blueprint? blueprintId = .ok (some blueprint)) :
    blueprint.id = blueprintId := by
  unfold blueprint? at hblueprint
  cases hrow : store.blueprints.find? (·.id == blueprintId) with
  | none =>
    rw [hrow] at hblueprint
    cases hblueprint
  | some row =>
    rw [hrow, Option.mapM_some] at hblueprint
    obtain ⟨found, hread, hfound⟩ := Outcome.map_eq_ok.mp hblueprint
    cases hfound
    obtain ⟨tags, -, hread⟩ := Outcome.bind_eq_ok.mp hread
    obtain ⟨created, -, hread⟩ := Outcome.bind_eq_ok.mp hread
    obtain ⟨updated, -, hread⟩ := Outcome.bind_eq_ok.mp hread
    cases hread
    simpa using List.find?_some hrow

theorem ensureVersionOf_eq_ok (hensured : store.ensureVersionOf blueprintId versionId = .ok ()) :
    ∃ version, store.version? versionId = .ok (some version) ∧ version.blueprintId = blueprintId := by
  obtain ⟨version, hversion, howner⟩ := Outcome.bind_eq_ok.mp hensured
  refine ⟨version, readVersion_eq_ok.mp hversion, ?_⟩
  by_contra hforeign
  rw [if_pos hforeign] at howner
  cases howner

/-- What is chosen for a blueprint is one of its versions. -/
theorem owner_of_compiledOf {asked : Option String} {artifact : Artifact}
    (hartifact : store.compiledOf maxDepth blueprintId asked = .ok artifact) :
    ∃ version, store.chooseVersion blueprintId asked = .ok version ∧
      version.blueprintId = blueprintId ∧ store.compiled maxDepth version.id = .ok artifact := by
  cases asked with
  | none =>
    obtain ⟨version, hchosen, hcompiled⟩ := Outcome.bind_eq_ok.mp hartifact
    obtain ⟨row, hlatest, hread⟩ := isLatest_of_chooseVersion hchosen
    have howner := (VersionRow.eq_of_toVersion hread).2.1
    exact ⟨version, hchosen, howner.trans hlatest.owned, hcompiled⟩
  | some versionId =>
    obtain ⟨_, hensured, hrest⟩ := Outcome.bind_eq_ok.mp hartifact
    obtain ⟨version, hversion, howner⟩ := ensureVersionOf_eq_ok hensured
    obtain ⟨chosen, hchosen, hcompiled⟩ := Outcome.bind_eq_ok.mp hrest
    cases (readVersion_eq_ok.mp hchosen).symm.trans hversion
    exact ⟨version, hchosen, howner, hcompiled⟩

theorem mayPrint_of_compiledOf (hsingle : ∀ versionId, store.IsSingle versionId)
    {asked : Option String} {artifact : Artifact}
    (hartifact : store.compiledOf maxDepth blueprintId asked = .ok artifact) :
    store.MayPrint blueprintId asked artifact := by
  obtain ⟨chosen, hchosen, howner, hcompiled⟩ := owner_of_compiledOf hartifact
  have hchosenRead := version?_of_chooseVersion hsingle hchosen
  obtain ⟨version, blueprint, content, hversion, hblueprint, -, rfl⟩ := compiled_eq_ok hcompiled
  cases hchosenRead.symm.trans hversion
  rw [howner] at hblueprint
  constructor
  case blueprint =>
    rw [← id_of_blueprint? hblueprint]
    rfl
  case owner =>
    rw [← howner]
    rfl
  case stored => exact hchosenRead
  case asked =>
    rintro versionId rfl
    exact id_of_version? (readVersion_eq_ok.mp hchosen)
  case latest =>
    rintro rfl
    exact isLatest_of_chooseVersion hchosen

/-! ### What is refused -/

theorem compiledOf_of_none (hnone : ∀ row ∈ store.versions, row.blueprintId ≠ blueprintId) :
    store.compiledOf maxDepth blueprintId none =
      (store.blueprint? blueprintId >>= fun
        | none => .error (.blueprintNotFound blueprintId)
        | some _ => .error (.noVersions blueprintId)) := by
  change store.chooseVersion blueprintId none >>= _ = _
  rw [chooseVersion_of_none hnone]
  cases store.blueprint? blueprintId with
  | error failure => rfl
  | ok blueprint? => cases blueprint? <;> rfl

theorem blueprint?_of_hasBlueprint (hnone : store.hasBlueprint blueprintId = false) :
    store.blueprint? blueprintId = .ok none := by
  have hrow : store.blueprints.find? (·.id == blueprintId) = none := by
    simpa [hasBlueprint] using hnone
  rw [blueprint?, hrow]
  rfl

theorem readVersion_of_hasVersion (hnone : store.hasVersion versionId = false) :
    store.readVersion versionId = .error (.versionNotFound versionId) := by
  have hrow : store.versions.find? (·.id == versionId) = none := by
    simpa [hasVersion] using hnone
  rw [readVersion, version?, hrow]
  rfl

theorem readVersion_of_error {failure : Failure} (herror : store.version? versionId = .error failure) :
    store.readVersion versionId = .error failure := by
  rw [readVersion, herror]
  rfl

theorem ensureVersionOf_of_foreign {version : Version}
    (hversion : store.version? versionId = .ok (some version))
    (hforeign : version.blueprintId ≠ blueprintId) :
    store.ensureVersionOf blueprintId versionId =
      .error (.invalidInput (.foreignVersion versionId version.blueprintId blueprintId)) := by
  rw [ensureVersionOf, readVersion_eq_ok.mpr hversion]
  exact if_pos hforeign

theorem compiledOf_of_error {failure : Failure}
    (herror : store.ensureVersionOf blueprintId versionId = .error failure) :
    store.compiledOf maxDepth blueprintId (some versionId) = .error failure := by
  change store.ensureVersionOf blueprintId versionId >>= _ = _
  rw [herror]
  rfl

end Store

/-! ### What the operation comes to -/

namespace World

variable {world : World} {agent : Agent}

theorem yields_ensureVersionOf (hserving : world.IsServing) (blueprintId versionId : String) :
    world.Yields agent (Operation.ensureVersionOf blueprintId versionId)
      (world.store.ensureVersionOf blueprintId versionId) := by
  refine (yields_getVersion hserving versionId).bind fun version _ => ?_
  by_cases hforeign : version.blueprintId ≠ blueprintId
  · rw [if_pos hforeign, if_pos hforeign]
    exact yields_throw _
  · rw [if_neg hforeign, if_neg hforeign]
    exact yields_pure _

/-- Whoever keeps nothing compiles. -/
theorem outcome_compileOrFetch (hserving : world.IsServing) (hkept : agent.kept = [])
    (settings : CompilerSettings) (version : Version) :
    (world.perform agent (Operation.compileOrFetch settings version)).1 =
      world.store.compiled settings.maxDepth version.id := by
  have hcompiled := @perform_compileAndRecord world agent hserving settings version
  have hfetch : agent.fetch version.id = none := by
    rw [Agent.fetch, hkept]
    rfl
  unfold Operation.compileOrFetch
  split_ifs
  · rw [perform_bind, perform_fetch, hfetch]
    change (world.perform agent (Operation.compileAndRecord settings version >>= _)).1 = _
    rw [perform_bind, hcompiled]
    cases world.store.compiled settings.maxDepth version.id with
    | error failure => rfl
    | ok artifact =>
      dsimp only
      split_ifs <;> rfl
  · rw [hcompiled]
    cases world.store.compiled settings.maxDepth version.id <;> rfl

theorem outcome_compileBlueprint (hserving : world.IsServing) (hkept : agent.kept = [])
    (settings : CompilerSettings) (blueprintId : String) (versionId : Option String) :
    (world.perform agent (Operation.compileBlueprint settings blueprintId versionId)).1 =
      world.store.chooseVersion blueprintId versionId >>= fun version =>
        world.store.compiled settings.maxDepth version.id := by
  have hchosen := @yields_chooseVersion world agent hserving blueprintId versionId
  rw [Operation.compileBlueprint, perform_bind, hchosen]
  cases world.store.chooseVersion blueprintId versionId with
  | error failure => rfl
  | ok version => exact outcome_compileOrFetch hserving hkept settings version

theorem outcome_compileOf (hserving : world.IsServing) (hkept : agent.kept = [])
    (settings : CompilerSettings) (blueprintId : String) (versionId : Option String) :
    (world.perform agent (Operation.compileOf settings blueprintId versionId)).1 =
      world.store.compiledOf settings.maxDepth blueprintId versionId := by
  cases versionId with
  | none => exact outcome_compileBlueprint hserving hkept settings blueprintId none
  | some versionId =>
    have hensured := @yields_ensureVersionOf world agent hserving blueprintId versionId
    change (world.perform agent (Operation.ensureVersionOf blueprintId versionId >>= fun _ =>
      Operation.compileBlueprint settings blueprintId (some versionId))).1 =
        world.store.ensureVersionOf blueprintId versionId >>= _
    rw [perform_bind, hensured]
    cases world.store.ensureVersionOf blueprintId versionId with
    | error failure => rfl
    | ok _ => exact outcome_compileBlueprint hserving hkept settings blueprintId (some versionId)

end World

namespace Operation

theorem quiet_compileOf (settings : CompilerSettings) (blueprintId : String)
    (versionId : Option String) :
    Every Request.IsQuiet (compileOf settings blueprintId versionId) := by
  have hcompile : Every Request.IsQuiet (compileBlueprint settings blueprintId versionId) :=
    (query_chooseVersion blueprintId versionId).isQuiet.bind fun version =>
      quiet_compileOrFetch settings version
  cases versionId with
  | none => exact hcompile
  | some versionId =>
    have hensured : Every Request.IsQuiet (ensureVersionOf blueprintId versionId) :=
      (query_getVersion versionId).isQuiet.bind fun version =>
        every_ite (every_throw _) (every_pure _)
    exact hensured.bind fun _ => hcompile

end Operation

end KnowledgeSchema
