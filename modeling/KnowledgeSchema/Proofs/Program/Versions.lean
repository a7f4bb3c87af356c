import KnowledgeSchema.Proofs.Compiling.Outcome

/-!
# Versions created alone

With nobody else at work the number that is claimed is free. So the first attempt to insert a version
decides, and one that fails has left everything as it was.
-/

namespace KnowledgeSchema

def Store.readBlueprint (store : Store) (blueprintId : String) : Except Failure Blueprint := do
  let some blueprint ← store.blueprint? blueprintId | throw (.blueprintNotFound blueprintId)
  return blueprint

def Store.readVersion (store : Store) (versionId : String) : Except Failure Version := do
  let some version ← store.version? versionId | throw (.versionNotFound versionId)
  return version

/-- One more than the highest number, or one. -/
def Store.nextNumber (store : Store) (blueprintId : String) : Int64 :=
  match store.maxNumber? blueprintId with
  | some number => number + 1
  | none => 1

/-- A version with the next number of its blueprint. -/
def Store.numbered (store : Store) (version : Version) : Version :=
  { version with number := store.nextNumber version.blueprintId }

/-- What inserting a version alone or with its definitions writes. -/
def Version.writes (version : Version) (set? : Option DefinitionSet) : List Write :=
  .version version :: (set?.toList.flatMap DefinitionSet.definitions).map .definition

theorem Store.readVersion_eq_ok {store : Store} {versionId : String} {version : Version} :
    store.readVersion versionId = .ok version ↔ store.version? versionId = .ok (some version) := by
  rw [readVersion]
  cases store.version? versionId with
  | error failure => exact ⟨fun h => (nomatch h), fun h => (nomatch h)⟩
  | ok version? =>
    cases version? with
    | none => exact ⟨fun h => (nomatch h), fun h => (nomatch h)⟩
    | some other =>
      constructor
      · intro h
        cases h
        rfl
      · intro h
        cases h
        rfl

namespace World

variable {world : World} {agent : Agent}

theorem yields_getBlueprint (hserving : world.IsServing) (blueprintId : String) :
    world.Yields agent (Operation.getBlueprint blueprintId)
      (world.store.readBlueprint blueprintId) := by
  refine (yields_callWithin hserving rfl).bind fun blueprint? _ => ?_
  cases blueprint? with
  | none => exact yields_throw _
  | some blueprint => exact yields_pure _

theorem yields_getVersion (hserving : world.IsServing) (versionId : String) :
    world.Yields agent (Operation.getVersion versionId) (world.store.readVersion versionId) := by
  refine (yields_callWithin hserving rfl).bind fun version? _ => ?_
  cases version? with
  | none => exact yields_throw _
  | some version => exact yields_pure _

theorem yields_nextNumber (hserving : world.IsServing) (blueprintId : String) :
    world.Yields agent (Operation.nextNumber blueprintId)
      (.ok (world.store.nextNumber blueprintId)) := by
  refine (yields_callWithin hserving rfl).bind_ok ?_
  rw [Store.nextNumber]
  cases world.store.maxNumber? blueprintId with
  | none => exact yields_pure _
  | some number => exact yields_pure _

theorem perform_tryInsert (hserving : world.IsServing) (version : Version)
    (set? : Option DefinitionSet) :
    world.perform agent (Operation.tryInsert version set?) =
      (.ok (world.store.commit (version.writes set?)).1,
        { world with store := (world.store.commit (version.writes set?)).2 }, agent) := by
  cases set? with
  | none => exact perform_attempt hserving (.insertVersion version)
  | some set =>
    have hwrites : version.writes (some set) = (Store.Call.insertVersionWith version set).writes := by
      simp [Version.writes, Store.Call.writes]
    rw [hwrites]
    exact perform_attempt hserving (.insertVersionWith version set)

/-- Other failures than a number that is taken are not tried again. -/
theorem perform_claimNumber_succ (hserving : world.IsServing) (version : Version)
    (forkedFrom : Option String) (set? : Option DefinitionSet) (attempts : Nat) (conflict : Failure) :
    world.perform agent
        (Operation.claimNumber version forkedFrom set? (attempts + 1) conflict) =
      match world.store.writeAll ((world.store.numbered version).writes set?) with
      | .ok store =>
        (.ok (world.store.numbered version), ({ world with store } : World).now.2,
          agent.record (.versionCreated version.blueprintId version.id
            (world.store.nextNumber version.blueprintId) forkedFrom (world.clock world.ticks)))
      | .error (.versionConflict blueprintId number) =>
        world.perform agent (Operation.claimNumber (world.store.numbered version) forkedFrom set?
          attempts (.versionConflict blueprintId number))
      | .error failure => (.error failure, world, agent) := by
  refine (perform_bind_ok (yields_nextNumber hserving _)).trans ?_
  refine (perform_bind_ok (perform_tryInsert hserving (world.store.numbered version) set?)).trans ?_
  rw [Store.commit]
  cases world.store.writeAll ((world.store.numbered version).writes set?) with
  | ok store => rfl
  | error failure => cases failure <;> rfl

/-- A refused insertion is refused again, for the same reason, until the attempts are used up. -/
theorem perform_claimNumber (hserving : world.IsServing) (version : Version)
    (forkedFrom : Option String) (set? : Option DefinitionSet) (attempts : Nat) (conflict : Failure) :
    world.perform agent
        (Operation.claimNumber version forkedFrom set? (attempts + 1) conflict) =
      match world.store.writeAll ((world.store.numbered version).writes set?) with
      | .ok store =>
        (.ok (world.store.numbered version), ({ world with store } : World).now.2,
          agent.record (.versionCreated version.blueprintId version.id
            (world.store.nextNumber version.blueprintId) forkedFrom (world.clock world.ticks)))
      | .error failure => (.error failure, world, agent) := by
  have hnumbered : world.store.numbered (world.store.numbered version) =
      world.store.numbered version := rfl
  induction attempts generalizing version conflict with
  | zero =>
    rw [perform_claimNumber_succ hserving]
    cases world.store.writeAll ((world.store.numbered version).writes set?) with
    | ok store => rfl
    | error failure => cases failure <;> rfl
  | succ attempts ih =>
    rw [perform_claimNumber_succ hserving]
    have hagain := fun conflict => ih (world.store.numbered version) conflict hnumbered
    rw [hnumbered] at hagain
    cases hwrite : world.store.writeAll ((world.store.numbered version).writes set?) with
    | ok store => rfl
    | error failure =>
      rw [hwrite] at hagain
      cases failure with
      | versionConflict blueprintId number => exact hagain _
      | _ => rfl

/-- A version is not created, and nothing has changed, or it has the next number of its blueprint. -/
theorem perform_createVersion (hserving : world.IsServing) (version : Version)
    (forkedFrom : Option String) (set? : Option DefinitionSet) :
    (∃ failure, world.perform agent (Operation.createVersion version forkedFrom set?) =
        (.error failure, world, agent)) ∨
      ∃ store blueprint, world.store.writeAll ((world.store.numbered version).writes set?) = .ok store ∧
        world.store.blueprint? version.blueprintId = .ok (some blueprint) ∧
        world.perform agent (Operation.createVersion version forkedFrom set?) =
          (.ok (world.store.numbered version), ({ world with store } : World).now.2,
            agent.record (.versionCreated version.blueprintId version.id
              (world.store.nextNumber version.blueprintId) forkedFrom
              (world.clock world.ticks))) := by
  have hblueprint : world.Yields agent (Operation.call (.getBlueprint version.blueprintId))
      (world.store.blueprint? version.blueprintId) := yields_callWithin hserving rfl
  rw [Operation.createVersion, perform_bind, hblueprint]
  cases world.store.blueprint? version.blueprintId with
  | error failure => exact Or.inl ⟨failure, rfl⟩
  | ok blueprint? =>
    cases blueprint? with
    | none => exact Or.inl ⟨_, rfl⟩
    | some blueprint =>
      have hclaim := @perform_claimNumber world agent hserving version forkedFrom set? 4
        (.other (.noNumber version.blueprintId))
      cases hwrite : world.store.writeAll ((world.store.numbered version).writes set?) with
      | error failure =>
        rw [hwrite] at hclaim
        exact Or.inl ⟨failure, hclaim⟩
      | ok store =>
        rw [hwrite] at hclaim
        exact Or.inr ⟨store, blueprint, rfl, rfl, hclaim⟩

/-- What a fork that succeeds has read and written. -/
theorem perform_forkDraft (hserving : world.IsServing) {sourceId : String} {fork : Version}
    {later : World} {after : Agent}
    (hfork : world.perform agent (Operation.forkDraft sourceId) = (.ok fork, later, after)) :
    ∃ source blueprint content store, world.store.version? sourceId = .ok (some source) ∧
      world.store.blueprint? source.blueprintId = .ok (some blueprint) ∧
      world.store.content sourceId = .ok content ∧
      fork = world.store.numbered (.draft (world.ids world.idsTaken) source.blueprintId 0
        (world.clock world.ticks)) ∧
      world.store.writeAll (fork.writes (some (content.copy
        (fun position => world.ids (world.idsTaken + 1 + position)) fork.id))) = .ok store ∧
      later = { world with
        store, idsTaken := world.idsTaken + 1 + content.idCount, ticks := world.ticks + 1 + 1 } := by
  have hversion : world.Yields agent (Operation.call (.getVersion sourceId))
      (world.store.version? sourceId) := yields_callWithin hserving rfl
  rw [Operation.forkDraft, perform_bind, hversion] at hfork
  cases hsource : world.store.version? sourceId with
  | error failure =>
    rw [hsource] at hfork
    cases hfork
  | ok version? =>
    rw [hsource] at hfork
    cases version? with
    | none => cases hfork
    | some source =>
      let started : World := { world with idsTaken := world.idsTaken + 1, ticks := world.ticks + 1 }
      have hstarted : started.IsServing :=
        ⟨hserving.undisturbed, hserving.isOpen, hserving.isWritable⟩
      change started.perform agent (Operation.readContent none source.id >>= _) = _ at hfork
      rw [perform_bind, yields_readContent hstarted none source.id] at hfork
      cases hcontent : started.store.content source.id with
      | error failure =>
        rw [hcontent] at hfork
        cases hfork
      | ok content =>
        rw [hcontent] at hfork
        let prepared : World := { started with idsTaken := started.idsTaken + content.idCount }
        have hprepared : prepared.IsServing :=
          ⟨hserving.undisturbed, hserving.isOpen, hserving.isWritable⟩
        change prepared.perform agent (Operation.createVersion _ _ _) = _ at hfork
        rcases @perform_createVersion prepared agent hprepared
          (.draft (world.ids world.idsTaken) source.blueprintId 0 (world.clock world.ticks))
          (some source.id) (some (content.copy
            (fun position => world.ids (world.idsTaken + 1 + position)) (world.ids world.idsTaken)))
          with ⟨failure, hfailed⟩ | ⟨store, blueprint, hwrite, hblueprint, hcreated⟩
        · cases hfailed.symm.trans hfork
        · cases hcreated.symm.trans hfork
          exact ⟨source, blueprint, content, store, rfl, hblueprint,
            Store.id_of_version? hsource ▸ hcontent, rfl, hwrite, rfl⟩

end World

end KnowledgeSchema
