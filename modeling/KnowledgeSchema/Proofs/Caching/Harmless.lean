import KnowledgeSchema.Proofs.Caching.Evolution
import KnowledgeSchema.Proofs.Lifecycle.Row
import KnowledgeSchema.Proofs.Program.Versions

/-!
# Operations that spare public versions

Every operation that writes leaves public versions as they are but for their statuses, and makes no
agent remember an artifact: a draft is the only version that is written into, and all else is
written under ids that are new.
-/

namespace KnowledgeSchema

/-- A store that serves, and no id still to be given out is one of a definition or a blueprint. -/
structure World.IsReady (world : World) : Prop where
  serving : world.IsServing
  distinct : Function.Injective world.ids
  definitions : ∀ place, world.idsTaken ≤ place → world.ids place ∉ world.store.definitionIds
  blueprints : ∀ place, world.idsTaken ≤ place → world.store.hasBlueprint (world.ids place) = false

namespace World

variable {α β : Type} {world later : World} {agent after : Agent}

/-- A world and an agent after a harmless operation. -/
structure Spares (world : World) (agent : Agent) (later : World) (after : Agent) : Prop where
  ready : later.IsReady
  respects : world.store.Respects later.store
  remembered : ∀ versionId artifact, after.fetch versionId = some artifact →
    agent.fetch versionId = some artifact

def Harmless (world : World) (agent : Agent) (operation : Operation α) : Prop :=
  world.Spares agent (world.perform agent operation).2.1 (world.perform agent operation).2.2

theorem IsReady.spares (hready : world.IsReady) (agent : Agent) : world.Spares agent world agent :=
  ⟨hready, .refl _, fun _ _ hfetch => hfetch⟩

theorem Harmless.bind {operation : Operation α} {next : α → Operation β}
    (hfirst : world.Harmless agent operation)
    (hnext : ∀ value later after, world.perform agent operation = (.ok value, later, after) →
      later.IsReady → later.Harmless after (next value)) :
    world.Harmless agent (operation >>= next) := by
  rw [Harmless, perform_bind]
  rw [Harmless] at hfirst
  rcases hperform : world.perform agent operation with ⟨outcome, later, after⟩
  rw [hperform] at hfirst
  cases outcome with
  | error failure => exact hfirst
  | ok value =>
    have hsecond := hnext value later after hperform hfirst.ready
    exact ⟨hsecond.ready, hfirst.respects.trans hsecond.respects, fun versionId artifact hfetch =>
      hfirst.remembered _ _ (hsecond.remembered _ _ hfetch)⟩

theorem Harmless.map {operation : Operation α} (hharmless : world.Harmless agent operation)
    (f : α → β) : world.Harmless agent (f <$> operation) := by
  rw [Harmless, perform_map]
  exact hharmless

theorem Yields.harmless {operation : Operation α} {outcome : Except Failure α}
    (hyields : world.Yields agent operation outcome) (hready : world.IsReady) :
    world.Harmless agent operation := by
  rw [Harmless, hyields]
  exact hready.spares agent

/-- An operation that begins with reading. -/
theorem Yields.harmless_bind {operation : Operation α} {outcome : Except Failure α}
    {next : α → Operation β} (hyields : world.Yields agent operation outcome)
    (hready : world.IsReady)
    (hnext : ∀ value, outcome = .ok value → world.Harmless agent (next value)) :
    world.Harmless agent (operation >>= next) := by
  refine (hyields.harmless hready).bind fun value later after hperform _ => ?_
  cases hyields.symm.trans hperform
  exact hnext value rfl

/-! ### Single requests -/

theorem IsReady.now (hready : world.IsReady) : world.now.2.IsReady :=
  ⟨⟨hready.serving.undisturbed, hready.serving.isOpen, hready.serving.isWritable⟩, hready.distinct,
    hready.definitions, hready.blueprints⟩

theorem harmless_now (hready : world.IsReady) : world.Harmless agent Operation.now :=
  ⟨hready.now, .refl _, fun _ _ hfetch => hfetch⟩

theorem harmless_record (hready : world.IsReady) (event : Event) :
    world.Harmless agent (Operation.record event) :=
  ⟨hready, .refl _, fun _ _ hfetch => hfetch⟩

theorem harmless_freshIds (hready : world.IsReady) (count : Nat) :
    world.Harmless agent (Operation.freshIds count) := by
  refine ⟨⟨⟨hready.serving.undisturbed, hready.serving.isOpen, hready.serving.isWritable⟩,
    hready.distinct, fun place hplace => ?_, fun place hplace => ?_⟩, .refl _,
    fun _ _ hfetch => hfetch⟩
  · exact hready.definitions place (Nat.le_of_add_right_le hplace)
  · exact hready.blueprints place (Nat.le_of_add_right_le hplace)

theorem harmless_freshId (hready : world.IsReady) : world.Harmless agent Operation.freshId :=
  (harmless_freshIds hready 1).bind fun _ _ _ _ hlater => (yields_pure _).harmless hlater

theorem lookup_filter_bne {kept : List (String × Artifact)} {versionId other : String}
    {artifact : Artifact} (hfound : (kept.filter (·.1 != versionId)).lookup other = some artifact) :
    kept.lookup other = some artifact := by
  induction kept with
  | nil => cases hfound
  | cons entry rest ih =>
    obtain ⟨key, found⟩ := entry
    by_cases hkey : key = versionId
    · rw [List.filter_cons_of_neg (by simpa using hkey)] at hfound
      -- What was dropped is not what is asked for, because that is still there.
      by_cases hother : other = key
      · subst hother hkey
        have hdropped : (rest.filter (·.1 != other)).lookup other = none := by
          rw [List.lookup_eq_none_iff]
          intro each heach
          simpa [bne_comm] using (List.mem_filter.mp heach).2
        cases hdropped.symm.trans hfound
      · rw [List.lookup_cons, beq_false_of_ne hother]
        exact ih hfound
    · rw [List.filter_cons_of_pos (by simpa using hkey), List.lookup_cons] at hfound
      rw [List.lookup_cons]
      cases hother : other == key with
      | true =>
        rw [hother] at hfound
        exact hfound
      | false =>
        rw [hother] at hfound
        exact ih hfound

theorem harmless_evict (hready : world.IsReady) (versionId : String) :
    world.Harmless agent (Operation.evict versionId) :=
  ⟨hready, .refl _, fun _ _ hfetch => lookup_filter_bne hfetch⟩

/-! ### Writes -/

/-- What is written under ids that were given out leaves the others unused. -/
theorem IsReady.write (hready : world.IsReady) {store : Store} (taken : List String)
    (htaken : ∀ place, world.idsTaken ≤ place → world.ids place ∉ taken)
    (hdefinitions : ∀ id ∈ store.definitionIds, id ∈ world.store.definitionIds ∨ id ∈ taken)
    (hblueprints : ∀ id, store.hasBlueprint id = true →
      world.store.hasBlueprint id = true ∨ id ∈ taken) :
    ({ world with store } : World).IsReady where
  serving := ⟨hready.serving.undisturbed, hready.serving.isOpen, hready.serving.isWritable⟩
  distinct := hready.distinct
  definitions place hplace hid :=
    (hdefinitions _ hid).elim (hready.definitions place hplace) (htaken place hplace)
  blueprints place hplace := by
    rw [Bool.eq_false_iff]
    intro hid
    rcases hblueprints _ hid with hold | hnew
    · rw [hready.blueprints place hplace] at hold
      cases hold
    · exact htaken place hplace hnew

theorem IsReady.not_mem_upTo (hready : world.IsReady) {start count : Nat}
    (htaken : start + count ≤ world.idsTaken) (place : Nat) (hplace : world.idsTaken ≤ place) :
    world.ids place ∉ Ids.upTo (fun position => world.ids (start + position)) count := by
  intro hmem
  obtain ⟨position, hposition, heq⟩ := List.mem_map.mp hmem
  rw [List.mem_range] at hposition
  have hsame := hready.distinct heq
  omega

theorem IsReady.unused_upTo (hready : world.IsReady) {start count : Nat}
    (hstart : world.idsTaken ≤ start) :
    ∀ id ∈ Ids.upTo (fun position => world.ids (start + position)) count,
      id ∉ world.store.definitionIds := by
  intro id hid
  obtain ⟨position, -, rfl⟩ := List.mem_map.mp hid
  exact hready.definitions _ (by omega)

theorem harmless_saveBlueprint (hready : world.IsReady) {blueprint : Blueprint} {position : Nat}
    (hposition : position < world.idsTaken) (hid : blueprint.id = world.ids position)
    (hunused : world.store.hasBlueprint blueprint.id = false) :
    world.Harmless agent (Operation.call (.saveBlueprint blueprint)) := by
  rw [Harmless, perform_call hready.serving]
  have hrows : (world.store.saveBlueprint blueprint).blueprints =
      world.store.blueprints ++ [blueprint.toRow] := Store.blueprints_saveBlueprint hunused
  refine ⟨hready.write [blueprint.id] (fun place hplace => ?_) (fun id hid => Or.inl hid)
    fun id hid => ?_, Store.respects_saveBlueprint hunused, fun _ _ hfetch => hfetch⟩
  · rw [List.mem_singleton, hid]
    intro heq
    have hsame := hready.distinct heq
    omega
  · change (world.store.saveBlueprint blueprint).hasBlueprint id = true at hid
    rw [Store.hasBlueprint, hrows, List.any_append, Bool.or_eq_true] at hid
    refine hid.imp (fun hold => hold) fun hnew => ?_
    obtain ⟨row, hrow, hmatch⟩ := List.any_eq_true.mp hnew
    rw [List.mem_singleton] at hrow
    rw [List.mem_singleton, ← beq_iff_eq.mp hmatch, hrow]
    rfl

theorem harmless_updateStatus (hready : world.IsReady) {id : String} {expected status : Status}
    {publishedAt : Option Timestamp} (hcan : expected.canBecome status = true) :
    world.Harmless agent (Operation.call (.updateStatus id expected status publishedAt)) := by
  rw [Harmless, perform_call hready.serving]
  exact ⟨hready.write [] (fun _ _ => List.not_mem_nil) (fun _ => Or.inl) fun _ => Or.inl,
    Store.respects_updateStatus hcan, fun _ _ hfetch => hfetch⟩

theorem harmless_saveAll (hready : world.IsReady) {set : DefinitionSet} {versionId : String}
    {row : VersionRow} {start count : Nat} (hcount : start + count ≤ world.idsTaken)
    (hunused : ∀ id ∈ Ids.upTo (fun position => world.ids (start + position)) count,
      id ∉ world.store.definitionIds)
    (hwithin : ∀ definition ∈ set.definitions,
      definition.IsWithin (Ids.upTo (fun position => world.ids (start + position)) count) versionId)
    (hrow : world.store.row? versionId = some row) (hdraft : row.status = .draft) :
    world.Harmless agent (Operation.call (.saveAll set)) := by
  rw [Harmless, perform_call hready.serving]
  obtain ⟨hrespects, hblueprints⟩ := Store.respects_saveAll hunused hwithin hrow hdraft
  have hconfined := (Store.isReserved_of_unused versionId hunused).isConfined_saveAll hwithin
  refine ⟨hready.write _ (hready.not_mem_upTo hcount) hconfined.adds.definitionIds fun id hid => ?_,
    hrespects, fun _ _ hfetch => hfetch⟩
  rw [Store.hasBlueprint, hblueprints] at hid
  exact Or.inl hid

/-! ### Operations -/

theorem harmless_createBlueprint (hready : world.IsReady) (name : String)
    (description : Option String) (tags : List String) (isSystem : Bool) :
    world.Harmless agent (Operation.createBlueprint name description tags isSystem) := by
  by_cases hname : (String.ofList (Text.trim name.toList)).isEmpty
  · rw [Operation.createBlueprint]
    simp only [hname, if_true]
    exact ((yields_throw _).harmless hready).bind fun _ _ _ hperform => nomatch hperform
  · rw [Operation.createBlueprint]
    simp only [hname]
    refine (harmless_freshId hready).bind fun id later after hid hlater => ?_
    cases hid
    refine (harmless_now hlater).bind fun time later after htime hlater => ?_
    cases htime
    refine (harmless_saveBlueprint hlater (Nat.lt_succ_self world.idsTaken) rfl
      (hready.blueprints _ (Nat.le_refl _))).bind fun _ later after _ hlater => ?_
    refine (harmless_now hlater).bind fun _ later after _ hlater => ?_
    refine (harmless_record hlater _).bind fun _ later after _ hlater => ?_
    exact (yields_pure _).harmless hlater

theorem harmless_listVersions (hready : world.IsReady) (blueprintId : String) :
    world.Harmless agent (Operation.listVersions blueprintId) := by
  refine (yields_getBlueprint hready.serving blueprintId).harmless_bind hready fun _ _ => ?_
  exact (yields_callWithin hready.serving rfl).harmless hready

theorem harmless_moveTo (hready : world.IsReady) (versionId : String) (next : Status)
    (attempts : Nat) : world.Harmless agent (Operation.moveTo versionId next attempts) := by
  induction attempts generalizing world agent with
  | zero => exact (yields_throw _).harmless hready
  | succ attempts ih =>
    refine (yields_callWithin hready.serving rfl).harmless_bind hready fun version? _ => ?_
    cases version? with
    | none => exact (yields_throw _).harmless hready
    | some version =>
      by_cases hthere : version.status = next
      · simp only [hthere, if_true]
        exact (yields_pure _).harmless hready
      · simp only [hthere, if_false]
        refine (harmless_now hready).bind fun now later after _ hlater => ?_
        have htransition : later.Yields after (liftM (version.transition next now))
            (version.transition next now) := perform_lift _
        refine htransition.harmless_bind hlater fun moved hmoved => ?_
        obtain ⟨hcan, rfl⟩ := Version.transition_eq_ok hmoved
        refine (harmless_updateStatus hlater hcan).bind fun moved later after _ hlater => ?_
        cases moved with
        | false => exact ih hlater
        | true =>
          refine (harmless_now hlater).bind fun _ later after _ hlater => ?_
          refine (harmless_record hlater _).bind fun _ later after _ hlater => ?_
          exact (yields_pure _).harmless hlater

theorem harmless_transitionAndEvict (hready : world.IsReady) (versionId : String) (next : Status) :
    world.Harmless agent (Operation.transitionAndEvict versionId next) := by
  refine (harmless_moveTo hready versionId next _).bind fun version later after _ hlater => ?_
  refine (harmless_evict hlater versionId).bind fun _ later after _ hlater => ?_
  exact (yields_pure version).harmless hlater

theorem harmless_createVersion (hready : world.IsReady) (version : Version)
    (forkedFrom : Option String) {set? : Option DefinitionSet} {start count : Nat}
    (hcount : start + count ≤ world.idsTaken)
    (hunused : ∀ id ∈ Ids.upTo (fun position => world.ids (start + position)) count,
      id ∉ world.store.definitionIds)
    (hwithin : ∀ set ∈ set?, ∀ definition ∈ set.definitions, definition.IsWithin
      (Ids.upTo (fun position => world.ids (start + position)) count) version.id) :
    world.Harmless agent (Operation.createVersion version forkedFrom set?) := by
  rw [Harmless]
  rcases @perform_createVersion world agent hready.serving version forkedFrom set? with
    ⟨failure, hfailed⟩ | ⟨store, -, hwrite, -, hcreated⟩
  · rw [hfailed]
    exact hready.spares agent
  · rw [hcreated]
    have hnumbered : ∀ set ∈ set?, ∀ definition ∈ set.definitions, definition.IsWithin
        (Ids.upTo (fun position => world.ids (start + position)) count)
        (world.store.numbered version).id := hwithin
    obtain ⟨hrespects, hconfined, hblueprints⟩ := Store.respects_writes hunused hnumbered hwrite
    have hwritten : ({ world with store } : World).IsReady :=
      hready.write _ (hready.not_mem_upTo hcount) hconfined.adds.definitionIds fun id hid => by
        rw [Store.hasBlueprint, hblueprints] at hid
        exact Or.inl hid
    exact ⟨hwritten.now, hrespects, fun _ _ hfetch => hfetch⟩

theorem harmless_createDraft (hready : world.IsReady) (blueprintId : String) :
    world.Harmless agent (Operation.createDraft blueprintId) := by
  refine (harmless_freshId hready).bind fun id later after _ hlater => ?_
  refine (harmless_now hlater).bind fun _ later after _ hlater => ?_
  have hnone : 0 + 0 ≤ later.idsTaken := Nat.zero_le _
  refine harmless_createVersion hlater _ none hnone ?_ ?_
  · exact fun _ hid => absurd hid List.not_mem_nil
  · exact fun _ hset => nomatch hset

/-- The copies of a fork take the ids after that of the fork itself. -/
theorem harmless_forkDraft (hready : world.IsReady) (sourceId : String) :
    world.Harmless agent (Operation.forkDraft sourceId) := by
  refine (yields_callWithin hready.serving rfl).harmless_bind hready fun source? _ => ?_
  cases source? with
  | none => exact (yields_throw _).harmless hready
  | some source =>
    refine (harmless_freshId hready).bind fun id later after hid hlater => ?_
    cases hid
    refine (harmless_now hlater).bind fun _ later after htime hlater => ?_
    cases htime
    refine (yields_readContent hlater.serving none source.id).harmless_bind hlater
      fun content _ => ?_
    refine (harmless_freshIds hlater content.idCount).bind fun ids later after hids hlater => ?_
    cases hids
    refine harmless_createVersion hlater _ _ (Nat.le_refl (world.idsTaken + 1 + content.idCount))
      (hready.unused_upTo (Nat.le_succ _)) ?_
    rintro _ ⟨⟩
    exact content.isWithin_copy _ _

/-- An import writes into a version that was read as a draft. -/
theorem harmless_importBundle (hready : world.IsReady) (versionId : String) (bundle : Bundle) :
    world.Harmless agent (Operation.importBundle versionId bundle) := by
  refine (yields_getVersion hready.serving versionId).harmless_bind hready fun version hversion => ?_
  have heditable : world.Yields agent (liftM version.ensureEditable) version.ensureEditable :=
    perform_lift _
  refine heditable.harmless_bind hready fun _ heditable => ?_
  refine (harmless_freshIds hready bundle.idCount).bind fun ids later after hids hlater => ?_
  cases hids
  refine Yields.harmless_bind (perform_lift _) hlater fun set hset => ?_
  obtain ⟨-, rfl⟩ := Bundle.resolve_eq_ok.mp hset
  obtain ⟨row, hrow, hdraft⟩ := Store.row?_of_editable (Store.readVersion_eq_ok.mp hversion) heditable
  refine (harmless_saveAll hlater (Nat.le_refl _) (hready.unused_upTo (Nat.le_refl _))
    (bundle.isWithin_definitions _ _) hrow hdraft).bind fun _ later after _ hlater => ?_
  exact (yields_pure _).harmless hlater

end World

end KnowledgeSchema
