import KnowledgeSchema.Proofs.Concurrent.Pact
import KnowledgeSchema.Proofs.Concurrent.Requests
import KnowledgeSchema.Proofs.Numbering.Sequence

/-!
# Claiming a number among others

A call that creates a version looks for the highest number and inserts its version with the next
one, again while others take that number first. Whatever they do in between, the numbers stay a
sequence, and the call changes the store once if it succeeds and not at all if it fails.

Whatever calls are under way, and in whatever order their requests are carried out, the versions of
a blueprint are numbered from one on without gaps, and each call that creates a version inserts it
once or changes nothing.
-/

namespace KnowledgeSchema

def Command.Creates : Command → Prop
  | createDraft _ => True
  | forkDraft _ => True
  | _ => False

def Exchange.IsStill (e : Exchange) : Prop :=
  e.after.store = e.before.store

def AreStill (own : List Exchange) : Prop :=
  ∀ e ∈ own, e.IsStill

/-- One exchange inserts the version, and the others change nothing. -/
def InsertsOnce (version : Version) (own : List Exchange) : Prop :=
  ∃ earlier e later, own = earlier ++ e :: later ∧ AreStill earlier ∧ AreStill later ∧
    e.after.store.versions = e.before.store.versions ++ [version.toRow]

/-- What a call has done to the store once it is over. -/
def Claimed : Except Failure Version → List Exchange → Prop
  | .ok version => InsertsOnce version
  | .error _ => AreStill

theorem AreStill.concat {own : List Exchange} {e : Exchange} (hown : AreStill own)
    (he : e.IsStill) : AreStill (own ++ [e]) := by
  intro other hother
  rcases List.mem_append.mp hother with hother | hother
  · exact hown other hother
  · exact List.mem_singleton.mp hother ▸ he

theorem InsertsOnce.concat {version : Version} {own : List Exchange} {e : Exchange}
    (hown : InsertsOnce version own) (he : e.IsStill) : InsertsOnce version (own ++ [e]) := by
  obtain ⟨earlier, inserting, later, rfl, hearlier, hlater, hversions⟩ := hown
  exact ⟨earlier, inserting, later ++ [e], by simp, hearlier, hlater.concat he, hversions⟩

/-! ### The pact -/

structure Scene.IsCounted (blueprintId : String) (scene : Scene) : Prop where
  undisturbed : scene.world.IsUndisturbed
  numbered : scene.store.IsNumbered blueprintId
  grown : ∀ e ∈ scene.journal, e.after.store.keys <+: scene.store.keys

def numberingPact (blueprintId : String) : Pact where
  holds := Scene.IsCounted blueprintId
  allows e := e.before.store.keys <+: e.after.store.keys ∧ e.after.store.IsNumbered blueprintId

namespace Scene

variable {blueprintId : String} {scene : Scene} {caller : Caller} {r : Request}

theorem IsCounted.exchange (hcounted : scene.IsCounted blueprintId)
    (hnumbered : (scene.exchange caller r).2.store.IsNumbered blueprintId) :
    (numberingPact blueprintId).allows (scene.next caller r) ∧
      (numberingPact blueprintId).holds (scene.exchange caller r).2 := by
  have hkeys := keys_exchange hcounted.undisturbed caller r
  refine ⟨⟨hkeys, hnumbered⟩, exchange_undisturbed hcounted.undisturbed, hnumbered, ?_⟩
  intro e he
  rw [journal_exchange] at he
  rcases List.mem_append.mp he with he | he
  · exact (hcounted.grown e he).trans hkeys
  · obtain rfl := List.mem_singleton.mp he
    exact List.prefix_rfl

theorem IsCounted.keeps (hcounted : scene.IsCounted blueprintId)
    (hkeys : (scene.exchange caller r).2.store.keys = scene.store.keys) :
    (numberingPact blueprintId).allows (scene.next caller r) ∧
      (numberingPact blueprintId).holds (scene.exchange caller r).2 :=
  hcounted.exchange (hcounted.numbered.congr hkeys)

theorem IsCounted.inserts (hcounted : scene.IsCounted blueprintId) {version : Version}
    (hversions : (scene.exchange caller r).2.store.versions =
      scene.store.versions ++ [version.toRow])
    (hnumber : version.blueprintId = blueprintId →
      version.number.toInt = (scene.store.versionsOf blueprintId).length + 1) :
    (numberingPact blueprintId).allows (scene.next caller r) ∧
      (numberingPact blueprintId).holds (scene.exchange caller r).2 :=
  hcounted.exchange (hcounted.numbered.inserted hversions hnumber)

/-- A call that creates no version leaves the keys of all versions as they are. -/
theorem keys_exchange_of_mayMake (hworld : scene.world.IsUndisturbed)
    (hcommand : ¬caller.command.Creates) (hmay : caller.command.MayMake r) :
    (scene.exchange caller r).2.store.keys = scene.store.keys := by
  rcases hmay with hquiet | hmay
  · rw [store_exchange_of_quiet hworld caller hquiet]
  have hstore : ∀ call limit, r = .store call limit → call.inserted? = none →
      (scene.exchange caller r).2.store.keys = scene.store.keys := by
    rintro call limit rfl hinserted
    rcases exchange_store hworld caller call limit with ⟨-, hafter⟩ | ⟨-, hafter⟩
    · rw [Scene.store, hafter]
      rcases Store.keys_run scene.store call with hkeys | ⟨version, hversion, -⟩
      · exact hkeys
      · rw [hinserted] at hversion
        cases hversion
    · rw [Scene.store, hafter]
  unfold Command.MayChange at hmay
  split at hmay
  next => exact hstore _ _ rfl rfl
  next hcreates =>
    rw [hcreates] at hcommand
    exact absurd trivial hcommand
  next hcreates =>
    rw [hcreates] at hcommand
    exact absurd trivial hcommand
  next => exact hstore _ _ rfl rfl
  next => rfl
  next => exact hstore _ _ rfl rfl
  next => rfl
  next => exact hstore _ _ rfl rfl
  next => exact hmay.elim

theorem IsCounted.mayMake (hcounted : scene.IsCounted blueprintId)
    (hcommand : ¬caller.command.Creates) (hmay : caller.command.MayMake r) :
    (numberingPact blueprintId).allows (scene.next caller r) ∧
      (numberingPact blueprintId).holds (scene.exchange caller r).2 :=
  hcounted.keeps (keys_exchange_of_mayMake hcounted.undisturbed hcommand hmay)

end Scene

/-! ### Programs -/

section Programs

variable {blueprintId : String} {scene : Scene} {caller : Caller} {α : Type}

theorem upholds_claimed {outcome : Except Failure Version}
    (hclaimed : Claimed outcome (scene.ofTask caller.task)) :
    (numberingPact blueprintId).Upholds caller
      (fun outcome scene => Claimed outcome (scene.ofTask caller.task)) (.done outcome) scene :=
  Pact.upholds_done (Pact.stable_ofTask _ _ (Claimed outcome)) hclaimed fun _ _ hlater => hlater

theorem upholds_quietly {operation : Operation α} {next : α → Operation Version}
    (hquiet : operation.Every Request.IsQuiet) (hown : AreStill (scene.ofTask caller.task))
    (hnext : ∀ value scene, AreStill (scene.ofTask caller.task) →
      (numberingPact blueprintId).Upholds caller
        (fun outcome scene => Claimed outcome (scene.ofTask caller.task)) (next value).run scene) :
    (numberingPact blueprintId).Upholds caller
      (fun outcome scene => Claimed outcome (scene.ofTask caller.task)) (operation >>= next).run
      scene := by
  rw [Operation.run_bind]
  refine Pact.Upholds.bind (Pact.upholds_of_every (Pact.stable_ofTask _ _ AreStill) ?_ ?_
    (Operation.every_iff.mp hquiet) hown)
  · intro scene r hcounted hstill hquiet
    have hstore := Scene.store_exchange_of_quiet hcounted.undisturbed caller hquiet
    obtain ⟨hallows, hholds⟩ := hcounted.keeps (congrArg Store.keys hstore)
    refine ⟨hallows, hholds, ?_⟩
    rw [Scene.ofTask_exchange_self]
    exact hstill.concat hstore
  · intro outcome scene _ hstill
    cases outcome with
    | ok value => exact hnext value scene hstill
    | error failure => exact upholds_claimed hstill

theorem upholds_created {version : Version} {event : Timestamp → Event}
    (hevent : ∀ time, (Request.record (event time)).IsQuiet)
    (hown : InsertsOnce version (scene.ofTask caller.task)) :
    (numberingPact blueprintId).Upholds caller
      (fun outcome scene => Claimed outcome (scene.ofTask caller.task))
      (do
        Operation.record (event (← Operation.now))
        return version : Operation Version).run scene := by
  have hquietly : ∀ {r : Request} {scene : Scene}, r.IsQuiet → scene.IsCounted blueprintId →
      InsertsOnce version (scene.ofTask caller.task) →
      ((numberingPact blueprintId).allows (scene.next caller r) ∧
        (numberingPact blueprintId).holds (scene.exchange caller r).2) ∧
        InsertsOnce version ((scene.exchange caller r).2.ofTask caller.task) := by
    intro r scene hquiet hcounted hown
    have hstore := Scene.store_exchange_of_quiet hcounted.undisturbed caller hquiet
    refine ⟨hcounted.keeps (congrArg Store.keys hstore), ?_⟩
    rw [Scene.ofTask_exchange_self]
    exact hown.concat hstore
  rw [Operation.run_now_bind]
  refine Pact.upholds_request (Pact.stable_ofTask _ _ (InsertsOnce version)) hown
    fun scene hcounted hown => ?_
  obtain ⟨⟨hallows, hholds⟩, hown⟩ := hquietly (r := .now) trivial hcounted hown
  refine ⟨hallows, hholds, ?_⟩
  rw [Operation.run_record_bind]
  refine Pact.upholds_request (Pact.stable_ofTask _ _ (InsertsOnce version)) hown
    fun scene hcounted hown => ?_
  obtain ⟨⟨hallows, hholds⟩, hown⟩ := hquietly (hevent _) hcounted hown
  exact ⟨hallows, hholds, upholds_claimed hown⟩

/-- An insertion with a number worked out from a store with so many versions, now or before. -/
theorem upholds_insert {version : Version} {call : Store.Call} {count : Nat}
    {next : Except Failure call.Result → Program (Except Failure Version)}
    (hcall : call.inserted? = some version) (hown : AreStill (scene.ofTask caller.task))
    (hnumber : version.blueprintId = blueprintId → IsNextAfter count version.number)
    (hcount : count ≤ (scene.store.versionsOf blueprintId).length)
    (hsuccess : ∀ result scene, InsertsOnce version (scene.ofTask caller.task) →
      (numberingPact blueprintId).Upholds caller
        (fun outcome scene => Claimed outcome (scene.ofTask caller.task)) (next (.ok result)) scene)
    (hfailure : ∀ failure scene, AreStill (scene.ofTask caller.task) →
      (numberingPact blueprintId).Upholds caller
        (fun outcome scene => Claimed outcome (scene.ofTask caller.task)) (next (.error failure))
        scene) :
    (numberingPact blueprintId).Upholds caller
      (fun outcome scene => Claimed outcome (scene.ofTask caller.task))
      (.request (.store call none) next) scene := by
  have hstable : (numberingPact blueprintId).Stable caller.task fun scene =>
      count ≤ (scene.store.versionsOf blueprintId).length := by
    rintro before _ ⟨other, r, -, rfl, ⟨hkeys, -⟩, -⟩ hcount
    exact hcount.trans (Store.length_versionsOf_le hkeys blueprintId)
  refine Pact.upholds_request ((Pact.stable_ofTask _ _ AreStill).and hstable) ⟨hown, hcount⟩
    fun scene hcounted hown => ?_
  obtain ⟨hown, hcount⟩ := hown
  have hstill : (scene.exchange caller (.store call none)).2.store = scene.store →
      ((numberingPact blueprintId).allows (scene.next caller (.store call none)) ∧
        (numberingPact blueprintId).holds (scene.exchange caller (.store call none)).2) ∧
        AreStill ((scene.exchange caller (.store call none)).2.ofTask caller.task) := by
    intro hstore
    refine ⟨hcounted.keeps (congrArg Store.keys hstore), ?_⟩
    rw [Scene.ofTask_exchange_self]
    exact hown.concat hstore
  rcases Scene.exchange_store hcounted.undisturbed caller call none with
    ⟨hanswer, hafter⟩ | ⟨hanswer, hafter⟩
  · rw [hanswer]
    rcases Store.run_inserted scene.store hcall with
      ⟨⟨result, hresult⟩, hpositive, htaken, hversions⟩ | ⟨⟨failure, hresult⟩, hsame⟩
    · have hinserted := (congrArg (Store.versions ∘ World.store) hafter).trans hversions
      obtain ⟨hallows, hholds⟩ := hcounted.inserts hinserted fun hblueprint =>
        hcounted.numbered.number_eq hblueprint (hnumber hblueprint) hcount hpositive htaken
      refine ⟨hallows, hholds, ?_⟩
      rw [hresult]
      apply hsuccess result _
      rw [Scene.ofTask_exchange_self]
      exact ⟨_, _, [], rfl, hown, (by intro e he; cases he), hinserted⟩
    · obtain ⟨⟨hallows, hholds⟩, hown⟩ := hstill ((congrArg World.store hafter).trans hsame)
      refine ⟨hallows, hholds, ?_⟩
      rw [hresult]
      exact hfailure failure _ hown
  · obtain ⟨⟨hallows, hholds⟩, hown⟩ := hstill (congrArg World.store hafter)
    rw [hanswer]
    exact ⟨hallows, hholds, hfailure _ _ hown⟩

theorem upholds_tryInsert {version : Version} {forkedFrom : Option String}
    {set? : Option DefinitionSet} {again : String → Int64 → Operation Version} {count : Nat}
    (hown : AreStill (scene.ofTask caller.task))
    (hnumber : version.blueprintId = blueprintId → IsNextAfter count version.number)
    (hcount : count ≤ (scene.store.versionsOf blueprintId).length)
    (hagain : ∀ owner number scene, AreStill (scene.ofTask caller.task) →
      (numberingPact blueprintId).Upholds caller
        (fun outcome scene => Claimed outcome (scene.ofTask caller.task)) (again owner number).run
        scene) :
    (numberingPact blueprintId).Upholds caller
      (fun outcome scene => Claimed outcome (scene.ofTask caller.task))
      (do
        match ← Operation.tryInsert version set? with
        | .ok () =>
          Operation.record
            (.versionCreated version.blueprintId version.id version.number forkedFrom
              (← Operation.now))
          return version
        | .error (.versionConflict owner number) => again owner number
        | .error failure => throw failure : Operation Version).run
      scene := by
  have hfailure : ∀ (failure : Failure) (scene : Scene), AreStill (scene.ofTask caller.task) →
      (numberingPact blueprintId).Upholds caller
        (fun outcome scene => Claimed outcome (scene.ofTask caller.task))
        (match (.error failure : Except Failure Unit) with
        | .ok () => (do
          Operation.record
            (.versionCreated version.blueprintId version.id version.number forkedFrom
              (← Operation.now))
          return version : Operation Version)
        | .error (.versionConflict owner number) => again owner number
        | .error failure => throw failure).run scene := by
    intro failure scene hown
    cases failure with
    | versionConflict owner number => exact hagain owner number scene hown
    | _ => exact upholds_claimed hown
  cases set? with
  | none =>
    rw [Operation.tryInsert, Operation.run_attempt_bind]
    exact upholds_insert rfl hown hnumber hcount
      (fun _ scene hown => upholds_created (fun _ => trivial) hown) hfailure
  | some set =>
    rw [Operation.tryInsert, Operation.run_attempt_bind]
    exact upholds_insert rfl hown hnumber hcount
      (fun _ scene hown => upholds_created (fun _ => trivial) hown) hfailure

theorem upholds_claimNumber {version : Version} {forkedFrom : Option String}
    {set? : Option DefinitionSet} (attempts : Nat) (conflict : Failure)
    (hown : AreStill (scene.ofTask caller.task)) :
    (numberingPact blueprintId).Upholds caller
      (fun outcome scene => Claimed outcome (scene.ofTask caller.task))
      (Operation.claimNumber version forkedFrom set? attempts conflict).run scene := by
  induction attempts generalizing version conflict scene with
  | zero => exact upholds_claimed hown
  | succ attempts ih =>
    rw [Operation.claimNumber, Operation.nextNumber, bind_assoc, Operation.run_call_bind]
    refine Pact.upholds_request (Pact.stable_ofTask _ _ AreStill) hown
      fun scene hcounted hown => ?_
    have hquiet : (Request.store (.maxNumber version.blueprintId) none).IsQuiet := rfl
    have hstore := Scene.store_exchange_of_quiet hcounted.undisturbed caller hquiet
    obtain ⟨hallows, hholds⟩ := hcounted.keeps (congrArg Store.keys hstore)
    refine ⟨hallows, hholds, ?_⟩
    have hstill : AreStill ((scene.exchange caller
        (.store (.maxNumber version.blueprintId) none)).2.ofTask caller.task) := by
      rw [Scene.ofTask_exchange_self]
      exact hown.concat hstore
    have hcount : (scene.store.versionsOf blueprintId).length ≤
        ((scene.exchange caller (.store (.maxNumber version.blueprintId) none)).2.store.versionsOf
          blueprintId).length := by
      rw [hstore]
    rcases Scene.exchange_store hcounted.undisturbed caller (.maxNumber version.blueprintId) none
      with ⟨hanswer, -⟩ | ⟨hanswer, -⟩
    · rw [hanswer]
      change (numberingPact blueprintId).Upholds _ _
        (Operation.proceed _ (.ok (scene.store.maxNumber? version.blueprintId))) _
      cases hmax : scene.store.maxNumber? version.blueprintId with
      | none =>
        simp only [Operation.proceed, pure_bind]
        refine upholds_tryInsert hstill (fun hblueprint => ?_) hcount
          fun owner number scene hown => ih _ hown
        subst hblueprint
        rcases hcounted.numbered.maxNumber? with ⟨hnone, -⟩ | ⟨number, hsome, -⟩
        · rw [hnone]
          exact isNextAfter_one
        · rw [hmax] at hsome
          cases hsome
      | some number =>
        simp only [Operation.proceed, pure_bind]
        refine upholds_tryInsert hstill (fun hblueprint => ?_) hcount
          fun owner number scene hown => ih _ hown
        subst hblueprint
        rcases hcounted.numbered.maxNumber? with ⟨-, hnone⟩ | ⟨highest, hsome, hlength⟩
        · rw [hmax] at hnone
          cases hnone
        · rw [hmax] at hsome
          cases hsome
          exact isNextAfter_add_one hlength
    · rw [hanswer]
      exact upholds_claimed hstill

theorem upholds_createVersion {version : Version} {forkedFrom : Option String}
    {set? : Option DefinitionSet} (hown : AreStill (scene.ofTask caller.task)) :
    (numberingPact blueprintId).Upholds caller
      (fun outcome scene => Claimed outcome (scene.ofTask caller.task))
      (Operation.createVersion version forkedFrom set?).run scene := by
  refine upholds_quietly (Operation.quiet_callWithin rfl) hown fun blueprint? scene hown => ?_
  split_ifs
  · exact upholds_claimed hown
  · exact upholds_claimNumber _ _ hown

theorem upholds_createDraft {owner : String} (hown : AreStill (scene.ofTask caller.task)) :
    (numberingPact blueprintId).Upholds caller
      (fun outcome scene => Claimed outcome (scene.ofTask caller.task))
      (Operation.createDraft owner).run scene := by
  apply upholds_quietly (Operation.every_freshId trivial) hown
  intro id scene hown
  exact upholds_quietly (Operation.every_now trivial) hown fun now scene hown =>
    upholds_createVersion hown

theorem upholds_forkDraft {sourceId : String} (hown : AreStill (scene.ofTask caller.task)) :
    (numberingPact blueprintId).Upholds caller
      (fun outcome scene => Claimed outcome (scene.ofTask caller.task))
      (Operation.forkDraft sourceId).run scene := by
  refine upholds_quietly (Operation.quiet_callWithin rfl) hown fun source? scene hown => ?_
  cases source? with
  | none => exact upholds_claimed hown
  | some source =>
    apply upholds_quietly (Operation.every_freshId trivial) hown
    intro id scene hown
    apply upholds_quietly (Operation.every_now trivial) hown
    intro now scene hown
    refine upholds_quietly (Operation.quiet_readContent none source.id) hown
      fun content scene hown => ?_
    exact upholds_quietly (Operation.every_freshIds trivial) hown fun ids scene hown =>
      upholds_createVersion hown

end Programs

/-! ### Safety of the numbering -/

variable {blueprintId : String}

/-- What a call that creates a version has done to the store once it is over. -/
def Settled : Except Failure Reply → List Exchange → Prop
  | .ok reply, own => ∃ version, reply = .version version ∧ InsertsOnce version own
  | .error _, own => AreStill own

section Beginning

variable {caller : Caller} {scene : Scene}

theorem upholds_settled {outcome : Except Failure Reply}
    (hsettled : Settled outcome (scene.ofTask caller.task)) :
    (numberingPact blueprintId).Upholds caller
      (fun outcome scene => caller.command.Creates →
        Settled outcome (scene.ofTask caller.task))
      (.done outcome) scene :=
  Pact.upholds_done (Pact.stable_ofTask _ _ (Settled outcome)) hsettled
    fun _ _ hlater _ => hlater

theorem upholds_createdReply {operation : Operation Version}
    (hupholds : (numberingPact blueprintId).Upholds caller
      (fun outcome scene => Claimed outcome (scene.ofTask caller.task)) operation.run scene) :
    (numberingPact blueprintId).Upholds caller
      (fun outcome scene => caller.command.Creates → Settled outcome (scene.ofTask caller.task))
      (Reply.version <$> operation).run scene := by
  rw [Operation.run_map]
  refine Pact.Upholds.bind (hupholds.mono fun outcome scene _ hclaimed => ?_)
  cases outcome with
  | ok version => exact upholds_settled ⟨version, rfl, hclaimed⟩
  | error failure => exact upholds_settled hclaimed

theorem upholds_uncreating (hcommand : ¬caller.command.Creates) :
    (numberingPact blueprintId).Upholds caller
      (fun outcome scene => caller.command.Creates → Settled outcome (scene.ofTask caller.task))
      caller.command.operation.run scene := by
  refine Pact.upholds_of_every (Pact.stable_ofTask _ _ fun _ => True) ?_ ?_
    (Operation.every_iff.mp caller.command.every_mayMake) trivial
  · intro scene r hcounted _ hmay
    obtain ⟨hallows, hholds⟩ := hcounted.mayMake hcommand hmay
    exact ⟨hallows, hholds, trivial⟩
  · intro outcome scene _ _ hcreates
    exact absurd hcreates hcommand

end Beginning

theorem begins_numbering (blueprintId : String) :
    (numberingPact blueprintId).Begins fun caller outcome scene =>
      caller.command.Creates → Settled outcome (scene.ofTask caller.task) := by
  rintro ⟨task, agent, command⟩ scene - hown
  have hstill : AreStill (scene.ofTask task) := by
    rw [hown]
    intro e he
    cases he
  cases command with
  | createDraft owner => exact upholds_createdReply (upholds_createDraft hstill)
  | forkDraft sourceId => exact upholds_createdReply (upholds_forkDraft hstill)
  | _ => exact upholds_uncreating (by simp [Command.Creates])

theorem Store.IsNumbered.appended {before after : Store} (hnumbered : after.IsNumbered blueprintId)
    {version : Version} (hversions : after.versions = before.versions ++ [version.toRow])
    (hblueprint : version.blueprintId = blueprintId) :
    version.number.toInt = (before.versionsOf blueprintId).length + 1 := by
  rw [IsNumbered, versionsOf_inserted hversions, if_pos hblueprint, List.map_append,
    List.length_append, List.length_singleton, List.range_succ, List.map_append] at hnumbered
  exact List.singleton_inj.mp (List.append_inj' hnumbered rfl).2

/-- What holds of the versions of a blueprint in a system of managers and services. -/
structure System.IsNumbered (blueprintId : String) (system : System) : Prop where
  /-- The numbers are exactly those from one to the number of versions, in order of insertion. -/
  sequence : system.store.IsNumbered blueprintId
  /-- Whatever is done next, versions are inserted behind all others, and none goes or changes its
  number. -/
  grows : ∀ action, system.store.keys <+: (system.act action).store.keys
  /-- A call that succeeds inserted one version, with the next number of its blueprint, and did
  nothing else to the store. The number that it gave back is the one that is stored. -/
  inserted : ∀ i agent command reply, command.Creates →
    system.tasks[i]? = some ⟨agent, command, .done (.ok reply)⟩ →
      ∃ (version : Version) (earlier : List Exchange) (e : Exchange) (later : List Exchange),
        reply = .version version ∧ system.scene.ofTask i = earlier ++ e :: later ∧
        AreStill earlier ∧ AreStill later ∧
        e.after.store.versions = e.before.store.versions ++ [version.toRow] ∧
        (version.blueprintId = blueprintId →
          version.number.toInt = (e.before.store.versionsOf blueprintId).length + 1) ∧
        (version.id, version.blueprintId, version.number) ∈ system.store.keys
  /-- A call that fails changed nothing in the store, whichever of its attempts failed. -/
  refused : ∀ i agent command failure, command.Creates →
    system.tasks[i]? = some ⟨agent, command, .done (.error failure)⟩ →
      AreStill (system.scene.ofTask i)

/-- In every reachable system a blueprint that had no versions has numbered ones. -/
theorem System.isNumbered_run (store : Store) (ids : Ids) (clock : Nat → Timestamp)
    (capacity : Nat → Nat) (blueprintId : String) (hnew : store.versionsOf blueprintId = [])
    (actions : List Action) :
    ((start store ids clock capacity).run actions).IsNumbered blueprintId := by
  have hcounted : (start store ids clock capacity).scene.IsCounted blueprintId := by
    refine ⟨⟨rfl, rfl⟩, ?_, fun e he => by cases he⟩
    change store.IsNumbered blueprintId
    rw [Store.IsNumbered, hnew]
    rfl
  have hkept := Pact.kept_run (begins_numbering blueprintId) (Pact.kept_start hcounted) actions
  generalize (start store ids clock capacity).run actions = system at hkept
  constructor
  · exact hkept.holds.numbered
  · intro action
    rcases hkept.act_scene action with hscene | ⟨caller, r, hscene, hallows⟩
    · rw [System.store, System.store, hscene]
    · rw [System.store, System.store, hscene]
      exact hallows.1
  · intro i agent command reply hcreates htask
    obtain ⟨version, hreply, earlier, e, later, hown, hearlier, hlater, hversions⟩ :=
      hkept.returned htask hcreates
    have he : e ∈ system.journal := by
      apply List.mem_of_mem_filter (p := (·.caller.task = i))
      change e ∈ system.scene.ofTask i
      rw [hown]
      exact List.mem_append_right _ List.mem_cons_self
    refine ⟨version, earlier, e, later, hreply, hown, hearlier, hlater, hversions, ?_, ?_⟩
    · exact (hkept.allows e he).2.appended hversions
    · apply (hkept.holds.grown e he).subset
      rw [Store.keys_inserted hversions]
      exact List.mem_append_right _ (List.mem_singleton_self _)
  · intro i agent command failure hcreates htask
    exact hkept.returned htask hcreates

/-- Two calls create a draft of the same blueprint, and each looks for the highest number before the
other one inserts its version. -/
theorem System.isNumbered_run_race :
    ({} : Store).versionsOf "x" = [] ∧
      (fresh.run <|
        [.begin 0 (.createBlueprint "Novel" none [] false), .begin 1 (.createDraft "x"),
          .begin 2 (.createDraft "x")] ++
          List.replicate 5 (.advance 0) ++ List.replicate 4 (.advance 1) ++
          List.replicate 7 (.advance 2) ++ List.replicate 5 (.advance 1)).IsNumbered "x" :=
  ⟨rfl, isNumbered_run {} .tally _ _ "x" rfl _⟩

end KnowledgeSchema
