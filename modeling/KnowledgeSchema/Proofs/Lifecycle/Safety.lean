import KnowledgeSchema.Proofs.Concurrent.Logs
import KnowledgeSchema.Proofs.Lifecycle.Transition

/-!
# Safety of the lifecycle

Whatever calls are under way, and in whatever order their requests are carried out, a version lives
the life of a version row, and its changes are told one by one.
-/

namespace KnowledgeSchema

variable {versionId : String}

structure Finished (versionId : String) (command : Command) (outcome : Except Failure Reply)
    (own : List Exchange) : Prop where
  settled : own.filterMap (·.announcement? versionId) = own.filterMap (·.change? versionId)
  returned : ∀ next reply, command.moves? = some (versionId, next) → outcome = .ok reply →
    ∃ version, reply = .version version ∧
      ∃ e ∈ own, e.after.store.row? versionId = some version.toRow

/-! ### Every call upholds the pact -/

section Beginning

variable {caller : Caller} {scene : Scene}

theorem upholds_finished {outcome : Except Failure Reply}
    (hfinished : Finished versionId caller.command outcome (scene.ofTask caller.task)) :
    (lifecyclePact versionId).Upholds caller
      (fun outcome scene => Finished versionId caller.command outcome (scene.ofTask caller.task))
      (.done outcome) scene :=
  Pact.upholds_done (Pact.stable_ofTask _ _ (Finished versionId caller.command outcome)) hfinished
    fun _ _ hlater => hlater

theorem Ended.finished {target : String} {next : Status} {outcome : Except Failure Version}
    {own : List Exchange} (hended : Ended versionId target outcome own)
    (hcommand : caller.command.moves? = some (target, next)) :
    Finished versionId caller.command (Reply.version <$> outcome) own where
  settled := hended.settled
  returned goal reply hgoal hreply := by
    rw [hcommand] at hgoal
    cases hgoal
    cases outcome with
    | error failure => cases hreply
    | ok version =>
      cases hreply
      exact ⟨version, rfl, hended.returned version rfl rfl⟩

theorem upholds_reply {target : String} {next : Status} {outcome : Except Failure Version}
    (hended : Ended versionId target outcome (scene.ofTask caller.task))
    (hcommand : caller.command.moves? = some (target, next)) :
    (lifecyclePact versionId).Upholds caller
      (fun outcome scene => Finished versionId caller.command outcome (scene.ofTask caller.task))
      (Operation.proceed (fun version => pure (Reply.version version)) outcome) scene := by
  have hfinished := hended.finished hcommand
  cases outcome with
  | error failure => exact upholds_finished hfinished
  | ok version => exact upholds_finished hfinished

theorem upholds_evict {target : String} {outcome : Except Failure Version}
    (hended : Ended versionId target outcome (scene.ofTask caller.task)) :
    (lifecyclePact versionId).Upholds caller
      (fun outcome scene => Ended versionId target outcome (scene.ofTask caller.task))
      (Operation.proceed (fun version => do
        Operation.evict target
        return version) outcome) scene := by
  cases outcome with
  | error failure =>
    have hstable := Pact.stable_ofTask (lifecyclePact versionId) caller.task
      (Ended versionId target (.error failure))
    exact Pact.upholds_done hstable hended fun _ _ hlater => hlater
  | ok version =>
    rw [Operation.proceed, Operation.run_evict_bind]
    refine Pact.upholds_request (Pact.stable_ofTask _ _ (Ended versionId target (.ok version)))
      hended fun scene horderly hended => ?_
    have hidle : (scene.next caller (.evict target)).IsIdle versionId :=
      Scene.idle_of_quiet horderly.undisturbed trivial fun _ _ _ => Request.noConfusion
    have hundone : ¬(scene.next caller (.evict target)).FindsTarget versionId :=
      not_findsTarget fun _ => Request.noConfusion
    obtain ⟨hallows, hholds⟩ := horderly.quiet (r := .evict target) trivial
      ((horderly.accounts caller.task).concat_idle hundone hidle)
    refine ⟨hallows, hholds, ?_⟩
    refine Pact.upholds_done (Pact.stable_ofTask _ _ (Ended versionId target (.ok version))) ?_
      fun _ _ hlater => hlater
    rw [Scene.ofTask_exchange_self]
    constructor
    · rw [List.filterMap_append, List.filterMap_append, hended.settled]
      simp [hidle.change, hidle.announcement]
    · intro found hfound heq
      obtain ⟨e, he, hrow⟩ := hended.returned found hfound heq
      exact ⟨e, List.mem_append_left _ he, hrow⟩

theorem upholds_unmoving (hcommand : caller.command.moves? = none)
    (hown : scene.ofTask caller.task = []) :
    (lifecyclePact versionId).Upholds caller
      (fun outcome scene => Finished versionId caller.command outcome (scene.ofTask caller.task))
      caller.command.operation.run scene := by
  refine Pact.upholds_of_every (Pact.stable_ofTask _ _ (Searching versionId)) ?_ ?_
    (Operation.every_iff.mp caller.command.every_mayMake) ?_
  · intro scene r horderly hsearching hmay
    obtain ⟨hallows, hsound, hidle⟩ := horderly.mayMake hcommand hmay
    have hown : Searching versionId (scene.ofTask caller.task ++ [scene.next caller r]) := by
      refine forall_mem_concat hsearching ⟨hidle, ?_⟩
      rintro ⟨next, -, -, hmoves, -⟩
      change caller.command.moves? = some (versionId, next) at hmoves
      rw [hcommand] at hmoves
      cases hmoves
    refine ⟨hallows, horderly.exchange hsound (.of_idle hown.idle), ?_⟩
    rw [Scene.ofTask_exchange_self]
    exact hown
  · intro outcome scene _ hsearching
    refine ⟨?_, fun next reply hmoves => ?_⟩
    · rw [changes_of_idle hsearching.idle, announcements_of_idle hsearching.idle]
    · rw [hcommand] at hmoves
      cases hmoves
  · rw [hown]
    intro e he
    cases he

end Beginning

theorem begins_lifecycle (versionId : String) :
    (lifecyclePact versionId).Begins fun caller outcome scene =>
      Finished versionId caller.command outcome (scene.ofTask caller.task) := by
  rintro ⟨task, agent, command⟩ scene - hown
  have hsearching : Searching versionId (scene.ofTask task) := by
    rw [hown]
    intro e he
    cases he
  cases command with
  | transition target next =>
    simp only [Command.operation, Operation.run_map]
    refine Pact.Upholds.bind (Pact.Upholds.mono (upholds_moveTo rfl _ hsearching) ?_)
    intro outcome scene _ hended
    exact upholds_reply hended rfl
  | transitionAndEvict target next =>
    simp only [Command.operation, Operation.run_map, Operation.transitionAndEvict,
      Operation.run_bind (Operation.transition target next)]
    refine Pact.Upholds.bind (Pact.Upholds.bind (Pact.Upholds.mono
      (upholds_moveTo rfl _ hsearching) fun outcome scene _ hended => ?_))
    exact (upholds_evict hended).mono fun outcome scene _ hended => upholds_reply hended rfl
  | _ => exact upholds_unmoving rfl hown

/-! ### Reachable systems -/

/-- When each class of a list yields as much by one function as by another, so does the list. -/
theorem perm_filterMap_of_classes {α β : Type} (label : α → Nat) (first second : α → Option β)
    (items : List α)
    (hclasses : ∀ i, (items.filter (label · = i)).filterMap first =
      (items.filter (label · = i)).filterMap second) :
    (items.filterMap first).Perm (items.filterMap second) := by
  induction hlength : items.length using Nat.strong_induction_on generalizing items with
  | _ length ih =>
    cases items with
    | nil => exact .refl _
    | cons item rest =>
      -- The class of the first item goes, and the other classes stay as they are.
      have hsplit := List.filter_append_perm (fun other => label other = label item) (item :: rest)
      have hshorter : ((item :: rest).filter fun other =>
          !decide (label other = label item)).length < length := by
        rw [← hlength, List.filter_cons_of_neg (by simp)]
        exact Nat.lt_succ_of_le (List.length_filter_le _ _)
      have hothers : (((item :: rest).filter fun other =>
            !decide (label other = label item)).filterMap first).Perm
          (((item :: rest).filter fun other =>
            !decide (label other = label item)).filterMap second) := by
        refine ih _ hshorter _ (fun i => ?_) rfl
        simp only [List.filter_filter]
        by_cases hi : i = label item
        · have hnone : ∀ other, (decide (label other = i) && !decide (label other = label item)) =
              false := by
            intro other
            simp [hi]
          simp [hnone]
        · have hsame : (fun other => decide (label other = i) &&
              !decide (label other = label item)) = fun other => decide (label other = i) := by
            funext other
            by_cases hother : label other = i
            · simp [hother, hi]
            · simp [hother]
          rw [hsame]
          exact hclasses i
      refine (hsplit.symm.filterMap first).trans (.trans ?_ (hsplit.filterMap second))
      rw [List.filterMap_append, List.filterMap_append, hclasses]
      exact hothers.append_left _

/-- What holds of a version in a system of managers and services, now and from now on. -/
structure System.IsSafe (versionId : String) (system : System) : Prop where
  /-- Whatever is done next, the row of the version lives the life of a version row. -/
  life : ∀ action, VersionRow.Life (system.store.row? versionId)
    ((system.act action).store.row? versionId)
  /-- Exactly a draft has no time of publication. -/
  stamped : ∀ row, system.store.row? versionId = some row →
    (row.publishedAt = none ↔ row.status = .draft)
  /-- The time of publication stays, whatever is done from now on. -/
  kept : ∀ row time actions, system.store.row? versionId = some row →
    row.publishedAt = some time → ∃ later,
      (system.run actions).store.row? versionId = some later ∧ later.publishedAt = some time
  /-- What a call that moved the version gives back was stored while it was under way, and whoever
  had read the version then would have got the same. -/
  returned : ∀ i agent command next reply, command.moves? = some (versionId, next) →
    system.tasks[i]? = some ⟨agent, command, .done (.ok reply)⟩ →
      ∃ version, reply = .version version ∧ ∃ e ∈ system.scene.ofTask i,
        e.after.store.row? versionId = some version.toRow ∧
          (version.IsReadable → e.after.store.version? versionId = .ok (some version))
  /-- A call makes at most one change, and tells of no change before it made it. -/
  accounts : ∀ i, Account versionId (system.scene.ofTask i)
  /-- When it is over, it has told of its change. -/
  settled : ∀ i agent command outcome,
    system.tasks[i]? = some ⟨agent, command, .done outcome⟩ →
      (system.scene.ofTask i).filterMap (·.announcement? versionId) =
        (system.scene.ofTask i).filterMap (·.change? versionId)
  /-- When all calls are over, changes and announcements correspond one to one. -/
  matched : (∀ task ∈ system.tasks, ∃ outcome, task.program = .done outcome) →
    (system.journal.filterMap (·.announcement? versionId)).Perm
      (system.journal.filterMap (·.change? versionId))
  /-- The logs of the agents hold what was recorded, as far as they have room. -/
  logged : system.scene.IsLogged

namespace Pact.Kept

variable {system : System}

theorem life (hkept : Kept (lifecyclePact versionId)
      (fun caller outcome scene =>
        Finished versionId caller.command outcome (scene.ofTask caller.task)) system)
    (action : Action) :
    VersionRow.Life (system.store.row? versionId) ((system.act action).store.row? versionId) := by
  rcases hkept.act_scene action with hscene | ⟨caller, r, hscene, hallows⟩
  · rw [System.store, System.store, hscene]
    exact .rest _
  · rw [System.store, System.store, hscene]
    exact hallows

theorem publishedAt (hkept : Kept (lifecyclePact versionId)
      (fun caller outcome scene =>
        Finished versionId caller.command outcome (scene.ofTask caller.task)) system)
    {row : VersionRow} {time : String} (hrow : system.store.row? versionId = some row)
    (htime : row.publishedAt = some time) (actions : List Action) :
    ∃ later, (system.run actions).store.row? versionId = some later ∧
      later.publishedAt = some time := by
  induction actions generalizing system row with
  | nil => exact ⟨row, hrow, htime⟩
  | cons action rest ih =>
    have hlife := hkept.life action
    have hnext := kept_run (begins_lifecycle versionId) hkept [action]
    rw [hrow] at hlife
    cases hafter : (system.act action).store.row? versionId with
    | none =>
      rw [hafter] at hlife
      cases hlife
    | some after =>
      rw [hafter] at hlife
      apply ih hnext hafter
      cases hlife with
      | rest => exact htime
      | move hstep => exact hstep.publishedAt htime

end Pact.Kept

/-- In every reachable system the lifecycle of a version that was created there is safe. -/
theorem System.isSafe_run (store : Store) (ids : Ids) (clock : Nat → Timestamp)
    (capacity : Nat → Nat) (versionId : String) (hnew : store.row? versionId = none)
    (actions : List Action) :
    ((start store ids clock capacity).run actions).IsSafe versionId := by
  have horderly : (start store ids clock capacity).scene.IsOrderly versionId :=
    ⟨⟨rfl, rfl⟩, Store.isSound_of_row?_eq_none hnew, fun _ => .of_idle fun _ he => by cases he⟩
  have hkept := Pact.kept_run (begins_lifecycle versionId) (Pact.kept_start horderly) actions
  generalize hsystem : (start store ids clock capacity).run actions = system at hkept
  have hsettled : ∀ i agent command outcome,
      system.tasks[i]? = some ⟨agent, command, .done outcome⟩ →
        (system.scene.ofTask i).filterMap (·.announcement? versionId) =
          (system.scene.ofTask i).filterMap (·.change? versionId) :=
    fun i agent command outcome htask => (hkept.returned htask).settled
  constructor
  · exact hkept.life
  · intro row hrow
    exact hkept.holds.sound.stamped hrow
  · intro row time later hrow htime
    exact hkept.publishedAt hrow htime later
  · intro i agent command next reply hmoves htask
    obtain ⟨version, hversion, e, he, hrow⟩ := (hkept.returned htask).returned next reply hmoves rfl
    refine ⟨version, hversion, e, he, hrow, fun hreadable => ?_⟩
    rw [Store.version?_of_row? hrow, Version.toVersion_toRow hreadable]
    rfl
  · exact hkept.holds.accounts
  · exact hsettled
  · intro hover
    apply perm_filterMap_of_classes (·.caller.task) _ _ _
    intro i
    cases htask : system.tasks[i]? with
    | none =>
      have hnothing : system.scene.ofTask i = [] := by
        rw [Scene.ofTask, List.filter_eq_nil_iff]
        intro e he hown
        have hlt := hkept.numbered e he
        have hnumber : e.caller.task = i := of_decide_eq_true hown
        have hbound := List.getElem?_eq_none_iff.mp htask
        omega
      change (system.scene.ofTask i).filterMap _ = (system.scene.ofTask i).filterMap _
      rw [hnothing]
      rfl
    | some task =>
      obtain ⟨agent, command, program⟩ := task
      obtain ⟨outcome, rfl⟩ := hover _ (List.mem_of_getElem? htask)
      exact hsettled i agent command outcome htask
  · rw [← hsystem]
    exact isLogged_run (isLogged_start store ids clock capacity) actions

/-- Two calls publish the same draft, and each reads it before the other one changes it. -/
theorem System.isSafe_run_race :
    ({} : Store).row? "xx" = none ∧
      (fresh.run <|
        [.begin 0 (.createBlueprint "Novel" none [] false), .begin 0 (.createDraft "x"),
          .begin 1 (.transition "xx" .published), .begin 2 (.transition "xx" .published)] ++
          List.replicate 5 (.advance 0) ++ List.replicate 7 (.advance 1) ++
          [.advance 2, .advance 3, .advance 2, .advance 3, .advance 2, .advance 3] ++
          [.advance 2, .advance 2, .advance 3]).IsSafe "xx" :=
  ⟨rfl, isSafe_run {} .tally _ _ "xx" rfl _⟩

end KnowledgeSchema
