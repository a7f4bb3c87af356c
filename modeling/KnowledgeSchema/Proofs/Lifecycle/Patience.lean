import KnowledgeSchema.Proofs.Concurrent.Endings
import KnowledgeSchema.Proofs.Lifecycle.Progress

/-!
# Moving a version without giving up

A call that finds the status changed under it has one status less from which it could make its own
move, and there are at most two of them at first. So it reads the version at most three times and
never runs out of attempts, however many others move the same version in the meantime.
-/

namespace KnowledgeSchema

variable {versionId : String} {next : Status} {caller : Caller} {scene : Scene}

/-! ### Calls that move the version -/

/-- How a call that moves the version ends after its requests. A failure of the store is not the
one of a call that gave up. -/
inductive Concludes (versionId : String) (next : Status) (own : List Exchange) :
    Except Failure Version → Prop
  | moved {version : Version} (hid : version.id = versionId) (hstatus : version.status = next) :
    Concludes versionId next own (.ok version)
  | missing : Concludes versionId next own (.error (.versionNotFound versionId))
  | refused {status : Status} (hother : status ≠ next) (hcannot : status.canBecome next = false) :
    Concludes versionId next own (.error (.invalidTransition status.name next.name))
  | failed {e : Exchange} {failure : Failure} (he : e ∈ own) (hfails : e.Fails failure)
      (hother : ∀ id status, failure ≠ .other (.keptChanging id status)) :
    Concludes versionId next own (.error failure)

theorem Concludes.mono {own later : List Exchange} {outcome : Except Failure Version}
    (hconcludes : Concludes versionId next own outcome) (hsubset : own ⊆ later) :
    Concludes versionId next later outcome := by
  cases hconcludes with
  | moved hid hstatus => exact .moved hid hstatus
  | missing => exact .missing
  | refused hother hcannot => exact .refused hother hcannot
  | failed he hfails hother => exact .failed (hsubset he) hfails hother

/-- A call has come to an end after its requests. -/
abbrev Concluded (versionId : String) (next : Status) (caller : Caller)
    (outcome : Except Failure Version) (scene : Scene) : Prop :=
  Concludes versionId next (scene.ofTask caller.task) outcome

theorem upholds_concluded {outcome : Except Failure Version}
    (hconcludes : Concludes versionId next (scene.ofTask caller.task) outcome) :
    (patiencePact versionId).Upholds caller (Concluded versionId next caller) (.done outcome)
      scene :=
  Pact.upholds_done (Pact.stable_ofTask _ _ fun own => Concludes versionId next own outcome)
    hconcludes fun _ _ hlater => hlater

theorem Store.Refuses.ne_keptChanging {store : Store} {call : Call} {failure : Failure}
    (hrefuses : store.Refuses call failure) (id : String) (status : Status) :
    failure ≠ .other (.keptChanging id status) := by
  cases hrefuses with
  | unreadable hunreadable =>
    rintro rfl
    exact hunreadable
  | _ => simp

theorem upholds_reported {version : Version} {before : Status} (hid : version.id = versionId)
    (hstatus : version.status = next) :
    (patiencePact versionId).Upholds caller (Concluded versionId next caller)
      (do
        let time ← Operation.now
        Operation.record (.statusChanged versionId before next time)
        return version : Operation Version).run scene := by
  have hstable := Pact.stable_ofTask (patiencePact versionId) caller.task fun _ => True
  rw [Operation.run_now_bind]
  refine Pact.upholds_request hstable trivial fun scene hbrisk _ => ?_
  obtain ⟨hallows, hholds⟩ := hbrisk.aside (r := .now) caller trivial
  refine ⟨hallows, hholds, ?_⟩
  rw [Operation.run_record_bind]
  refine Pact.upholds_request hstable trivial fun scene hbrisk _ => ?_
  obtain ⟨hallows, hholds⟩ :=
    hbrisk.aside (r := .record (.statusChanged versionId before next _)) caller trivial
  exact ⟨hallows, hholds, upholds_concluded (.moved hid hstatus)⟩

/-- A call goes on with what the store answers, or else fails with what it was refused for. -/
theorem upholds_call {call : Store.Call} {further : call.Result → Operation Version}
    {assertion : Scene → Prop} (hclimbs : (Request.store call none).Climbs)
    (hstable : (patiencePact versionId).Stable caller.task assertion)
    (hassertion : assertion scene)
    (hpace : ∀ scene, assertion scene →
      KeepsPace versionId (scene.ofTask caller.task ++ [scene.next caller (.store call none)]))
    (hfurther : ∀ value scene, assertion scene → (scene.store.run call).1 = .ok value →
      (scene.exchange caller (.store call none)).2.store = (scene.store.run call).2 →
      (patiencePact versionId).Upholds caller (Concluded versionId next caller) (further value).run
        (scene.exchange caller (.store call none)).2) :
    (patiencePact versionId).Upholds caller (Concluded versionId next caller)
      (Operation.call call >>= further).run scene := by
  rw [Operation.run_call_bind]
  refine Pact.upholds_request hstable hassertion fun scene hbrisk hassertion => ?_
  obtain ⟨hallows, hholds⟩ := hbrisk.exchange hclimbs (hpace scene hassertion)
  refine ⟨hallows, hholds, ?_⟩
  cases hanswer : (scene.exchange caller (.store call none)).1 with
  | error failure =>
    have hmine : scene.next caller (.store call none) ∈
        (scene.exchange caller (.store call none)).2.ofTask caller.task := by simp
    have hrefused := (Scene.refuses hbrisk.undisturbed hanswer).ne_keptChanging
    exact upholds_concluded (.failed hmine ⟨call, none, rfl, hanswer⟩ hrefused)
  | ok value =>
    obtain ⟨hran, hafter⟩ := Scene.exchange_eq_ok hbrisk.undisturbed hanswer
    exact hfurther value scene hassertion hran hafter

/-- A call whose change comes too late has one status less to move the version from. -/
theorem upholds_change {before : Status} {moved : Version} {again : Operation Version}
    {rounds : Nat} (hcommand : caller.command.moves? = some (versionId, next))
    (hid : moved.id = versionId) (hstatus : moved.status = next)
    (hcan : before.canBecome moved.status = true) (hrounds : rounds < 3)
    (hown : Paced versionId (rounds + 1) rounds (scene.ofTask caller.task))
    (hreached : scene.store.HasReached versionId before.rank)
    (hagain : ∀ scene, Paced versionId (rounds + 1) (rounds + 1) (scene.ofTask caller.task) →
      scene.store.HasReached versionId (before.rank + 1) →
      (patiencePact versionId).Upholds caller (Concluded versionId next caller) again.run scene) :
    (patiencePact versionId).Upholds caller (Concluded versionId next caller)
      (do
        if ← Operation.call
            (.updateStatus versionId before moved.status moved.publishedAt) then
          Operation.record (.statusChanged versionId before next (← Operation.now))
          return moved
        else again : Operation Version).run
      scene := by
  let r : Request := .store (.updateStatus versionId before moved.status moved.publishedAt) none
  have hpaced : ∀ scene : Scene, Paced versionId (rounds + 1) rounds (scene.ofTask caller.task) →
      Paced versionId (rounds + 1) (rounds + 1)
        (scene.ofTask caller.task ++ [scene.next caller r]) := by
    intro scene hown
    simpa [Exchange.reads, Exchange.tries, Scene.next, hcommand, r] using
      hown.concat (scene.next caller r)
  refine upholds_call hcan ((Pact.stable_ofTask _ _ (Paced versionId (rounds + 1) rounds)).and
    (stable_hasReached versionId before.rank caller.task)) ⟨hown, hreached⟩
    (fun scene hassertion => (hpaced scene hassertion.1).keepsPace hrounds le_rfl) ?_
  rintro updated scene ⟨hown, hreached⟩ hupdated hafter
  cases updated with
  | true => exact upholds_reported hid hstatus
  | false =>
    apply hagain
    · rw [Scene.ofTask_exchange_self]
      exact hpaced scene hown
    · rw [hafter]
      have hclimbs : r.Climbs := hcan
      have hmissed : (scene.store.updateStatus versionId before moved.status
          moved.publishedAt).2 = false := Except.ok.inj hupdated
      exact (hreached.of_missed hmissed).advances (Store.advances_run scene.store hclimbs)

theorem upholds_attempt {version : Version} {again : Operation Version} {rounds : Nat}
    (hcommand : caller.command.moves? = some (versionId, next)) (hid : version.id = versionId)
    (hother : version.status ≠ next) (hrounds : rounds < 3)
    (hown : Paced versionId (rounds + 1) rounds (scene.ofTask caller.task))
    (hreached : scene.store.HasReached versionId version.status.rank)
    (hagain : ∀ scene, version.status.canBecome next = true →
      Paced versionId (rounds + 1) (rounds + 1) (scene.ofTask caller.task) →
      scene.store.HasReached versionId (version.status.rank + 1) →
      (patiencePact versionId).Upholds caller (Concluded versionId next caller) again.run scene) :
    (patiencePact versionId).Upholds caller (Concluded versionId next caller)
      (do
        let moved ← version.transition next (← Operation.now)
        if ← Operation.call
            (.updateStatus version.id version.status moved.status moved.publishedAt) then
          Operation.record (.statusChanged version.id version.status next (← Operation.now))
          return moved
        else again : Operation Version).run
      scene := by
  rw [Operation.run_now_bind]
  refine Pact.upholds_request ((Pact.stable_ofTask _ _ (Paced versionId (rounds + 1) rounds)).and
    (stable_hasReached versionId version.status.rank caller.task)) ⟨hown, hreached⟩ ?_
  rintro scene hbrisk ⟨hown, hreached⟩
  obtain ⟨hallows, hholds⟩ := hbrisk.aside (r := .now) caller trivial
  refine ⟨hallows, hholds, ?_⟩
  generalize (Scene.exchange scene caller Request.now).1 = time
  rw [Operation.run_lift_bind]
  cases hmoved : version.transition next time with
  | error failure =>
    have hcannot : version.status.canBecome next ≠ true := by
      intro hcan
      rw [Version.transition, if_pos hcan] at hmoved
      cases hmoved
    rw [Version.transition, if_neg hcannot] at hmoved
    cases hmoved
    exact upholds_concluded (.refused hother (by simpa using hcannot))
  | ok moved =>
    obtain ⟨hcan, hresult⟩ := Version.transition_eq_ok hmoved
    have hstatus : moved.status = next := by rw [hresult]
    rw [Operation.proceed, hid]
    refine upholds_change hcommand ?_ hstatus (hstatus ▸ hcan) hrounds ?_ hreached
      fun scene => hagain scene hcan
    · rw [hresult]
      exact hid
    · rw [Scene.ofTask_exchange_self]
      simpa [Exchange.reads, Exchange.tries, Scene.next, hcommand] using
        hown.concat (scene.next caller .now)

/-- As many attempts are left as there are statuses to move the version from, and one more. -/
theorem upholds_attempts (hcommand : caller.command.moves? = some (versionId, next))
    {attempts rounds floor : Nat} (hrounds : rounds + (next.sources floor).length < 3)
    (hattempts : (next.sources floor).length < attempts)
    (hown : Paced versionId rounds rounds (scene.ofTask caller.task))
    (hreached : 0 < floor → scene.store.HasReached versionId floor) :
    (patiencePact versionId).Upholds caller (Concluded versionId next caller)
      (Operation.moveTo versionId next attempts).run scene := by
  induction attempts generalizing scene rounds floor with
  | zero => omega
  | succ attempts ih =>
    rw [Operation.moveTo]
    let r : Request := .store (.getVersion versionId) none
    have hpaced : ∀ scene : Scene, Paced versionId rounds rounds (scene.ofTask caller.task) →
        Paced versionId (rounds + 1) rounds
          (scene.ofTask caller.task ++ [scene.next caller r]) := by
      intro scene hown
      simpa [Exchange.reads, Exchange.tries, Scene.next, hcommand, r] using
        hown.concat (scene.next caller r)
    refine upholds_call trivial ((Pact.stable_ofTask _ _ (Paced versionId rounds rounds)).and
      (.imp (0 < floor) (stable_hasReached versionId floor caller.task))) ⟨hown, hreached⟩
      (fun scene hassertion => (hpaced scene hassertion.1).keepsPace (by omega) (by omega)) ?_
    rintro version? scene ⟨hown, hreached⟩ hread hsame
    cases version? with
    | none => exact upholds_concluded .missing
    | some version =>
      obtain ⟨row, hrow, hversion⟩ := Store.version?_eq_some hread
      obtain ⟨hrowId, -, -, hstatus⟩ := VersionRow.eq_of_toVersion hversion
      have hid : version.id = versionId := hrowId.trans (Store.row?_id hrow)
      dsimp only
      split_ifs with hnext
      · exact upholds_concluded (.moved hid hnext)
      · have hfloor : floor ≤ version.status.rank := by
          rcases Nat.eq_zero_or_pos floor with hzero | hpositive
          · omega
          · obtain ⟨found, hfound, hfloor⟩ := hreached hpositive
            rw [hrow] at hfound
            cases hfound
            rwa [hstatus]
        have hleft : rounds < 3 := by omega
        refine upholds_attempt hcommand hid hnext hleft ?_ ?_ ?_
        · rw [Scene.ofTask_exchange_self]
          exact hpaced scene hown
        · exact ⟨row, (congrArg (Store.row? · versionId) hsame).trans hrow, hstatus ▸ le_rfl⟩
        · intro scene hcan hown hreached
          have hfewer := Status.length_sources_lt hcan hfloor
          exact ih (by omega) (by omega) hown fun _ => hreached

/-! ### Every call upholds the pact -/

/-- A call that is to move the version gives back how that ended. -/
def Reports (versionId : String) (command : Command) (own : List Exchange)
    (outcome : Except Failure Reply) : Prop :=
  ∀ next, command.moves? = some (versionId, next) →
    ∃ moving, outcome = Reply.version <$> moving ∧ Concludes versionId next own moving

theorem upholds_reports {outcome : Except Failure Version}
    (hcommand : caller.command.moves? = some (versionId, next))
    (hconcludes : Concludes versionId next (scene.ofTask caller.task) outcome) :
    (patiencePact versionId).Upholds caller
      (fun outcome scene => Reports versionId caller.command (scene.ofTask caller.task) outcome)
      (Operation.proceed (fun version => pure (Reply.version version)) outcome) scene := by
  have hreports : Reports versionId caller.command (scene.ofTask caller.task)
      (Reply.version <$> outcome) := by
    intro goal hgoal
    rw [hcommand] at hgoal
    cases hgoal
    exact ⟨outcome, rfl, hconcludes⟩
  have hstable := Pact.stable_ofTask (patiencePact versionId) caller.task fun own =>
    Reports versionId caller.command own (Reply.version <$> outcome)
  cases outcome with
  | error failure => exact Pact.upholds_done hstable hreports fun _ _ hlater => hlater
  | ok version => exact Pact.upholds_done hstable hreports fun _ _ hlater => hlater

theorem upholds_evicted {outcome : Except Failure Version}
    (hconcludes : Concludes versionId next (scene.ofTask caller.task) outcome) :
    (patiencePact versionId).Upholds caller (Concluded versionId next caller)
      (Operation.proceed (fun version => do
        Operation.evict versionId
        return version) outcome) scene := by
  cases outcome with
  | error failure => exact upholds_concluded hconcludes
  | ok version =>
    rw [Operation.proceed, Operation.run_evict_bind]
    refine Pact.upholds_request
      (Pact.stable_ofTask _ _ fun own => Concludes versionId next own (.ok version)) hconcludes
      fun scene hbrisk hconcludes => ?_
    obtain ⟨hallows, hholds⟩ := hbrisk.aside (r := .evict versionId) caller trivial
    refine ⟨hallows, hholds, upholds_concluded (hconcludes.mono ?_)⟩
    rw [Scene.ofTask_exchange_self]
    exact List.subset_append_left _ _

/-- A call that moves no version, or another one, need only keep the statuses moving on. -/
theorem upholds_elsewhere (hother : ∀ next, caller.command.moves? ≠ some (versionId, next)) :
    (patiencePact versionId).Upholds caller
      (fun outcome scene => Reports versionId caller.command (scene.ofTask caller.task) outcome)
      caller.command.operation.run scene := by
  refine Pact.upholds_of_every (Pact.stable_ofTask _ _ fun _ => True) ?_ ?_
    (Operation.every_iff.mp caller.command.every_climbs) trivial
  · intro scene r hbrisk _ hclimbs
    obtain ⟨hreads, htries⟩ := Exchange.elsewhere (e := scene.next caller r) hother
    obtain ⟨hallows, hholds⟩ :=
      hbrisk.exchange hclimbs ((hbrisk.pace caller.task).concat_other hreads htries)
    exact ⟨hallows, hholds, trivial⟩
  · intro outcome scene _ _ next hmoves
    exact absurd hmoves (hother next)

theorem begins_patience (versionId : String) :
    (patiencePact versionId).Begins fun caller outcome scene =>
      Reports versionId caller.command (scene.ofTask caller.task) outcome := by
  rintro caller scene - hown
  by_cases hmoves : ∃ next, caller.command.moves? = some (versionId, next)
  · obtain ⟨next, hmoves⟩ := hmoves
    have hpaced : Paced versionId 0 0 (scene.ofTask caller.task) := by
      rw [hown]
      exact ⟨rfl, rfl⟩
    have hsources := next.length_sources_le_two
    have hattempts := @upholds_attempts versionId next caller scene hmoves
      Operation.transitionAttempts 0 0 (by omega) (by rw [Operation.transitionAttempts]; omega)
      hpaced (by omega)
    obtain ⟨task, agent, command⟩ := caller
    cases command with
    | transition target goal =>
      cases hmoves
      simp only [Command.operation, Operation.run_map]
      exact Pact.Upholds.bind (hattempts.mono fun _ _ _ => upholds_reports rfl)
    | transitionAndEvict target goal =>
      cases hmoves
      simp only [Command.operation, Operation.run_map, Operation.transitionAndEvict,
        Operation.run_bind (Operation.transition _ _)]
      refine Pact.Upholds.bind (Pact.Upholds.bind (hattempts.mono fun _ _ _ hconcludes => ?_))
      exact (upholds_evicted hconcludes).mono fun _ _ _ => upholds_reports rfl
    | _ => cases hmoves
  · exact upholds_elsewhere fun next hnext => hmoves ⟨next, hnext⟩

/-! ### Reachable systems -/

/-- In a system of managers and services no call that moves a version gives up. -/
structure System.IsResolute (versionId : String) (system : System) : Prop where
  /-- Each call reads the version at most three times, and tries to move it at most once for each
  time that it read it. -/
  pace : ∀ i, KeepsPace versionId (system.scene.ofTask i)
  /-- Unless the store fails it, a call moves the version or finds it there already, or there is no
  such version, or its status cannot become the other one. -/
  concluded : ∀ i agent command next outcome, command.moves? = some (versionId, next) →
    system.tasks[i]? = some ⟨agent, command, .done outcome⟩ →
      (∀ e ∈ system.scene.ofTask i, ∀ failure, ¬e.Fails failure) →
        (∃ version, outcome = .ok (.version version) ∧ version.id = versionId ∧
            version.status = next) ∨
          outcome = .error (.versionNotFound versionId) ∨
            ∃ status : Status, status ≠ next ∧ status.canBecome next = false ∧
              outcome = .error (.invalidTransition status.name next.name)
  /-- Even then it does not fail for want of attempts. -/
  unrelenting : ∀ (i agent : Nat) (command : Command) (next : Status) (id : String)
    (status : Status), command.moves? = some (versionId, next) →
      system.tasks[i]? ≠ some ⟨agent, command, .done (.error (.other (.keptChanging id status)))⟩
  /-- It is over some day, whatever the others do. -/
  ends : ∀ i, i < system.tasks.length → system.Ends i

/-- Whatever the store holds at first, and whatever calls are made in whatever order. -/
theorem System.isResolute_run (store : Store) (ids : Ids) (clock : Nat → Timestamp)
    (capacity : Nat → Nat) (versionId : String) (actions : List Action) :
    ((start store ids clock capacity).run actions).IsResolute versionId := by
  have hbrisk : (start store ids clock capacity).scene.IsBrisk versionId :=
    ⟨⟨rfl, rfl⟩, fun _ => ⟨Nat.zero_le _, le_rfl⟩⟩
  have hkept := Pact.kept_run (begins_patience versionId) (Pact.kept_start hbrisk) actions
  constructor
  · exact hkept.holds.pace
  · intro i agent command next outcome hmoves htask hcarried
    obtain ⟨moving, rfl, hconcludes⟩ := hkept.returned htask next hmoves
    cases hconcludes with
    | moved hid hstatus => exact Or.inl ⟨_, rfl, hid, hstatus⟩
    | missing => exact Or.inr (Or.inl rfl)
    | refused hother hcannot => exact Or.inr (Or.inr ⟨_, hother, hcannot, rfl⟩)
    | failed he hfails => exact absurd hfails (hcarried _ he _)
  · intro i agent command next id status hmoves htask
    obtain ⟨moving, heq, hconcludes⟩ := hkept.returned htask next hmoves
    cases hconcludes with
    | failed he hfails hother =>
      cases heq
      exact hother id status rfl
    | _ => cases heq
  · exact fun i => ends_of_lt

end KnowledgeSchema
