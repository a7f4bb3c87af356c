import KnowledgeSchema.Proofs.Lifecycle.Account

/-!
# Moving a version among others

A call that moves a version reads it, works out the moved version, and has it stored unless the
status is another one by then. Whatever others do in between, it upholds the pact. What it worked
out from an earlier read is stored only when the row is still the one that was read.
-/

namespace KnowledgeSchema

variable {versionId target : String} {next : Status} {caller : Caller} {scene : Scene}

/-- The account of a call that goes on looking for its version in a status to move it from. -/
def Searching (versionId : String) (own : List Exchange) : Prop :=
  ∀ e ∈ own, e.IsIdle versionId ∧ ¬e.FindsTarget versionId

/-- A call that is over has told of its change, and the version it gives back was stored while it
was under way. -/
structure Ended (versionId target : String) (outcome : Except Failure Version)
    (own : List Exchange) : Prop where
  settled : own.filterMap (·.announcement? versionId) = own.filterMap (·.change? versionId)
  returned : ∀ version, outcome = .ok version → target = versionId →
    ∃ e ∈ own, e.after.store.row? versionId = some version.toRow

theorem Searching.idle {own : List Exchange} (hsearching : Searching versionId own) :
    ∀ e ∈ own, e.IsIdle versionId :=
  fun e he => (hsearching e he).1

theorem Searching.tally {own : List Exchange} (hsearching : Searching versionId own) :
    Tally versionId own [] [] :=
  .of_idle hsearching.idle fun e he => (hsearching e he).2

theorem not_findsTarget {r : Request}
    (hread : ∀ limit, r ≠ .store (.getVersion versionId) limit) :
    ¬(scene.next caller r).FindsTarget versionId := by
  rintro ⟨-, -, limit, -, hrequest, -, -⟩
  exact hread limit hrequest

theorem upholds_ended_of_idle {outcome : Except Failure Version}
    (hidle : ∀ e ∈ scene.ofTask caller.task, e.IsIdle versionId)
    (hreturned : ∀ version, outcome = .ok version → target = versionId →
      ∃ e ∈ scene.ofTask caller.task, e.after.store.row? versionId = some version.toRow) :
    (lifecyclePact versionId).Upholds caller
      (fun outcome scene => Ended versionId target outcome (scene.ofTask caller.task))
      (.done outcome) scene := by
  refine Pact.upholds_done (Pact.stable_ofTask _ _ (Ended versionId target outcome)) ?_
    fun later _ hended => hended
  refine ⟨?_, hreturned⟩
  rw [changes_of_idle hidle, announcements_of_idle hidle]

/-- The account of a call that has made its change and has yet to tell of it. -/
structure Untold (versionId target : String) (next : Status) (version moved : Version)
    (own : List Exchange) : Prop where
  tally : Tally versionId own (if target = versionId then [(version.status, next)] else []) []
  stored : target = versionId →
    ∃ e ∈ own, e.after.store.row? versionId = some moved.toRow

theorem Untold.concat {version moved : Version} {own : List Exchange} {e : Exchange}
    (huntold : Untold versionId target next version moved own)
    (hundone : ¬e.FindsTarget versionId) (hidle : e.IsIdle versionId) :
    Untold versionId target next version moved (own ++ [e]) where
  tally := huntold.tally.concat_idle hundone hidle
  stored heq := by
    obtain ⟨e, he, hrow⟩ := huntold.stored heq
    exact ⟨e, List.mem_append_left _ he, hrow⟩

theorem length_moves_le (condition : Prop) [Decidable condition] (move : Status × Status) :
    (if condition then [move] else []).length ≤ 1 := by
  split_ifs <;> simp

/-- The announcement itself. Afterwards the call owes nothing. -/
theorem upholds_record {version moved : Version} {time : Timestamp}
    (huntold : Untold versionId target next version moved (scene.ofTask caller.task)) :
    (lifecyclePact versionId).Upholds caller
      (fun outcome scene => Ended versionId target outcome (scene.ofTask caller.task))
      (do
        Operation.record (.statusChanged target version.status next time)
        return moved : Operation Version).run scene := by
  rw [Operation.run_record_bind]
  refine Pact.upholds_request (Pact.stable_ofTask _ _ (Untold versionId target next version moved))
    huntold fun scene horderly huntold => ?_
  have hchange : (scene.next caller
      (.record (.statusChanged target version.status next time))).change? versionId = none :=
    Exchange.change?_of_row?_eq rfl
  have hannouncement : ((scene.next caller
      (.record (.statusChanged target version.status next time))).announcement?
        versionId).toList =
      if target = versionId then [(version.status, next)] else [] := by
    simp only [Scene.next, Exchange.announcement?]
    split_ifs <;> rfl
  have htold := huntold.tally.concat (e := scene.next caller
    (.record (.statusChanged target version.status next time)))
    (not_findsTarget fun _ => Request.noConfusion)
  rw [hchange, hannouncement, Option.toList_none, List.append_nil, List.nil_append] at htold
  refine ⟨.rest _, horderly.exchange horderly.sound
    (htold.account List.prefix_rfl (length_moves_le _ _)), ?_⟩
  refine Pact.upholds_done (Pact.stable_ofTask _ _ (Ended versionId target (.ok moved))) ?_
    fun later _ hended => hended
  rw [Scene.ofTask_exchange_self]
  refine ⟨by rw [htold.changes, htold.announcements], fun version hversion heq => ?_⟩
  cases hversion
  obtain ⟨e, he, hrow⟩ := huntold.stored heq
  exact ⟨e, List.mem_append_left _ he, hrow⟩

theorem upholds_announce {version moved : Version}
    (huntold : Untold versionId target next version moved (scene.ofTask caller.task)) :
    (lifecyclePact versionId).Upholds caller
      (fun outcome scene => Ended versionId target outcome (scene.ofTask caller.task))
      (do
        let time ← Operation.now
        Operation.record (.statusChanged target version.status next time)
        return moved : Operation Version).run scene := by
  rw [Operation.run_now_bind]
  refine Pact.upholds_request (Pact.stable_ofTask _ _ (Untold versionId target next version moved))
    huntold fun scene horderly huntold => ?_
  have hundone : ¬(scene.next caller .now).FindsTarget versionId :=
    not_findsTarget fun _ => Request.noConfusion
  have hidle : (scene.next caller .now).IsIdle versionId :=
    Scene.idle_of_quiet horderly.undisturbed trivial fun _ _ _ => Request.noConfusion
  have hlater := huntold.concat hundone hidle
  obtain ⟨hallows, hholds⟩ := horderly.quiet (r := .now) trivial
    (hlater.tally.account List.nil_prefix (length_moves_le _ _))
  refine ⟨hallows, hholds, upholds_record ?_⟩
  rw [Scene.ofTask_exchange_self]
  exact hlater

abbrev changeRequest (target : String) (version moved : Version) : Request :=
  .store (.updateStatus target version.status moved.status moved.publishedAt) none

/-- The row that was read, or one that it came to be since. -/
def StillThere (versionId target : String) (version : Version) (store : Store) : Prop :=
  target = versionId → version.IsStamped ∧
    ∃ row, store.row? versionId = some row ∧ version.toRow.Reaches row

theorem stable_stillThere (version : Version) (task : Nat) :
    (lifecyclePact versionId).Stable task fun scene =>
      StillThere versionId target version scene.store := by
  rintro before _ ⟨caller, r, -, rfl, hlife, -⟩ hthere heq
  obtain ⟨hstamped, row, hrow, hreaches⟩ := hthere heq
  change VersionRow.Life (before.store.row? versionId)
    ((before.exchange caller r).2.store.row? versionId) at hlife
  rw [hrow] at hlife
  obtain ⟨later, hlater, hfurther⟩ := hlife.reaches
  exact ⟨hstamped, later, hlater, hreaches.trans hfurther⟩

theorem canBecome_irrefl (status : Status) : status.canBecome status = false := by
  cases status <;> rfl

/-- A change of the status, when the store makes it, is one of the row that was read. -/
theorem Scene.IsOrderly.update (horderly : scene.IsOrderly versionId) {version moved : Version}
    {now : Timestamp} (hthere : StillThere versionId target version scene.store)
    (hmoved : version.transition next now = .ok moved)
    (hupdated :
      (scene.store.updateStatus target version.status moved.status moved.publishedAt).2 = true)
    (hafter : (scene.exchange caller
        (changeRequest target version moved)).2.store =
      (scene.store.updateStatus target version.status moved.status moved.publishedAt).1) :
    let e := scene.next caller
      (changeRequest target version moved)
    (lifecyclePact versionId).allows e ∧ e.after.store.IsSound versionId ∧
      (e.change? versionId).toList =
        (if target = versionId then [(version.status, next)] else []) ∧
      (target = versionId → e.after.store.row? versionId = some moved.toRow) := by
  intro e
  have hstore : e.after.store =
    (scene.store.updateStatus target version.status moved.status moved.publishedAt).1 := hafter
  by_cases heq : target = versionId
  · subst heq
    obtain ⟨hstamped, row, hrow, hreaches⟩ := hthere rfl
    obtain ⟨found, hfound, hstatus⟩ :=
      (Store.updateStatus_eq_true horderly.sound.single _ _ _).mp hupdated
    rw [hrow] at hfound
    cases hfound
    -- Statuses never come back, so nothing has happened to the row in between.
    obtain rfl := hreaches.eq_of_status hstatus
    obtain ⟨hcan, -⟩ := Version.transition_eq_ok hmoved
    obtain ⟨hstep, -⟩ := Version.step_of_transition hstamped hmoved
    obtain ⟨hmovedRow, hsound⟩ := horderly.sound.moved hrow hstamped hmoved
    have hnext : moved.toRow.status = next := by
      obtain ⟨-, rfl⟩ := Version.transition_eq_ok hmoved
      rfl
    have hbefore : e.before.store.row? target = some version.toRow := hrow
    have hne : version.toRow.status ≠ next := by
      rintro rfl
      rw [show version.toRow.status = version.status from rfl, canBecome_irrefl] at hcan
      cases hcan
    refine ⟨?_, hstore ▸ hsound, ?_, fun _ => hstore ▸ hmovedRow⟩
    · change VersionRow.Life (e.before.store.row? target) (e.after.store.row? target)
      rw [hbefore, hstore, hmovedRow]
      exact .move hstep
    · rw [Exchange.change?, hbefore, hstore, hmovedRow, if_pos rfl]
      simp only [hnext, if_neg hne]
      rfl
  · have hrow : e.after.store.row? versionId = scene.store.row? versionId := by
      rw [hstore, Store.row?_updateStatus_of_ne heq]
    refine ⟨?_, ?_, ?_, fun hcontra => absurd hcontra heq⟩
    · change VersionRow.Life (scene.store.row? versionId) (e.after.store.row? versionId)
      rw [hrow]
      exact .rest _
    · refine ⟨hstore ▸ horderly.sound.single.updateStatus _ _ _ _, fun row hfound => ?_⟩
      exact horderly.sound.written row (hrow ▸ hfound)
    · rw [Exchange.change?_of_row?_eq hrow, if_neg heq]
      rfl

/-- A change of the status that the store does not make leaves all as it was. -/
theorem Scene.IsOrderly.unchanged (horderly : scene.IsOrderly versionId) {version moved : Version}
    (hidles : ∀ e ∈ scene.ofTask caller.task, e.IsIdle versionId)
    (hstore : (scene.exchange caller (changeRequest target version moved)).2.store = scene.store) :
    (scene.next caller (changeRequest target version moved)).IsIdle versionId ∧
      (lifecyclePact versionId).allows (scene.next caller (changeRequest target version moved)) ∧
      (lifecyclePact versionId).holds
        (scene.exchange caller (changeRequest target version moved)).2 := by
  have hrow := congrArg (Store.row? · versionId) hstore
  have hidle : (scene.next caller (changeRequest target version moved)).IsIdle versionId :=
    ⟨Exchange.change?_of_row?_eq hrow, rfl, fun _ _ => ⟨hstore, rfl⟩⟩
  refine ⟨hidle, ?_, horderly.exchange (hstore ▸ horderly.sound)
    (.of_idle (forall_mem_concat hidles hidle))⟩
  change VersionRow.Life (scene.store.row? versionId)
    ((scene.exchange caller (changeRequest target version moved)).2.store.row? versionId)
  rw [hstore]
  exact .rest _

/-- A change that the store makes is told. One that it does not make is tried again, and one that it
does not answer is given up. -/
theorem upholds_update {version moved : Version} {now : Timestamp}
    {again : Operation Version} (hmoved : version.transition next now = .ok moved)
    (hown : Searching versionId (scene.ofTask caller.task))
    (hthere : StillThere versionId target version scene.store)
    (hagain : ∀ scene, Searching versionId (scene.ofTask caller.task) →
      (lifecyclePact versionId).Upholds caller
        (fun outcome scene => Ended versionId target outcome (scene.ofTask caller.task))
        again.run scene) :
    (lifecyclePact versionId).Upholds caller
      (fun outcome scene => Ended versionId target outcome (scene.ofTask caller.task))
      (.request (changeRequest target version moved) (Operation.proceed fun updated : Bool =>
        if updated then do
          let time ← Operation.now
          Operation.record (.statusChanged target version.status next time)
          return moved
        else again))
      scene := by
  refine Pact.upholds_request
    ((Pact.stable_ofTask _ _ (Searching versionId)).and (stable_stillThere version _))
    ⟨hown, hthere⟩ fun scene horderly hown => ?_
  obtain ⟨hown, hthere⟩ := hown
  have hundone : ¬(scene.next caller (changeRequest target version moved)).FindsTarget versionId :=
    not_findsTarget fun _ => by simp
  rcases Scene.exchange_store horderly.undisturbed caller
      (.updateStatus target version.status moved.status moved.publishedAt) none with
    ⟨hanswer, hafter⟩ | ⟨hanswer, hafter⟩
  · rw [hanswer]
    cases hupdated : (scene.store.updateStatus target version.status moved.status
        moved.publishedAt).2 with
    | true =>
      obtain ⟨hallows, hsound, hchange, hreturned⟩ := horderly.update hthere hmoved hupdated
        (congrArg World.store hafter)
      have htally := hown.tally.concat hundone
      rw [hchange, List.nil_append] at htally
      have haccount := htally.account List.nil_prefix (length_moves_le _ _)
      refine ⟨hallows, horderly.exchange hsound haccount, ?_⟩
      simp only [Store.run, hupdated, if_true, Operation.proceed]
      apply upholds_announce
      rw [Scene.ofTask_exchange_self]
      refine ⟨htally, fun heq => ?_⟩
      exact ⟨_, List.mem_append_right _ (List.mem_singleton_self _), hreturned heq⟩
    | false =>
      -- Without a change in the store the search goes on, or ends without a result.
      obtain ⟨hidle, hallows, hholds⟩ := horderly.unchanged hown.idle
        ((congrArg World.store hafter).trans (Store.updateStatus_of_not hupdated))
      refine ⟨hallows, hholds, ?_⟩
      simp only [Store.run, hupdated, Bool.false_eq_true, if_false, Operation.proceed]
      apply hagain _
      rw [Scene.ofTask_exchange_self]
      exact forall_mem_concat hown ⟨hidle, hundone⟩
  · rw [hanswer]
    obtain ⟨hidle, hallows, hholds⟩ := horderly.unchanged hown.idle (congrArg World.store hafter)
    refine ⟨hallows, hholds, upholds_ended_of_idle ?_ (by rintro _ ⟨⟩)⟩
    rw [Scene.ofTask_exchange_self]
    exact forall_mem_concat hown.idle hidle

theorem upholds_try {version : Version} {again : Operation Version} (hid : version.id = target)
    (hown : Searching versionId (scene.ofTask caller.task))
    (hthere : StillThere versionId target version scene.store)
    (hagain : ∀ scene, Searching versionId (scene.ofTask caller.task) →
      (lifecyclePact versionId).Upholds caller
        (fun outcome scene => Ended versionId target outcome (scene.ofTask caller.task))
        again.run scene) :
    (lifecyclePact versionId).Upholds caller
      (fun outcome scene => Ended versionId target outcome (scene.ofTask caller.task))
      (do
        let moved ← version.transition next (← Operation.now)
        if ← Operation.call
            (.updateStatus version.id version.status moved.status moved.publishedAt) then
          Operation.record (.statusChanged version.id version.status next (← Operation.now))
          return moved
        else again : Operation Version).run
      scene := by
  rw [Operation.run_now_bind]
  refine Pact.upholds_request
    ((Pact.stable_ofTask _ _ (Searching versionId)).and (stable_stillThere version _))
    ⟨hown, hthere⟩ fun scene horderly hown => ?_
  obtain ⟨hown, hthere⟩ := hown
  have hidle : (scene.next caller .now).IsIdle versionId :=
    Scene.idle_of_quiet horderly.undisturbed trivial fun _ _ _ => Request.noConfusion
  have hundone : ¬(scene.next caller .now).FindsTarget versionId :=
    not_findsTarget fun _ => Request.noConfusion
  obtain ⟨hallows, hholds⟩ := horderly.quiet (r := .now) trivial
    (.of_idle (forall_mem_concat hown.idle hidle))
  refine ⟨hallows, hholds, ?_⟩
  generalize (Scene.exchange scene caller Request.now).1 = time
  have hsearching : Searching versionId ((scene.exchange caller .now).2.ofTask caller.task) := by
    rw [Scene.ofTask_exchange_self]
    exact forall_mem_concat hown ⟨hidle, hundone⟩
  rw [Operation.run_lift_bind]
  cases hmoved : version.transition next time with
  | error failure => exact upholds_ended_of_idle hsearching.idle (by rintro _ ⟨⟩)
  | ok moved =>
    rw [Operation.proceed, hid, Operation.run_call_bind]
    refine upholds_update hmoved hsearching ?_ hagain
    exact hthere

/-- The version that was read has not reached the status that the call is to move it to. -/
theorem not_findsTarget_of_row? {row : VersionRow}
    (hcommand : caller.command.moves? = some (target, next))
    (hrow : scene.store.row? target = some row) (hother : row.status ≠ next) :
    ¬(scene.next caller (.store (.getVersion target) none)).FindsTarget versionId := by
  rintro ⟨goal, found, -, hgoal, -, hfound, hreached⟩
  change caller.command.moves? = some (versionId, goal) at hgoal
  change scene.store.row? versionId = some found at hfound
  rw [hcommand] at hgoal
  cases hgoal
  rw [hrow] at hfound
  cases hfound
  exact hother hreached

theorem Scene.IsOrderly.stillThere (horderly : scene.IsOrderly versionId) {version : Version}
    (hread : scene.store.version? target = .ok (some version)) :
    StillThere versionId target version scene.store := by
  rintro rfl
  obtain ⟨hrow, hstamped⟩ := horderly.sound.row?_of_version? hread
  exact ⟨hstamped, version.toRow, hrow, .refl⟩

theorem upholds_moveTo (hcommand : caller.command.moves? = some (target, next)) (attempts : Nat)
    (hown : Searching versionId (scene.ofTask caller.task)) :
    (lifecyclePact versionId).Upholds caller
      (fun outcome scene => Ended versionId target outcome (scene.ofTask caller.task))
      (Operation.moveTo target next attempts).run scene := by
  induction attempts generalizing scene with
  | zero => exact upholds_ended_of_idle hown.idle (by rintro _ ⟨⟩)
  | succ attempts ih =>
    rw [Operation.moveTo, Operation.run_call_bind]
    refine Pact.upholds_request (Pact.stable_ofTask _ _ (Searching versionId)) hown
      fun scene horderly hown => ?_
    have hquiet : (Request.store (.getVersion target) none).IsQuiet := rfl
    have hidle : (scene.next caller (.store (.getVersion target) none)).IsIdle versionId :=
      Scene.idle_of_quiet horderly.undisturbed hquiet fun _ _ _ => Request.noConfusion
    have hstore := Scene.store_exchange_of_quiet horderly.undisturbed caller hquiet
    obtain ⟨hallows, hholds⟩ := horderly.quiet hquiet
      (.of_idle (forall_mem_concat hown.idle hidle))
    refine ⟨hallows, hholds, ?_⟩
    have hidles : ∀ e ∈ (scene.exchange caller (.store (.getVersion target) none)).2.ofTask
        caller.task, e.IsIdle versionId := by
      rw [Scene.ofTask_exchange_self]
      exact forall_mem_concat hown.idle hidle
    rcases Scene.exchange_store horderly.undisturbed caller (.getVersion target) none with
      ⟨hanswer, -⟩ | ⟨hanswer, -⟩
    · rw [hanswer]
      change (lifecyclePact versionId).Upholds _ _
        (Operation.proceed _ (scene.store.version? target)) _
      cases hread : scene.store.version? target with
      | error failure => exact upholds_ended_of_idle hidles (by rintro _ ⟨⟩)
      | ok version? =>
        cases version? with
        | none => exact upholds_ended_of_idle hidles (by rintro _ ⟨⟩)
        | some version =>
          obtain ⟨row, hrow, hversion⟩ := Store.version?_eq_some hread
          simp only [Operation.proceed]
          split_ifs with hstatus
          · apply upholds_ended_of_idle hidles
            rintro _ ⟨⟩ rfl
            rw [Scene.ofTask_exchange_self]
            refine ⟨_, List.mem_append_right _ (List.mem_singleton_self _), ?_⟩
            exact (congrArg (Store.row? · target) hstore).trans
              (horderly.sound.row?_of_version? hread).1
          · obtain ⟨hid, -, -, hsame⟩ := VersionRow.eq_of_toVersion hversion
            have hundone : ¬(scene.next caller (.store (.getVersion target) none)).FindsTarget
                versionId :=
              not_findsTarget_of_row? hcommand hrow fun hreached => hstatus (hsame.trans hreached)
            refine upholds_try (hid.trans (Store.row?_id hrow)) ?_ ?_ fun scene hown => ih hown
            · rw [Scene.ofTask_exchange_self]
              exact forall_mem_concat hown ⟨hidle, hundone⟩
            · rw [hstore]
              exact horderly.stillThere hread
    · rw [hanswer]
      exact upholds_ended_of_idle hidles (by rintro _ ⟨⟩)

end KnowledgeSchema
