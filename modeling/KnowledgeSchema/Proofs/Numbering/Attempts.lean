import KnowledgeSchema.Proofs.Concurrent.Endings
import KnowledgeSchema.Proofs.Numbering.Allotment
import KnowledgeSchema.Proofs.Program.Relays

/-!
# Attempts at a number

A call that creates a draft tries five numbers. Each of them is free when it is worked out, so when
it is taken at the insertion, a rival has come in between.
-/

namespace KnowledgeSchema

namespace Command

/-- The blueprint that gets the draft. To a fork it is known from its look at the source. -/
def Targets (command : Command) (own : List Exchange) (blueprintId : String) : Prop :=
  match command with
  | .createDraft owner => owner = blueprintId
  | .forkDraft sourceId => ∃ e ∈ own, e.request = .store (.getVersion sourceId) none ∧
    ∃ row, e.before.store.row? sourceId = some row ∧ row.blueprintId = blueprintId
  | _ => False

theorem Targets.mono {command : Command} {own later : List Exchange} {blueprintId : String}
    (htargets : command.Targets own blueprintId) (hsubset : own ⊆ later) :
    command.Targets later blueprintId := by
  cases command with
  | createDraft owner => exact htargets
  | forkDraft sourceId =>
    obtain ⟨e, he, hfound⟩ := htargets
    exact ⟨e, hsubset he, hfound⟩
  | _ => exact htargets.elim

end Command

/-! ### Numbers after the last look -/

/-- The last look that a call took at the highest number of a blueprint. -/
def LooksLast (blueprintId : String) (own : List Exchange) (look : Exchange) : Prop :=
  look.request = .store (.maxNumber blueprintId) none ∧
    ∃ earlier rest, own = earlier ++ look :: rest ∧
      ∀ e ∈ rest, ∀ id limit, e.request ≠ .store (.maxNumber id) limit

theorem LooksLast.concat {blueprintId : String} {own : List Exchange} {look e : Exchange}
    (hlooks : LooksLast blueprintId own look)
    (hother : ∀ id limit, e.request ≠ .store (.maxNumber id) limit) :
    LooksLast blueprintId (own ++ [e]) look := by
  obtain ⟨hrequest, earlier, rest, rfl, hrest⟩ := hlooks
  refine ⟨hrequest, earlier, rest ++ [e], by simp, fun each heach => ?_⟩
  rcases List.mem_append.mp heach with heach | heach
  · exact hrest each heach
  · exact List.mem_singleton.mp heach ▸ hother

/-- The number that a call works out from the highest one. -/
def nextOf (highest? : Option Int64) : Int64 :=
  highest?.elim 1 (· + 1)

theorem nextNumber_eq (blueprintId : String) :
    Operation.nextNumber blueprintId = nextOf <$> Operation.call (.maxNumber blueprintId) := by
  rw [Operation.nextNumber, map_eq_pure_bind]
  apply bind_congr
  rintro (_ | number) <;> rfl

theorem toInt_nextOf {highest? : Option Int64} (hpositive : 0 < nextOf highest?) :
    (nextOf highest?).toInt = highest?.elim 0 Int64.toInt + 1 := by
  cases highest? with
  | none => rfl
  | some highest => exact toInt_add_one_of_pos hpositive

/-- A number that comes after the highest one is free. -/
theorem Store.free_nextOf {store : Store} {blueprintId : String}
    (hpositive : 0 < nextOf (store.maxNumber? blueprintId)) (id : String) :
    (id, blueprintId, nextOf (store.maxNumber? blueprintId)) ∉ store.keys := by
  intro htaken
  obtain ⟨row, hrow, hkey⟩ := List.mem_map.mp htaken
  obtain ⟨-, hblueprint, hnumber⟩ : row.id = id ∧ row.blueprintId = blueprintId ∧
      row.number = nextOf (store.maxNumber? blueprintId) := by simpa using hkey
  have hmem : row.number ∈ (store.versionsOf blueprintId).map (·.number) :=
    List.mem_map_of_mem (mem_versionsOf.mpr ⟨hrow, hblueprint⟩)
  have hnext := toInt_nextOf hpositive
  cases hmax : store.maxNumber? blueprintId with
  | none =>
    rw [maxNumber?, List.max?_eq_none_iff] at hmax
    rw [hmax] at hmem
    cases hmem
  | some highest =>
    rw [← hnumber, hmax, Option.elim_some] at hnext
    rw [maxNumber?, List.max?_eq_some_iff] at hmax
    have hle := hmax.2 row.number hmem
    rw [Int64.le_iff_toInt_le] at hle
    omega

/-! ### How a call that creates a draft ends -/

/-- A draft that a call inserted, with the number after the highest one at its last look. -/
structure Inserted (command : Command) (own : List Exchange) (version : Version) : Prop where
  target : command.Targets own version.blueprintId
  inserted : ∃ e ∈ own, e.after.store.versions = e.before.store.versions ++ [version.toRow]
  number : ∃ look, LooksLast version.blueprintId own look ∧ version.number.toInt =
    (look.before.store.maxNumber? version.blueprintId).elim 0 Int64.toInt + 1

/-- What a call was told that there is not. -/
inductive Misses (command : Command) (own : List Exchange) : Failure → Prop
  | blueprint {blueprintId : String} {e : Exchange} (htarget : command.Targets own blueprintId)
    (he : e ∈ own) (hrequest : e.request = .store (.getBlueprint blueprintId) none)
    (hmissing : e.before.store.blueprint? blueprintId = .ok none) :
    Misses command own (.blueprintNotFound blueprintId)
  | source {sourceId : String} {e : Exchange} (hcommand : command = .forkDraft sourceId)
    (he : e ∈ own) (hrequest : e.request = .store (.getVersion sourceId) none)
    (hmissing : e.before.store.version? sourceId = .ok none) :
    Misses command own (.versionNotFound sourceId)

inductive Drafts (caller : Caller) (own span : List Exchange) : Except Failure Version → Prop
  | inserted {version : Version} (hinserted : Inserted caller.command own version) :
    Drafts caller own span (.ok version)
  | missed {failure : Failure} (hmisses : Misses caller.command own failure) :
    Drafts caller own span (.error failure)
  | outrun {blueprintId : String} {number : Int64}
    (htarget : caller.command.Targets own blueprintId)
    (hrivals : Operation.createAttempts ≤ span.countP (·.rivals caller.task blueprintId)) :
    Drafts caller own span (.error (.versionConflict blueprintId number))
  | failed {e : Exchange} {failure : Failure} (he : e ∈ own) (hfails : e.Fails failure)
    (hother : ∀ blueprintId number, failure ≠ .versionConflict blueprintId number) :
    Drafts caller own span (.error failure)

theorem Inserted.concat {command : Command} {own : List Exchange} {version : Version}
    {e : Exchange} (hinserted : Inserted command own version)
    (hother : ∀ id limit, e.request ≠ .store (.maxNumber id) limit) :
    Inserted command (own ++ [e]) version where
  target := hinserted.target.mono (List.subset_append_left _ _)
  inserted := by
    obtain ⟨inserting, hmem, hversions⟩ := hinserted.inserted
    exact ⟨inserting, List.mem_append_left _ hmem, hversions⟩
  number := by
    obtain ⟨look, hlooks, hnumber⟩ := hinserted.number
    exact ⟨look, hlooks.concat hother, hnumber⟩

theorem Store.Refuses.ne_versionConflict {store : Store} {call : Call} {failure : Failure}
    (hrefuses : store.Refuses call failure) (hcall : call.inserted? = none) (blueprintId : String)
    (number : Int64) : failure ≠ .versionConflict blueprintId number := by
  cases hrefuses with
  | unreadable hunreadable =>
    rintro rfl
    exact hunreadable
  | conflict hinserted =>
    rw [hcall] at hinserted
    cases hinserted
  | _ => simp

/-! ### Programs -/

section Programs

variable {ids : Ids} {scene : Scene} {caller : Caller} {α : Type}

def Scene.HasDrafted (caller : Caller) (outcome : Except Failure Version) (scene : Scene) : Prop :=
  Drafts caller (scene.ofTask caller.task) (scene.span caller.task) outcome

/-- A call knows the blueprint and the id of the version that it is to insert. -/
def Scene.IsReady (caller : Caller) (id blueprintId : String) (scene : Scene) : Prop :=
  caller.command.Targets (scene.ofTask caller.task) blueprintId ∧ scene.HasSpare caller.task id

theorem stable_isReady (id blueprintId : String) :
    (allotmentPact ids).Stable caller.task (Scene.IsReady caller id blueprintId) :=
  (Pact.stable_ofTask _ _ (caller.command.Targets · blueprintId)).and (stable_hasSpare id)

theorem Scene.IsReady.quiet {id blueprintId : String} {r : Request}
    (hready : scene.IsReady caller id blueprintId) (hallotted : scene.IsAllotted ids)
    (hquiet : r.IsQuiet) : (scene.exchange caller r).2.IsReady caller id blueprintId := by
  obtain ⟨htargets, hhanded, hspare⟩ := hready
  have hstore := store_exchange_of_quiet hallotted.issue.undisturbed caller hquiet
  refine ⟨?_, handedTo_subset hhanded, hstore ▸ hspare⟩
  rw [ofTask_exchange_self]
  exact htargets.mono (List.subset_append_left _ _)

theorem drafts_over {outcome : Except Failure Version}
    (hdrafted : scene.HasDrafted caller outcome) :
    (allotmentPact ids).Upholds caller (Scene.HasDrafted caller) (.done outcome) scene :=
  Pact.upholds_done (stable_span ids caller.task fun own span => Drafts caller own span outcome)
    hdrafted fun _ _ hlater => hlater

theorem Scene.mem_ofTask_exchange (scene : Scene) (caller : Caller) (r : Request) :
    scene.next caller r ∈ (scene.exchange caller r).2.ofTask caller.task := by
  simp

/-- A call that asks for no insertion fails for another reason than a conflict. -/
theorem drafts_failed {call : Store.Call} {limit : Option Nat} {failure : Failure}
    (hallotted : scene.IsAllotted ids) (hcall : call.inserted? = none)
    (hanswer : (scene.exchange caller (.store call limit)).1 = .error failure) :
    (allotmentPact ids).Upholds caller (Scene.HasDrafted caller) (.done (.error failure))
      (scene.exchange caller (.store call limit)).2 :=
  drafts_over (.failed (scene.mem_ofTask_exchange caller _) ⟨call, limit, rfl, hanswer⟩
    ((Scene.refuses hallotted.issue.undisturbed hanswer).ne_versionConflict hcall))

theorem inserted?_of_quiet {call : Store.Call} {limit : Option Nat}
    (hquiet : (Request.store call limit).IsQuiet) : call.inserted? = none := by
  cases call with
  | insertVersion | insertVersionWith => cases hquiet
  | _ => rfl

/-- What only reads comes to a value, or to the failure of a call that asked for no insertion. -/
theorem drafts_relayed {operation : Operation α} {next : α → Operation Version}
    {id blueprintId : String} (hinjective : Function.Injective ids)
    (hrelays : operation.Relays Request.IsQuiet) (hready : scene.IsReady caller id blueprintId)
    (hnext : ∀ value scene, scene.IsReady caller id blueprintId →
      (allotmentPact ids).Upholds caller (Scene.HasDrafted caller) (next value).run scene) :
    (allotmentPact ids).Upholds caller (Scene.HasDrafted caller) (operation >>= next).run
      scene := by
  rw [Operation.relays_iff] at hrelays
  rw [Operation.run_bind]
  generalize operation.run = program at hrelays
  induction program generalizing scene with
  | done outcome =>
    obtain ⟨value, rfl⟩ := hrelays
    exact hnext value scene hready
  | request r further ih =>
    obtain ⟨hquiet, hrest⟩ := hrelays
    refine Pact.upholds_request (stable_isReady id blueprintId) hready
      fun scene hallotted hready => ?_
    obtain ⟨hallows, hholds⟩ := hallotted.quiet hinjective caller hquiet
    refine ⟨hallows, hholds, ?_⟩
    cases hfailure : r.failure? (scene.exchange caller r).1 with
    | none => exact ih _ (hready.quiet hallotted hquiet) ((hrest _).2 hfailure)
    | some failure =>
      rw [(hrest _).1 failure hfailure]
      cases r with
      | store call limit =>
        cases hanswer : (scene.exchange caller (.store call limit)).1 with
        | ok value =>
          rw [hanswer] at hfailure
          cases hfailure
        | error other =>
          rw [hanswer] at hfailure
          cases hfailure
          exact drafts_failed hallotted (inserted?_of_quiet hquiet) hanswer
      | _ => cases hfailure

/-- A call goes on with what the store answers a question with, or else fails. -/
theorem drafts_call {call : Store.Call} {next : call.Result → Operation Version}
    {assertion : Scene → Prop} (hinjective : Function.Injective ids)
    (hquiet : (Request.store call none).IsQuiet)
    (hstable : (allotmentPact ids).Stable caller.task assertion) (hassertion : assertion scene)
    (hnext : ∀ value scene, scene.IsAllotted ids → assertion scene →
      (scene.store.run call).1 = .ok value →
      (allotmentPact ids).Upholds caller (Scene.HasDrafted caller) (next value).run
        (scene.exchange caller (.store call none)).2) :
    (allotmentPact ids).Upholds caller (Scene.HasDrafted caller)
      (Operation.call call >>= next).run scene := by
  rw [Operation.run_call_bind]
  refine Pact.upholds_request hstable hassertion fun scene hallotted hassertion => ?_
  obtain ⟨hallows, hholds⟩ := hallotted.quiet hinjective caller hquiet
  refine ⟨hallows, hholds, ?_⟩
  cases hanswer : (scene.exchange caller (.store call none)).1 with
  | error failure => exact drafts_failed hallotted (inserted?_of_quiet hquiet) hanswer
  | ok value =>
    exact hnext value scene hallotted hassertion
      (Scene.exchange_eq_ok hallotted.issue.undisturbed hanswer).1

theorem drafts_told {version : Version} {event : Timestamp → Event}
    (hinjective : Function.Injective ids)
    (hinserted : Inserted caller.command (scene.ofTask caller.task) version)
    (hevent : ∀ time, (Request.record (event time)).IsQuiet) :
    (allotmentPact ids).Upholds caller (Scene.HasDrafted caller)
      (do
        Operation.record (event (← Operation.now))
        return version : Operation Version).run scene := by
  have hstable := Pact.stable_ofTask (allotmentPact ids) caller.task
    fun own => Inserted caller.command own version
  have hstep : ∀ (scene : Scene) (r : Request), r.IsQuiet → (∀ call limit, r ≠ .store call limit) →
      scene.IsAllotted ids → Inserted caller.command (scene.ofTask caller.task) version →
      ((allotmentPact ids).allows (scene.next caller r) ∧
        (allotmentPact ids).holds (scene.exchange caller r).2) ∧
        Inserted caller.command ((scene.exchange caller r).2.ofTask caller.task) version := by
    intro scene r hquiet hother hallotted hinserted
    refine ⟨hallotted.quiet hinjective caller hquiet, ?_⟩
    rw [Scene.ofTask_exchange_self]
    exact hinserted.concat fun id limit => hother _ limit
  rw [Operation.run_now_bind]
  refine Pact.upholds_request hstable hinserted fun scene hallotted hinserted => ?_
  obtain ⟨⟨hallows, hholds⟩, hinserted⟩ :=
    hstep scene .now trivial (fun _ _ => Request.noConfusion) hallotted hinserted
  refine ⟨hallows, hholds, ?_⟩
  rw [Operation.run_record_bind]
  refine Pact.upholds_request hstable hinserted fun scene hallotted hinserted => ?_
  obtain ⟨⟨hallows, hholds⟩, hinserted⟩ :=
    hstep scene (.record (event _)) (hevent _) (fun _ _ => Request.noConfusion) hallotted hinserted
  exact ⟨hallows, hholds, drafts_over (.inserted hinserted)⟩

/-- A call has worked out a number from its last look. -/
def HasLooked (blueprintId : String) (number : Int64) (own : List Exchange) : Prop :=
  ∃ look, LooksLast blueprintId own look ∧
    number = nextOf (look.before.store.maxNumber? blueprintId)

/-- An insertion that meets a conflict has met one more rival. -/
theorem drafts_insertion {version : Version} {call : Store.Call} {count : Nat}
    {next : Except Failure call.Result → Program (Except Failure Version)}
    (hinjective : Function.Injective ids) (hcall : call.inserted? = some version)
    (hready : scene.IsReady caller version.id version.blueprintId)
    (hpressed : scene.IsPressed caller.task version.blueprintId version.number count)
    (hlooked : HasLooked version.blueprintId version.number (scene.ofTask caller.task))
    (hsuccess : ∀ result scene, Inserted caller.command (scene.ofTask caller.task) version →
      (allotmentPact ids).Upholds caller (Scene.HasDrafted caller) (next (.ok result)) scene)
    (hconflict : ∀ scene, scene.IsReady caller version.id version.blueprintId →
      count < (scene.span caller.task).countP (·.rivals caller.task version.blueprintId) →
      (allotmentPact ids).Upholds caller (Scene.HasDrafted caller)
        (next (.error (.versionConflict version.blueprintId version.number))) scene)
    (hfailure : ∀ failure scene, (∀ owner number, failure ≠ .versionConflict owner number) →
      scene.HasDrafted caller (.error failure) →
      (allotmentPact ids).Upholds caller (Scene.HasDrafted caller) (next (.error failure)) scene) :
    (allotmentPact ids).Upholds caller (Scene.HasDrafted caller) (.request (.store call none) next)
      scene := by
  have hstable : (allotmentPact ids).Stable caller.task fun scene =>
      scene.IsReady caller version.id version.blueprintId ∧
        scene.IsPressed caller.task version.blueprintId version.number count ∧
          HasLooked version.blueprintId version.number (scene.ofTask caller.task) :=
    (stable_isReady _ _).and ((stable_isPressed _ _ _).and
      (Pact.stable_ofTask _ _ (HasLooked version.blueprintId version.number)))
  refine Pact.upholds_request hstable ⟨hready, hpressed, hlooked⟩ ?_
  rintro scene hallotted ⟨⟨htargets, hhanded, hspare⟩, ⟨-, -, hpressed⟩, look, hlooks, hnumber⟩
  let r : Request := .store call none
  have hkept : (allotmentPact ids).allows (scene.next caller r) ∧
      (allotmentPact ids).holds (scene.exchange caller r).2 :=
    hallotted.inserts hinjective hcall hhanded
  refine ⟨hkept.1, hkept.2, ?_⟩
  have hmine := scene.mem_ofTask_exchange caller r
  have htargets : caller.command.Targets ((scene.exchange caller r).2.ofTask caller.task)
      version.blueprintId := by
    rw [Scene.ofTask_exchange_self]
    exact htargets.mono (List.subset_append_left _ _)
  rcases Scene.inserted_exchange hallotted.issue.undisturbed caller none hcall with
    ⟨result, hanswer, hpositive, hversions⟩ | ⟨failure, hanswer, hsame⟩
  · rw [hanswer]
    refine hsuccess result _ ⟨htargets, ⟨_, hmine, hversions⟩, look, ?_, ?_⟩
    · rw [Scene.ofTask_exchange_self]
      refine hlooks.concat fun id limit hrequest => ?_
      obtain ⟨rfl, -⟩ := Request.store.inj hrequest
      cases hcall
    · rw [hnumber] at hpositive ⊢
      exact toInt_nextOf hpositive
  · rw [hanswer]
    by_cases hother : ∀ owner number, failure ≠ .versionConflict owner number
    · exact hfailure failure _ hother (.failed hmine ⟨call, none, rfl, hanswer⟩ hother)
    · cases Scene.refuses hallotted.issue.undisturbed hanswer with
      | conflict hinserted hpositive htaken =>
        cases hcall.symm.trans hinserted
        apply hconflict
        · exact ⟨htargets, Scene.handedTo_subset hhanded, hsame ▸ hspare⟩
        · rw [Scene.span_eq_since_of_self, Scene.countP_since_exchange_self]
          exact hpressed hpositive ((Store.isTaken_iff.mp htaken).resolve_left hspare)
      | unavailable => exact absurd (by simp) hother
      | unreadable hunreadable => exact absurd (by rintro _ _ rfl; exact hunreadable) hother
      | secondProfile => exact absurd (by simp) hother

theorem drafts_tryInsert {version : Version} {forkedFrom : Option String}
    {set? : Option DefinitionSet} {again : String → Int64 → Operation Version} {count : Nat}
    (hinjective : Function.Injective ids)
    (hready : scene.IsReady caller version.id version.blueprintId)
    (hpressed : scene.IsPressed caller.task version.blueprintId version.number count)
    (hlooked : HasLooked version.blueprintId version.number (scene.ofTask caller.task))
    (hagain : ∀ scene, scene.IsReady caller version.id version.blueprintId →
      count < (scene.span caller.task).countP (·.rivals caller.task version.blueprintId) →
      (allotmentPact ids).Upholds caller (Scene.HasDrafted caller)
        (again version.blueprintId version.number).run scene) :
    (allotmentPact ids).Upholds caller (Scene.HasDrafted caller)
      (do
        match ← Operation.tryInsert version set? with
        | .ok () =>
          Operation.record
            (.versionCreated version.blueprintId version.id version.number forkedFrom
              (← Operation.now))
          return version
        | .error (.versionConflict owner number) => again owner number
        | .error failure => throw failure : Operation Version).run
      scene := by
  have hfailure : ∀ (failure : Failure) (scene : Scene),
      (∀ owner number, failure ≠ .versionConflict owner number) →
      scene.HasDrafted caller (.error failure) →
      (allotmentPact ids).Upholds caller (Scene.HasDrafted caller)
        (match (.error failure : Except Failure Unit) with
        | .ok () => (do
          Operation.record
            (.versionCreated version.blueprintId version.id version.number forkedFrom
              (← Operation.now))
          return version : Operation Version)
        | .error (.versionConflict owner number) => again owner number
        | .error failure => throw failure).run scene := by
    intro failure scene hother hdrafted
    cases failure with
    | versionConflict owner number => exact absurd rfl (hother owner number)
    | _ => exact drafts_over hdrafted
  cases set? with
  | none =>
    rw [Operation.tryInsert, Operation.run_attempt_bind]
    exact drafts_insertion hinjective rfl hready hpressed hlooked
      (fun _ _ hinserted => drafts_told hinjective hinserted fun _ => trivial) hagain hfailure
  | some set =>
    rw [Operation.tryInsert, Operation.run_attempt_bind]
    exact drafts_insertion hinjective rfl hready hpressed hlooked
      (fun _ _ hinserted => drafts_told hinjective hinserted fun _ => trivial) hagain hfailure

/-- Each attempt that is used up was outrun by another rival. -/
theorem drafts_claimNumber {version : Version} {forkedFrom : Option String}
    {set? : Option DefinitionSet} (hinjective : Function.Injective ids) {attempts : Nat}
    {conflict : Failure} (hready : scene.IsReady caller version.id version.blueprintId)
    (hrivals : Operation.createAttempts ≤ attempts +
      (scene.span caller.task).countP (·.rivals caller.task version.blueprintId))
    (hconflict : attempts = 0 → ∃ number, conflict = .versionConflict version.blueprintId number) :
    (allotmentPact ids).Upholds caller (Scene.HasDrafted caller)
      (Operation.claimNumber version forkedFrom set? attempts conflict).run scene := by
  induction attempts generalizing version conflict scene with
  | zero =>
    obtain ⟨number, rfl⟩ := hconflict rfl
    rw [Nat.zero_add] at hrivals
    exact drafts_over (.outrun hready.1 hrivals)
  | succ attempts ih =>
    rw [Operation.claimNumber, nextNumber_eq, bind_map_left]
    refine drafts_call hinjective rfl ((stable_isReady version.id version.blueprintId).and
      (stable_span ids caller.task fun _ span => Operation.createAttempts ≤ attempts + 1 +
        span.countP (·.rivals caller.task version.blueprintId))) ⟨hready, hrivals⟩ ?_
    rintro highest? scene hallotted ⟨hready, hrivals⟩ hread
    obtain rfl : scene.store.maxNumber? version.blueprintId = highest? := Except.ok.inj hread
    let r : Request := .store (.maxNumber version.blueprintId) none
    have hquiet : r.IsQuiet := rfl
    have hstore : (scene.exchange caller r).2.store = scene.store :=
      Scene.store_exchange_of_quiet hallotted.issue.undisturbed caller hquiet
    have hpressed : (scene.exchange caller r).2.IsPressed caller.task version.blueprintId
        (nextOf (scene.store.maxNumber? version.blueprintId))
        ((scene.span caller.task).countP (·.rivals caller.task version.blueprintId)) := by
      refine ⟨?_, ?_, fun hpositive htaken => ?_⟩
      · simp [Scene.since_exchange_self]
      · rw [Scene.countP_since_exchange_self]
        exact Scene.countP_span_le version.blueprintId
      · obtain ⟨id, htaken⟩ := htaken
        exact absurd (hstore ▸ htaken) (Store.free_nextOf hpositive id)
    have hlooked : HasLooked version.blueprintId
        (nextOf (scene.store.maxNumber? version.blueprintId))
        ((scene.exchange caller r).2.ofTask caller.task) := by
      rw [Scene.ofTask_exchange_self]
      exact ⟨scene.next caller r, ⟨rfl, _, [], rfl, fun _ hnone => (by cases hnone)⟩, rfl⟩
    refine drafts_tryInsert hinjective (hready.quiet hallotted hquiet) hpressed hlooked ?_
    exact fun scene hready hrival => ih hready (by omega) fun _ => ⟨_, rfl⟩

theorem drafts_createVersion {version : Version} {forkedFrom : Option String}
    {set? : Option DefinitionSet} (hinjective : Function.Injective ids)
    (hready : scene.IsReady caller version.id version.blueprintId) :
    (allotmentPact ids).Upholds caller (Scene.HasDrafted caller)
      (Operation.createVersion version forkedFrom set?).run scene := by
  rw [Operation.createVersion]
  refine drafts_call hinjective rfl (stable_isReady version.id version.blueprintId) hready
    fun blueprint? scene hallotted hready hread => ?_
  let r : Request := .store (.getBlueprint version.blueprintId) none
  have hready : (scene.exchange caller r).2.IsReady caller version.id version.blueprintId :=
    hready.quiet hallotted rfl
  cases blueprint? with
  | none =>
    exact drafts_over (.missed (.blueprint hready.1 (scene.mem_ofTask_exchange caller r) rfl
      hread))
  | some blueprint =>
    have hrivals := Nat.le_add_right Operation.createAttempts
      (((scene.exchange caller r).2.span caller.task).countP
        (·.rivals caller.task version.blueprintId))
    exact drafts_claimNumber hinjective hready hrivals fun hnone => by cases hnone

/-- The id that a call gets for its version is one that no version has, now or later. -/
theorem drafts_freshId {blueprintId : String} {next : String → Operation Version}
    (hinjective : Function.Injective ids)
    (htargets : caller.command.Targets (scene.ofTask caller.task) blueprintId)
    (hnext : ∀ id scene, scene.IsReady caller id blueprintId →
      (allotmentPact ids).Upholds caller (Scene.HasDrafted caller) (next id).run scene) :
    (allotmentPact ids).Upholds caller (Scene.HasDrafted caller)
      (Operation.freshId >>= next).run scene := by
  rw [Operation.run_freshId_bind]
  refine Pact.upholds_request (Pact.stable_ofTask _ _ (caller.command.Targets · blueprintId))
    htargets fun scene hallotted htargets => ?_
  obtain ⟨hallows, hholds⟩ := hallotted.quiet (r := .freshIds 1) hinjective caller trivial
  refine ⟨hallows, hholds, hnext _ _ ⟨?_, hallotted.hasSpare caller⟩⟩
  rw [Scene.ofTask_exchange_self]
  exact htargets.mono (List.subset_append_left _ _)

theorem drafts_createDraft {blueprintId : String} (hinjective : Function.Injective ids)
    (hcommand : caller.command = .createDraft blueprintId) :
    (allotmentPact ids).Upholds caller (Scene.HasDrafted caller)
      (Operation.createDraft blueprintId).run scene := by
  have htargets : caller.command.Targets (scene.ofTask caller.task) blueprintId := by
    rw [hcommand]
    rfl
  refine drafts_freshId hinjective htargets fun id scene hready => ?_
  exact drafts_relayed hinjective (Operation.relays_now trivial) hready
    fun now scene hready => drafts_createVersion hinjective hready

theorem drafts_forkDraft {sourceId : String} (hinjective : Function.Injective ids)
    (hcommand : caller.command = .forkDraft sourceId) :
    (allotmentPact ids).Upholds caller (Scene.HasDrafted caller)
      (Operation.forkDraft sourceId).run scene := by
  rw [Operation.forkDraft]
  refine drafts_call hinjective rfl (Pact.stable_ofTask _ _ fun _ => True) trivial
    fun source? scene hallotted _ hread => ?_
  have hmine := scene.mem_ofTask_exchange caller (.store (.getVersion sourceId) none)
  cases source? with
  | none => exact drafts_over (.missed (.source hcommand hmine rfl hread))
  | some source =>
    obtain ⟨row, hrow, hversion⟩ := Store.version?_eq_some hread
    obtain ⟨-, hblueprint, -, -⟩ := VersionRow.eq_of_toVersion hversion
    have htargets : caller.command.Targets ((scene.exchange caller
        (.store (.getVersion sourceId) none)).2.ofTask caller.task) source.blueprintId := by
      rw [hcommand]
      exact ⟨_, hmine, rfl, row, hrow, hblueprint.symm⟩
    have hcontent : (Operation.readContent none source.id).Relays Request.IsQuiet :=
      Operation.relays_readContent (fun _ hquery => hquery) source.id
    refine drafts_freshId hinjective htargets fun id scene hready => ?_
    refine drafts_relayed hinjective (Operation.relays_now trivial) hready
      fun now scene hready => ?_
    refine drafts_relayed hinjective hcontent hready fun content scene hready => ?_
    refine drafts_relayed hinjective (Operation.relays_freshIds trivial) hready
      fun answer scene hready => ?_
    exact drafts_createVersion hinjective hready

end Programs

end KnowledgeSchema
