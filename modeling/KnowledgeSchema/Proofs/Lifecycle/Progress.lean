import KnowledgeSchema.Proofs.Lifecycle.Account

/-!
# Progress of a version

Whoever moves a version moves it further on, so the statuses from which it can still come to another
one only get fewer. The pact of all calls is that statuses move on, and that every call that moves
the version does so in at most three rounds.
-/

namespace KnowledgeSchema

/-! ### Statuses that are left to move from -/

namespace Status

/-- The statuses of at least a rank that can become another one. -/
def sources (next : Status) (floor : Nat) : List Status :=
  [draft, published, deprecated, archived].filter fun status =>
    floor ≤ status.rank && status.canBecome next

theorem rank_lt_of_canBecome {status next : Status} (hcan : status.canBecome next = true) :
    status.rank < next.rank := by
  revert hcan
  cases status <;> cases next <;> decide

theorem rank_injective : Function.Injective rank := by
  intro first second
  cases first <;> cases second <;> decide

theorem length_sources_le_two (next : Status) : (sources next 0).length ≤ 2 := by
  cases next <;> decide

theorem length_sources_anti (next : Status) {floor higher : Nat} (hle : floor ≤ higher) :
    (sources next higher).length ≤ (sources next floor).length := by
  apply List.Sublist.length_le
  refine List.monotone_filter_right _ fun status hstatus => ?_
  simp only [Bool.and_eq_true, decide_eq_true_eq] at hstatus ⊢
  exact ⟨hle.trans hstatus.1, hstatus.2⟩

/-- Once a status is left for good, it is no source any more. -/
theorem length_sources_lt {status next : Status} (hcan : status.canBecome next = true)
    {floor : Nat} (hfloor : floor ≤ status.rank) :
    (sources next (status.rank + 1)).length < (sources next floor).length := by
  refine lt_of_lt_of_le ?_ (length_sources_anti next hfloor)
  revert hcan
  clear hfloor
  cases status <;> cases next <;> decide

end Status

/-! ### Rows that only move on -/

/-- The row of a version stays, and its status with it unless a later one takes its place. -/
def Store.Advances (versionId : String) (before after : Store) : Prop :=
  ∀ row, before.row? versionId = some row →
    ∃ later, after.row? versionId = some later ∧ row.status.rank ≤ later.status.rank

/-- The version has come to a status of at least a rank. -/
def Store.HasReached (versionId : String) (floor : Nat) (store : Store) : Prop :=
  ∃ row, store.row? versionId = some row ∧ floor ≤ row.status.rank

/-- A change of a status that the lifecycle knows, if it is one. -/
def Request.Climbs : Request → Prop
  | .store (.updateStatus _ expected status _) _ => expected.canBecome status = true
  | _ => True

namespace Store

variable {store before after : Store} {versionId : String} {floor : Nat}

theorem advances_of_eq (hrow : after.row? versionId = before.row? versionId) :
    Advances versionId before after :=
  fun row hfound => ⟨row, hrow.trans hfound, le_rfl⟩

theorem HasReached.advances (hreached : before.HasReached versionId floor)
    (hadvances : Advances versionId before after) : after.HasReached versionId floor := by
  obtain ⟨row, hrow, hfloor⟩ := hreached
  obtain ⟨later, hlater, hrank⟩ := hadvances row hrow
  exact ⟨later, hlater, hfloor.trans hrank⟩

theorem advances_run (store : Store) {call : Call} {limit : Option Nat}
    (hclimbs : (Request.store call limit).Climbs) :
    Advances versionId store (store.run call).2 := by
  rcases versions_run store call with
    hversions | ⟨version, -, -, -, hversions⟩ | ⟨id, expected, status, publishedAt, rfl⟩
  · exact advances_of_eq (row?_congr hversions _)
  · intro row hrow
    refine ⟨row, ?_, le_rfl⟩
    rw [row?] at hrow ⊢
    rw [hversions, List.find?_append, hrow]
    rfl
  · intro row hrow
    have hlater := row?_updateStatus store id expected status publishedAt versionId
    rw [hrow, Option.map_some] at hlater
    refine ⟨_, hlater, ?_⟩
    split_ifs with hmatch
    · rw [hmatch.2]
      exact (Status.rank_lt_of_canBecome hclimbs).le
    · exact le_rfl

/-- A change that comes too late finds the version further on. -/
theorem HasReached.of_missed {expected status : Status} {publishedAt : Option Timestamp}
    (hreached : store.HasReached versionId expected.rank)
    (hmissed : (store.updateStatus versionId expected status publishedAt).2 = false) :
    store.HasReached versionId (expected.rank + 1) := by
  obtain ⟨row, hrow, hfloor⟩ := hreached
  refine ⟨row, hrow, Nat.succ_le_of_lt (lt_of_le_of_ne hfloor fun hrank => ?_)⟩
  have hmatch : row.status = expected := Status.rank_injective hrank.symm
  have hnone := List.any_eq_false.mp hmissed row (mem_of_row? hrow)
  simp [row?_id hrow, hmatch] at hnone

end Store

/-! ### What commands ask for -/

namespace Operation

theorem every_climbs_moveTo (versionId : String) (next : Status) (attempts : Nat) :
    Every Request.Climbs (moveTo versionId next attempts) := by
  induction attempts with
  | zero => exact every_throw _
  | succ attempts ih =>
    refine (every_callWithin trivial).bind fun version? => ?_
    cases version? with
    | none => exact every_throw _
    | some version =>
      refine every_ite (every_pure version) ((every_now trivial).bind fun time => ?_)
      rw [every_iff, run_lift_bind]
      cases hmoved : version.transition next time with
      | error failure => trivial
      | ok moved =>
        obtain ⟨hcan, rfl⟩ := Version.transition_eq_ok hmoved
        refine every_iff.mp ((every_callWithin hcan).bind fun updated => every_ite ?_ ih)
        exact (every_now trivial).bind fun _ => (every_record trivial).bind fun _ => every_pure _

end Operation

theorem Command.MayMake.climbs {command : Command} {r : Request} (hmay : command.MayMake r)
    (hcommand : command.moves? = none) : r.Climbs := by
  unfold Request.Climbs
  split
  next =>
    rcases hmay with hquiet | hmay
    · cases hquiet
    · cases command with
      | transition => cases hcommand
      | transitionAndEvict => cases hcommand
      | _ => exact hmay.elim
  next => trivial

theorem Command.every_climbs (command : Command) : command.operation.Every Request.Climbs := by
  cases command with
  | transition versionId next => exact (Operation.every_climbs_moveTo versionId next _).map _
  | transitionAndEvict versionId next =>
    refine Operation.Every.map _ ((Operation.every_climbs_moveTo versionId next _).bind fun _ => ?_)
    exact (Operation.every_evict trivial).bind fun _ => Operation.every_pure _
  | _ => exact (Command.every_mayMake _).mono fun _ hmay => hmay.climbs rfl

/-! ### Rounds -/

namespace Exchange

/-- A call that is to move the version reads it. -/
def reads (versionId : String) (e : Exchange) : Bool :=
  match e.caller.command.moves?, e.request with
  | some (target, _), .store (.getVersion _) _ => target == versionId
  | _, _ => false

/-- A call that is to move the version tries to. -/
def tries (versionId : String) (e : Exchange) : Bool :=
  match e.caller.command.moves?, e.request with
  | some (target, _), .store (.updateStatus ..) _ => target == versionId
  | _, _ => false

end Exchange

/-- A call has read the version so many times, and tried to move it so many times. -/
structure Paced (versionId : String) (reads tries : Nat) (own : List Exchange) : Prop where
  reads : own.countP (·.reads versionId) = reads
  tries : own.countP (·.tries versionId) = tries

/-- A call has at most three rounds, each of a read and at most one try. -/
structure KeepsPace (versionId : String) (own : List Exchange) : Prop where
  reads : own.countP (·.reads versionId) ≤ 3
  tries : own.countP (·.tries versionId) ≤ own.countP (·.reads versionId)

section Rounds

variable {versionId : String} {own : List Exchange} {e : Exchange} {reads tries : Nat}

theorem Exchange.elsewhere (hother : ∀ next, e.caller.command.moves? ≠ some (versionId, next)) :
    e.reads versionId = false ∧ e.tries versionId = false := by
  have htarget : ∀ target next, e.caller.command.moves? = some (target, next) →
      (target == versionId) = false := by
    intro target next hmoves
    simpa using fun heq : target = versionId => hother next (heq ▸ hmoves)
  constructor
  · unfold Exchange.reads
    split
    next hmoves _ => exact htarget _ _ hmoves
    next => rfl
  · unfold Exchange.tries
    split
    next hmoves _ => exact htarget _ _ hmoves
    next => rfl

theorem Paced.concat (hpaced : Paced versionId reads tries own) (e : Exchange) :
    Paced versionId (reads + (e.reads versionId).toNat) (tries + (e.tries versionId).toNat)
      (own ++ [e]) where
  reads := by
    rw [List.countP_append, hpaced.reads, List.countP_singleton]
    cases e.reads versionId <;> rfl
  tries := by
    rw [List.countP_append, hpaced.tries, List.countP_singleton]
    cases e.tries versionId <;> rfl

theorem Paced.keepsPace (hpaced : Paced versionId reads tries own) (hreads : reads ≤ 3)
    (htries : tries ≤ reads) : KeepsPace versionId own where
  reads := by
    rw [hpaced.reads]
    exact hreads
  tries := by
    rw [hpaced.reads, hpaced.tries]
    exact htries

theorem KeepsPace.concat_other (hpace : KeepsPace versionId own)
    (hreads : e.reads versionId = false) (htries : e.tries versionId = false) :
    KeepsPace versionId (own ++ [e]) := by
  have hpaced : Paced versionId _ _ (own ++ [e]) := Paced.concat ⟨rfl, rfl⟩ e
  rw [hreads, htries] at hpaced
  exact hpaced.keepsPace hpace.reads hpace.tries

end Rounds

/-! ### The pact -/

/-- Every call that moves the version keeps pace. -/
structure Scene.IsBrisk (versionId : String) (scene : Scene) : Prop where
  undisturbed : scene.world.IsUndisturbed
  pace : ∀ task, KeepsPace versionId (scene.ofTask task)

def patiencePact (versionId : String) : Pact where
  holds := Scene.IsBrisk versionId
  allows e := Store.Advances versionId e.before.store e.after.store

variable {versionId : String} {next : Status} {caller : Caller} {scene : Scene} {r : Request}

theorem Scene.advances_exchange (hworld : scene.world.IsUndisturbed) (hclimbs : r.Climbs) :
    Store.Advances versionId scene.store (scene.exchange caller r).2.store := by
  cases r with
  | store call limit =>
    rcases exchange_store hworld caller call limit with ⟨-, hafter⟩ | ⟨-, hafter⟩
    · rw [Scene.store, Scene.store, hafter]
      exact Store.advances_run _ hclimbs
    · rw [Scene.store, Scene.store, hafter]
      exact Store.advances_of_eq rfl
  | _ => exact Store.advances_of_eq rfl

theorem Scene.IsBrisk.exchange (hbrisk : scene.IsBrisk versionId) (hclimbs : r.Climbs)
    (hpace : KeepsPace versionId (scene.ofTask caller.task ++ [scene.next caller r])) :
    (patiencePact versionId).allows (scene.next caller r) ∧
      (patiencePact versionId).holds (scene.exchange caller r).2 := by
  refine ⟨advances_exchange hbrisk.undisturbed hclimbs,
    exchange_undisturbed hbrisk.undisturbed, fun task => ?_⟩
  by_cases htask : caller.task = task
  · rw [← htask, ofTask_exchange_self]
    exact hpace
  · rw [ofTask_exchange_ne scene r htask]
    exact hbrisk.pace task

theorem Pact.Stable.imp {pact : Pact} {task : Nat} {assertion : Scene → Prop} (condition : Prop)
    (hstable : pact.Stable task assertion) :
    pact.Stable task fun scene => condition → assertion scene :=
  fun before after hstep himp hcondition => hstable before after hstep (himp hcondition)

theorem stable_hasReached (versionId : String) (floor task : Nat) :
    (patiencePact versionId).Stable task fun scene => scene.store.HasReached versionId floor := by
  rintro before _ ⟨caller, r, -, rfl, hadvances, -⟩ hreached
  exact hreached.advances hadvances

/-- A request that neither reads a version nor tries to move one. -/
def Request.IsAside : Request → Prop
  | .store (.getVersion _) _ | .store (.updateStatus ..) _ => False
  | _ => True

theorem Request.IsAside.climbs (haside : r.IsAside) : r.Climbs := by
  unfold Request.Climbs
  split
  next => exact haside.elim
  next => trivial

theorem Scene.IsBrisk.aside (hbrisk : scene.IsBrisk versionId) (caller : Caller)
    (haside : r.IsAside) :
    (patiencePact versionId).allows (scene.next caller r) ∧
      (patiencePact versionId).holds (scene.exchange caller r).2 := by
  refine hbrisk.exchange haside.climbs ((hbrisk.pace _).concat_other ?_ ?_)
  · simp only [Exchange.reads, next]
    split
    next => exact haside.elim
    next => rfl
  · simp only [Exchange.tries, next]
    split
    next => exact haside.elim
    next => rfl

end KnowledgeSchema
