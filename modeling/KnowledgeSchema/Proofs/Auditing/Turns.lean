import KnowledgeSchema.Proofs.Concurrent.Logs
import KnowledgeSchema.Proofs.Concurrent.Requests
import KnowledgeSchema.Proofs.Failing.Traceless

/-!
# What shows of an operation

An operation that is carried out makes requests and is answered, turn by turn. Where it can lead to
is worked out from what shows of it: the store, the number of ids taken, the events recorded, and
whether an artifact was found kept. Any call of the store may fail on the way, for any reason.
-/

namespace KnowledgeSchema

/-! ### Turns -/

structure Turn where
  request : Request
  answer : request.Answer

namespace Turn

/-- The event that a turn records. -/
def event? : Turn → Option Event
  | ⟨.record event, _⟩ => some event
  | _ => none

theorem filterMap_event?_cons (turn : Turn) (turns : List Turn) :
    (turn :: turns).filterMap event? = turn.event?.toList ++ turns.filterMap event? := by
  cases hevent : turn.event? <;> simp [hevent]

/-- Whether an artifact is found kept. -/
def isHit : Turn → Bool
  | ⟨.fetch _, some _⟩ => true
  | _ => false

end Turn

/-- The turns of a program, from a state on. -/
def Program.turns {σ α : Type} (handle : (r : Request) → StateM σ r.Answer) :
    Program α → σ → List Turn
  | .done _, _ => []
  | .request r next, state =>
    ⟨r, (handle r state).1⟩ ::
      (next (handle r state).1).turns handle (handle r state).2

/-! ### Progress -/

/-- What shows of a program so far. -/
structure Progress where
  store : Store
  taken : Nat
  events : List Event := []
  isHit : Bool := false

namespace Progress

/-- What a request may be answered with. A call of the store does what it does, or it fails. -/
def Allows (progress : Progress) (ids : Ids) : (r : Request) → r.Answer → Prop
  | .store call _, .ok value => (progress.store.run call).1 = .ok value
  | .freshIds _, fresh => fresh = fun place => ids (progress.taken + place)
  | _, _ => True

/-- What shows once a request has been answered. -/
def next (progress : Progress) : (r : Request) → r.Answer → Progress
  | .store call _, .ok _ => { progress with store := (progress.store.run call).2 }
  | .freshIds count, _ => { progress with taken := progress.taken + count }
  | .record event, _ => { progress with events := progress.events ++ [event] }
  | .fetch _, kept? => { progress with isHit := progress.isHit || kept?.isSome }
  | _, _ => progress

/-- What shows once turns have been taken that led to a world. -/
def reach (progress : Progress) (world : World) (turns : List Turn) : Progress where
  store := world.store
  taken := world.idsTaken
  events := progress.events ++ turns.filterMap Turn.event?
  isHit := progress.isHit || turns.any Turn.isHit

theorem reach_next (progress : Progress) {r : Request} (answer : r.Answer) (world : World)
    (turns : List Turn) :
    (progress.next r answer).reach world turns = progress.reach world (⟨r, answer⟩ :: turns) := by
  cases r with
  | store call limit => cases answer <;> rfl
  | freshIds | now | keep | evict => rfl
  | record event => simp [reach, next, Turn.event?, Turn.isHit]
  | fetch versionId =>
    have hevents : ({ request := .fetch versionId, answer } :: turns).filterMap Turn.event? =
        turns.filterMap Turn.event? := rfl
    cases answer <;> simp [reach, next, hevents, Turn.isHit]

/-- Whether a world is what shows. -/
structure Shows (progress : Progress) (world : World) : Prop where
  store : world.store = progress.store
  taken : world.idsTaken = progress.taken

variable {progress : Progress} {world : World}

theorem Shows.reach_nil (hshows : progress.Shows world) : progress.reach world [] = progress := by
  simp [reach, hshows.store, hshows.taken]

theorem Shows.handleUnder (hshows : progress.Shows world) (mishaps : Nat → Mishap) (r : Request)
    (calls : Nat) (agent : Agent) :
    let turn := World.handleUnder mishaps r (calls, world, agent)
    progress.Allows world.ids r turn.1 ∧ (progress.next r turn.1).Shows turn.2.2.1 ∧
      turn.2.2.1.ids = world.ids := by
  obtain ⟨hstore, htaken⟩ := hshows
  cases r with
  | store call limit =>
    intro turn
    have hturn : turn = _ := World.handleUnder_store mishaps call limit calls world agent
    rw [hturn]
    cases houtcome : (world.store.runUnder (mishaps calls) call).1 with
    | error failure =>
      refine ⟨trivial, ⟨?_, htaken⟩, rfl⟩
      exact (Store.runUnder_of_error houtcome).trans hstore
    | ok value =>
      have hrun := Store.runUnder_eq_run houtcome
      rw [hrun, hstore] at houtcome
      refine ⟨houtcome, ⟨?_, htaken⟩, rfl⟩
      change (world.store.runUnder (mishaps calls) call).2 = (progress.store.run call).2
      rw [hrun, hstore]
  | freshIds count =>
    refine ⟨?_, ⟨hstore, congrArg (· + count) htaken⟩, rfl⟩
    change (fun place => world.ids (world.idsTaken + place)) = _
    rw [htaken]
  | now | record | fetch | keep | evict => exact ⟨trivial, ⟨hstore, htaken⟩, rfl⟩

end Progress

/-! ### Turns in a world -/

/-- Whether an agent remembers the latest events of a history, as many as it has room for. -/
structure Agent.Logs (room : Nat) (history : List Event) (agent : Agent) : Prop where
  capacity : agent.capacity = room
  events : agent.events = history.rtake room

section World

variable {α : Type} {room : Nat} {history : List Event}

theorem Agent.Logs.handleUnder {agent : Agent} (hlogs : agent.Logs room history)
    (hroom : 0 < room) (mishaps : Nat → Mishap) (r : Request) (calls : Nat) (world : World) :
    let turn := World.handleUnder mishaps r (calls, world, agent)
    turn.2.2.2.Logs room (history ++ (Turn.event? ⟨r, turn.1⟩).toList) := by
  obtain ⟨hcapacity, hevents⟩ := hlogs
  cases r with
  | record event =>
    refine ⟨hcapacity, ?_⟩
    change agent.events.drop (agent.events.length + 1 - agent.capacity) ++ [event] = _
    rw [hcapacity, hevents]
    exact rtake_concat history event hroom
  | store | freshIds | now | fetch | keep | evict =>
    exact ⟨hcapacity, hevents.trans (congrArg (·.rtake room) (List.append_nil history).symm)⟩

theorem Agent.Logs.run {agent : Agent} (hlogs : agent.Logs room history) (hroom : 0 < room)
    (mishaps : Nat → Mishap) (program : Program α) (calls : Nat) (world : World) :
    (Program.run (World.handleUnder mishaps) program (calls, world, agent)).2.2.2.Logs room
      (history ++ (program.turns (World.handleUnder mishaps) (calls, world, agent)).filterMap
        Turn.event?) := by
  induction program generalizing history calls world agent with
  | done value =>
    rw [Program.turns, List.filterMap_nil, List.append_nil]
    exact hlogs
  | request r next ih =>
    rw [Program.turns, Turn.filterMap_event?_cons, ← List.append_assoc]
    exact ih (World.handleUnder mishaps r (calls, world, agent)).1
      (hlogs.handleUnder hroom mishaps r calls world)
      (World.handleUnder mishaps r (calls, world, agent)).2.1
      (World.handleUnder mishaps r (calls, world, agent)).2.2.1

theorem ids_run (mishaps : Nat → Mishap) (program : Program α) (calls : Nat) (world : World)
    (agent : Agent) :
    let after := (Program.run (World.handleUnder mishaps) program (calls, world, agent)).2.2.1
    after.ids = world.ids ∧ world.idsTaken ≤ after.idsTaken := by
  induction program generalizing calls world agent with
  | done value => exact ⟨rfl, Nat.le_refl _⟩
  | request r next ih =>
    have hstep : (World.handleUnder mishaps r (calls, world, agent)).2.2.1.ids = world.ids ∧
        world.idsTaken ≤ (World.handleUnder mishaps r (calls, world, agent)).2.2.1.idsTaken := by
      cases r with
      | freshIds count => exact ⟨rfl, Nat.le_add_right _ _⟩
      | _ => exact ⟨rfl, Nat.le_refl _⟩
    obtain ⟨hids, htaken⟩ := ih (World.handleUnder mishaps r (calls, world, agent)).1
      (World.handleUnder mishaps r (calls, world, agent)).2.1
      (World.handleUnder mishaps r (calls, world, agent)).2.2.1
      (World.handleUnder mishaps r (calls, world, agent)).2.2.2
    exact ⟨hids.trans hstep.1, hstep.2.trans htaken⟩

/-- A program that fails without a trace has recorded nothing. -/
theorem turns_of_isTraceless {program : Program (Except Failure α)}
    (htraceless : program.IsTraceless) (mishaps : Nat → Mishap) (state : Nat × World × Agent) :
    (Program.run (World.handleUnder mishaps) program state).1.isOk = true ∨
      (program.turns (World.handleUnder mishaps) state).filterMap Turn.event? = [] := by
  induction program generalizing state with
  | done outcome => exact Or.inr rfl
  | request r next ih =>
    rcases htraceless (World.handleUnder mishaps r state).1 with hsucceeds | ⟨htrace, hrest⟩
    · exact Or.inl (World.run_of_succeeds hsucceeds _)
    · refine (ih _ hrest _).imp_right fun hnothing => ?_
      cases r with
      | record event => exact absurd trivial htrace
      | _ => exact hnothing

end World

/-! ### Where a program leads -/

variable {α β : Type} {ids : Ids} {goal : α → Progress → Prop} {progress : Progress}

namespace Program

/-- Whether a program that comes to a value comes to the goal, with ids from a source and whatever
else it is answered. -/
def Leads (ids : Ids) (goal : α → Progress → Prop) :
    Program (Except Failure α) → Progress → Prop
  | .done outcome, progress => ∀ value, outcome = .ok value → goal value progress
  | .request r next, progress =>
    ∀ answer, progress.Allows ids r answer → (next answer).Leads ids goal (progress.next r answer)

theorem Leads.mono {wider : α → Progress → Prop} {program : Program (Except Failure α)}
    (hleads : program.Leads ids goal progress)
    (hwider : ∀ value progress, goal value progress → wider value progress) :
    program.Leads ids wider progress := by
  induction program generalizing progress with
  | done outcome => exact fun value hvalue => hwider _ _ (hleads value hvalue)
  | request r next ih => exact fun answer hallows => ih _ (hleads answer hallows)

theorem Leads.bind {next : α → Operation β} {final : β → Progress → Prop}
    {program : Program (Except Failure α)}
    (hleads : program.Leads ids (fun value => (next value).run.Leads ids final) progress) :
    (program.bind (Operation.proceed next)).Leads ids final progress := by
  induction program generalizing progress with
  | done outcome =>
    cases outcome with
    | ok value => exact hleads value rfl
    | error failure => exact fun value hvalue => nomatch hvalue
  | request r further ih => exact fun answer hallows => ih _ (hleads answer hallows)

theorem leads_of_query {program : Program (Except Failure α)}
    (hquery : program.Every Request.IsQuery) (hgoal : ∀ value, goal value progress) :
    program.Leads ids goal progress := by
  induction program with
  | done outcome => exact fun value _ => hgoal value
  | request r next ih =>
    intro answer _
    have hsame : progress.next r answer = progress := by
      cases r with
      | store call limit =>
        cases answer with
        | error failure => rfl
        | ok value => simp [Progress.next, Store.run_eq_of_isChange hquery.1]
      | _ => cases hquery.1
    rw [hsame]
    exact ih answer (hquery.2 answer)

/-- A program that is carried out comes to its goal. -/
theorem Leads.run {program : Program (Except Failure α)} {world : World}
    (hleads : program.Leads world.ids goal progress) (hshows : progress.Shows world)
    (mishaps : Nat → Mishap) (calls : Nat) (agent : Agent) {value : α}
    (hvalue : (Program.run (World.handleUnder mishaps) program (calls, world, agent)).1 =
      .ok value) :
    goal value (progress.reach
      (Program.run (World.handleUnder mishaps) program (calls, world, agent)).2.2.1
      (program.turns (World.handleUnder mishaps) (calls, world, agent))) := by
  induction program generalizing progress calls world agent with
  | done outcome =>
    change goal value (progress.reach world [])
    rw [hshows.reach_nil]
    exact hleads value hvalue
  | request r next ih =>
    obtain ⟨hallows, hlater, hids⟩ := hshows.handleUnder mishaps r calls agent
    have hnext := hleads _ hallows
    rw [← hids] at hnext
    have hgoal := ih _ hnext hlater _ _ hvalue
    rw [Progress.reach_next] at hgoal
    exact hgoal

end Program

/-! ### Operations -/

namespace Operation

/-- Where an operation leads from what shows before it. -/
@[irreducible]
def Leads (ids : Ids) (progress : Progress) (operation : Operation α)
    (goal : α → Progress → Prop) : Prop :=
  operation.run.Leads ids goal progress

theorem leads_iff {operation : Operation α} :
    Leads ids progress operation goal ↔ operation.run.Leads ids goal progress := by
  rw [Leads]

theorem leads_pure {value : α} (hgoal : goal value progress) :
    Leads ids progress (pure value) goal :=
  leads_iff.mpr fun _ hvalue => by cases hvalue; exact hgoal

theorem leads_throw (failure : Failure) : Leads ids progress (throw failure : Operation α) goal :=
  leads_iff.mpr fun _ hvalue => nomatch hvalue

theorem Leads.mono {operation : Operation α} {wider : α → Progress → Prop}
    (hleads : Leads ids progress operation goal)
    (hwider : ∀ value progress, goal value progress → wider value progress) :
    Leads ids progress operation wider :=
  leads_iff.mpr ((leads_iff.mp hleads).mono hwider)

theorem Leads.bind {operation : Operation α} {next : α → Operation β}
    {final : β → Progress → Prop}
    (hleads : Leads ids progress operation fun value later => Leads ids later (next value) final) :
    Leads ids progress (operation >>= next) final := by
  rw [leads_iff, run_bind]
  exact ((leads_iff.mp hleads).mono fun _ _ => leads_iff.mp).bind

theorem Leads.map {operation : Operation α} {f : α → β} {final : β → Progress → Prop}
    (hleads : Leads ids progress operation fun value => final (f value)) :
    Leads ids progress (f <$> operation) final := by
  rw [← bind_pure_comp]
  exact (hleads.mono fun _ _ => leads_pure).bind

theorem leads_ite {condition : Prop} [Decidable condition] {first second : Operation α}
    (hfirst : condition → Leads ids progress first goal)
    (hsecond : ¬condition → Leads ids progress second goal) :
    Leads ids progress (if condition then first else second) goal := by
  split_ifs with hcondition
  · exact hfirst hcondition
  · exact hsecond hcondition

theorem leads_lift {outcome : Except Failure α}
    (hgoal : ∀ value, outcome = .ok value → goal value progress) :
    Leads ids progress (liftM outcome : Operation α) goal := by
  cases outcome with
  | ok value => exact leads_pure (hgoal value rfl)
  | error failure => exact leads_throw failure

theorem leads_call {limit : Option Nat} {call : Store.Call}
    {goal : call.Result → Progress → Prop}
    (hgoal : ∀ value, (progress.store.run call).1 = .ok value →
      goal value { progress with store := (progress.store.run call).2 }) :
    Leads ids progress (callWithin limit call) goal := by
  rw [leads_iff]
  intro answer hallows value hvalue
  cases hvalue
  exact hgoal value hallows

/-- A call that asks for no change. -/
theorem leads_query {limit : Option Nat} {call : Store.Call} (hcall : call.isChange = false)
    {goal : call.Result → Progress → Prop}
    (hgoal : ∀ value, (progress.store.run call).1 = .ok value → goal value progress) :
    Leads ids progress (callWithin limit call) goal := by
  apply leads_call
  intro value hvalue
  rw [Store.run_eq_of_isChange hcall]
  exact hgoal value hvalue

theorem leads_attempt {call : Store.Call} {goal : Except Failure call.Result → Progress → Prop}
    (herror : ∀ failure, goal (.error failure) progress)
    (hok : ∀ value, (progress.store.run call).1 = .ok value →
      goal (.ok value) { progress with store := (progress.store.run call).2 }) :
    Leads ids progress (attempt call) goal := by
  rw [leads_iff]
  intro answer hallows value hvalue
  cases hvalue
  cases answer with
  | error failure => exact herror failure
  | ok value => exact hok value hallows

theorem leads_of_query {operation : Operation α} (hquery : Every Request.IsQuery operation)
    (hgoal : ∀ value, goal value progress) : Leads ids progress operation goal :=
  leads_iff.mpr (Program.leads_of_query (every_iff.mp hquery) hgoal)

theorem leads_freshIds {count : Nat} {goal : Ids → Progress → Prop}
    (hgoal : goal (fun place => ids (progress.taken + place))
      { progress with taken := progress.taken + count }) :
    Leads ids progress (freshIds count) goal := by
  rw [leads_iff]
  rintro fresh rfl value hvalue
  cases hvalue
  exact hgoal

theorem leads_freshId {goal : String → Progress → Prop}
    (hgoal : goal (ids progress.taken) { progress with taken := progress.taken + 1 }) :
    Leads ids progress freshId goal := by
  apply Leads.bind
  apply leads_freshIds
  exact leads_pure hgoal

theorem leads_now {goal : Timestamp → Progress → Prop} (hgoal : ∀ time, goal time progress) :
    Leads ids progress now goal := by
  rw [leads_iff]
  intro time _ value hvalue
  cases hvalue
  exact hgoal time

theorem leads_record {event : Event} {goal : Unit → Progress → Prop}
    (hgoal : goal () { progress with events := progress.events ++ [event] }) :
    Leads ids progress (record event) goal := by
  rw [leads_iff]
  intro _ _ value hvalue
  cases hvalue
  exact hgoal

theorem leads_fetch {versionId : String} {goal : Option Artifact → Progress → Prop}
    (hgoal : ∀ kept?, goal kept? { progress with isHit := progress.isHit || kept?.isSome }) :
    Leads ids progress (fetch versionId) goal := by
  rw [leads_iff]
  intro kept? _ value hvalue
  cases hvalue
  exact hgoal kept?

theorem leads_keep {artifact : Artifact} {goal : Unit → Progress → Prop} (hgoal : goal () progress) :
    Leads ids progress (keep artifact) goal := by
  rw [leads_iff]
  intro _ _ value hvalue
  cases hvalue
  exact hgoal

theorem leads_evict {versionId : String} {goal : Unit → Progress → Prop} (hgoal : goal () progress) :
    Leads ids progress (evict versionId) goal := by
  rw [leads_iff]
  intro _ _ value hvalue
  cases hvalue
  exact hgoal

end Operation

end KnowledgeSchema
