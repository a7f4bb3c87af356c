import KnowledgeSchema.Proofs.Concurrent.System
import KnowledgeSchema.Proofs.Store.Versions

/-!
# Operations carried out alone

When nobody else is at work, an operation is a function of the world and of its agent: each request
is answered from the world that the requests before it have left.
-/

namespace KnowledgeSchema

/-- A store that takes every call, with nobody else at work. -/
structure World.IsServing (world : World) : Prop where
  undisturbed : world.IsUndisturbed
  isOpen : world.isClosed = false
  isWritable : world.isReadOnly = false

namespace World

variable {α β : Type} {world : World} {agent : Agent}

theorem call_of_isServing (hserving : world.IsServing) (call : Store.Call) :
    world.call call =
      ((world.store.run call).1, { world with store := (world.store.run call).2 }) := by
  rw [call_eq_callStore hserving.undisturbed, callStore]
  simp [takes, hserving.isOpen, hserving.isWritable]

theorem handle_store (hserving : world.IsServing) (call : Store.Call) (limit : Option Nat)
    (agent : Agent) :
    World.handle (.store call limit) (world, agent) =
      ((world.store.run call).1, { world with store := (world.store.run call).2 }, agent) := by
  have hcall := call_of_isServing hserving call
  exact congrArg (fun step : Except Failure call.Result × World => (step.1, step.2, agent)) hcall

theorem IsServing.handle (hserving : world.IsServing) (r : Request) (agent : Agent) :
    (World.handle r (world, agent)).2.1.IsServing := by
  cases r with
  | store call limit =>
    rw [handle_store hserving]
    exact ⟨hserving.undisturbed, hserving.isOpen, hserving.isWritable⟩
  | _ => exact ⟨hserving.undisturbed, hserving.isOpen, hserving.isWritable⟩

theorem IsServing.perform (hserving : world.IsServing) (agent : Agent) (operation : Operation α) :
    (world.perform agent operation).2.1.IsServing := by
  rw [World.perform]
  generalize operation.run = program
  induction program generalizing world agent with
  | done outcome => exact hserving
  | request r further ih => exact ih _ (hserving.handle r agent) _

/-! ### One request after another -/

@[simp]
theorem perform_pure (value : α) :
    world.perform agent (pure value : Operation α) = (.ok value, world, agent) := rfl

@[simp]
theorem perform_throw (failure : Failure) :
    world.perform agent (throw failure : Operation α) = (.error failure, world, agent) := rfl

/-- An operation goes on from the world that its first part has left, or ends with the failure of
that part. -/
theorem perform_bind (operation : Operation α) (next : α → Operation β) :
    world.perform agent (operation >>= next) =
      match world.perform agent operation with
      | (.ok value, later, agent) => later.perform agent (next value)
      | (.error failure, later, agent) => (.error failure, later, agent) := by
  rw [perform, Operation.run_bind, Program.run_bind_state]
  change Program.run handle (Operation.proceed next (world.perform agent operation).1)
    (world.perform agent operation).2 = _
  rcases world.perform agent operation with ⟨outcome, later, agent⟩
  cases outcome with
  | ok value => rfl
  | error failure => rfl

theorem perform_bind_ok {operation : Operation α} {next : α → Operation β} {value : α}
    {later : World} {after : Agent} (hfirst : world.perform agent operation = (.ok value, later, after)) :
    world.perform agent (operation >>= next) = later.perform after (next value) := by
  rw [perform_bind, hfirst]

theorem perform_map (f : α → β) (operation : Operation α) :
    world.perform agent (f <$> operation) =
      ((world.perform agent operation).1.map f, (world.perform agent operation).2) := by
  rw [← bind_pure_comp, perform_bind]
  rcases world.perform agent operation with ⟨outcome, later, agent⟩
  cases outcome with
  | ok value => rfl
  | error failure => rfl

@[simp]
theorem perform_lift (outcome : Except Failure α) :
    world.perform agent (liftM outcome : Operation α) = (outcome, world, agent) := by
  cases outcome <;> rfl

theorem perform_callWithin (hserving : world.IsServing) (limit : Option Nat) (call : Store.Call) :
    world.perform agent (Operation.callWithin limit call) =
      ((world.store.run call).1, { world with store := (world.store.run call).2 }, agent) :=
  handle_store hserving call limit agent

theorem perform_call (hserving : world.IsServing) (call : Store.Call) :
    world.perform agent (Operation.call call) =
      ((world.store.run call).1, { world with store := (world.store.run call).2 }, agent) :=
  perform_callWithin hserving none call

theorem perform_attempt (hserving : world.IsServing) (call : Store.Call) :
    world.perform agent (Operation.attempt call) =
      (.ok (world.store.run call).1, { world with store := (world.store.run call).2 }, agent) := by
  have hhandle := handle_store hserving call none agent
  exact congrArg (fun step => (Except.ok step.1, step.2)) hhandle

@[simp]
theorem perform_freshIds (count : Nat) :
    world.perform agent (Operation.freshIds count) =
      (.ok (world.freshIds count).1, (world.freshIds count).2, agent) := rfl

@[simp]
theorem perform_freshId :
    world.perform agent Operation.freshId =
      (.ok (world.ids world.idsTaken), (world.freshIds 1).2, agent) := rfl

@[simp]
theorem perform_now :
    world.perform agent Operation.now = (.ok world.now.1, world.now.2, agent) := rfl

@[simp]
theorem perform_record (event : Event) :
    world.perform agent (Operation.record event) = (.ok (), world, agent.record event) := rfl

@[simp]
theorem perform_fetch (versionId : String) :
    world.perform agent (Operation.fetch versionId) =
      (.ok (agent.fetch versionId), world, agent) := rfl

@[simp]
theorem perform_keep (artifact : Artifact) :
    world.perform agent (Operation.keep artifact) = (.ok (), world, agent.keep artifact) := rfl

@[simp]
theorem perform_evict (versionId : String) :
    world.perform agent (Operation.evict versionId) = (.ok (), world, agent.evict versionId) := rfl

/-! ### Reading -/

/-- An operation that comes to an outcome and leaves everything as it is. -/
def Yields (world : World) (agent : Agent) (operation : Operation α) (outcome : Except Failure α) :
    Prop :=
  world.perform agent operation = (outcome, world, agent)

theorem Yields.bind {operation : Operation α} {outcome : Except Failure α}
    {next : α → Operation β} {rest : α → Except Failure β}
    (hfirst : world.Yields agent operation outcome)
    (hnext : ∀ value, outcome = .ok value → world.Yields agent (next value) (rest value)) :
    world.Yields agent (operation >>= next) (outcome >>= rest) := by
  rw [Yields, perform_bind, hfirst]
  cases outcome with
  | ok value => exact hnext value rfl
  | error failure => rfl

theorem Yields.bind_ok {operation : Operation α} {value : α} {next : α → Operation β}
    {outcome : Except Failure β} (hfirst : world.Yields agent operation (.ok value))
    (hnext : world.Yields agent (next value) outcome) :
    world.Yields agent (operation >>= next) outcome := by
  rw [Yields, perform_bind, hfirst]
  exact hnext

theorem yields_pure (value : α) : world.Yields agent (pure value : Operation α) (.ok value) := rfl

theorem yields_throw (failure : Failure) :
    world.Yields agent (throw failure : Operation α) (.error failure) := rfl

theorem Yields.mapM {f : α → Operation β} {outcome : α → Except Failure β}
    (hf : ∀ item, world.Yields agent (f item) (outcome item)) (items : List α) :
    world.Yields agent (items.mapM f) (items.mapM outcome) := by
  induction items with
  | nil => rfl
  | cons item rest ih =>
    rw [List.mapM_cons, List.mapM_cons]
    refine (hf item).bind fun first _ => ?_
    exact ih.bind fun others _ => yields_pure (first :: others)

/-- A call that asks for no change. -/
theorem yields_callWithin (hserving : world.IsServing) {limit : Option Nat} {call : Store.Call}
    (hcall : call.isChange = false) :
    world.Yields agent (Operation.callWithin limit call) (world.store.run call).1 := by
  rw [Yields, perform_callWithin hserving, Store.run_eq_of_isChange hcall]

end World

end KnowledgeSchema
