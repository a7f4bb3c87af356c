import Mathlib.Data.List.DropRight
import KnowledgeSchema.Proofs.Concurrent.System

/-!
# Event logs

Each agent remembers the latest of the events that its calls recorded, as many as its log has room
for, in the order in which they were recorded.
-/

namespace KnowledgeSchema

def Exchange.event? (e : Exchange) : Option Event :=
  match e.request with
  | .record event => some event
  | _ => none

/-- The events that the calls of an agent recorded, oldest first. -/
def Scene.recordedBy (scene : Scene) (agent : Nat) : List Event :=
  (scene.journal.filter (·.caller.agent = agent)).filterMap Exchange.event?

/-- Every log has room and holds the latest events of its agent. -/
def Scene.IsLogged (scene : Scene) : Prop :=
  ∀ agent, 0 < (scene.agents agent).capacity ∧
    (scene.agents agent).events =
      (scene.recordedBy agent).rtake (scene.agents agent).capacity

theorem rtake_concat {α : Type} (items : List α) (item : α) {count : Nat} (hcount : 0 < count) :
    (items.rtake count).drop ((items.rtake count).length + 1 - count) ++ [item] =
      (items ++ [item]).rtake count := by
  have hlength : (items.rtake count).length = min count items.length := by
    rw [List.rtake, List.length_drop]
    omega
  rw [hlength, List.rtake, List.rtake, List.drop_drop, List.length_append, List.length_singleton,
    List.drop_append_of_le_length (by omega)]
  congr 2
  omega

namespace Scene

variable {scene : Scene} {caller : Caller} {r : Request}

theorem agent_handle (r : Request) (world : World) (agent : Agent) :
    (World.handle r (world, agent)).2.2.capacity = agent.capacity ∧
      (World.handle r (world, agent)).2.2.events =
        match r with
        | .record event => (agent.record event).events
        | _ => agent.events := by
  cases r <;> exact ⟨rfl, rfl⟩

theorem IsLogged.exchange (hlogged : scene.IsLogged) : (scene.exchange caller r).2.IsLogged := by
  intro agent
  obtain ⟨hroom, hevents⟩ := hlogged agent
  by_cases hagent : caller.agent = agent
  · subst hagent
    obtain ⟨hcapacity, hafter⟩ := agent_handle r scene.world (scene.agents caller.agent)
    have hself : (scene.exchange caller r).2.agents caller.agent =
        (World.handle r (scene.world, scene.agents caller.agent)).2.2 :=
      Function.update_self caller.agent _ scene.agents
    have hrecorded : (scene.exchange caller r).2.recordedBy caller.agent =
        scene.recordedBy caller.agent ++
          (Exchange.event? ⟨caller, r, scene.world,
            (scene.exchange caller r).2.world⟩).toList := by
      rw [recordedBy, journal_exchange, List.filter_append, List.filterMap_append]
      cases r <;> simp [recordedBy, Exchange.event?]
    rw [hself, hcapacity, hafter, hrecorded]
    refine ⟨hroom, ?_⟩
    cases r with
    | record event =>
      change (scene.agents caller.agent).events.drop _ ++ [event] = _
      rw [hevents, rtake_concat _ event hroom]
      rfl
    | _ => simpa [Exchange.event?] using hevents
  · have hother : (scene.exchange caller r).2.agents agent = scene.agents agent :=
      Function.update_of_ne (Ne.symm hagent) _ scene.agents
    have hrecorded : (scene.exchange caller r).2.recordedBy agent = scene.recordedBy agent := by
      rw [recordedBy, journal_exchange, List.filter_append]
      simp [recordedBy, hagent]
    rw [hother, hrecorded]
    exact ⟨hroom, hevents⟩

end Scene

theorem System.isLogged_run {system : System} (hlogged : system.scene.IsLogged)
    (actions : List Action) : (system.run actions).scene.IsLogged := by
  induction actions generalizing system with
  | nil => exact hlogged
  | cons action rest ih =>
    apply @ih (system.act action)
    cases action with
    | begin agent command => exact hlogged
    | advance task =>
      simp only [act]
      split
      next => exact hlogged.exchange
      next => exact hlogged

theorem System.isLogged_start (store : Store) (ids : Ids) (clock : Nat → Timestamp)
    (capacity : Nat → Nat) : (start store ids clock capacity).scene.IsLogged := by
  intro agent
  refine ⟨?_, (List.rtake_nil _).symm⟩
  change 0 < max (capacity agent) 1
  omega

end KnowledgeSchema
