import Mathlib.Logic.Function.Basic
import KnowledgeSchema.Proofs.Program.Laws
import KnowledgeSchema.Time.Epoch
import KnowledgeSchema.World

/-!
# Many managers and services on one store

Any number of calls are under way at the same time, each for one of any number of agents. A run is
any sequence of two kinds of action: a new call begins, or a call that is under way has its next
request carried out. So between two requests of one call any number of requests of others may be
carried out. A journal tells, request by request, which call made it and what the world was before
and after it.
-/

namespace KnowledgeSchema

/-- What is asked of a manager or a service. -/
inductive Command where
  | createBlueprint (name : String) (description : Option String) (tags : List String)
      (isSystem : Bool)
  | listVersions (blueprintId : String)
  | createDraft (blueprintId : String)
  | forkDraft (sourceId : String)
  /-- A manager publishes, archives or deprecates a version. -/
  | transition (versionId : String) (next : Status)
  /-- A service does, and drops what it kept for the version. -/
  | transitionAndEvict (versionId : String) (next : Status)
  | importBundle (versionId : String) (bundle : Bundle)
  | compileBlueprint (settings : CompilerSettings) (blueprintId : String)
      (versionId : Option String)
  | compileVersion (settings : CompilerSettings) (versionId : String)

inductive Reply where
  | blueprint (blueprint : Blueprint)
  | versions (versions : List Version)
  | version (version : Version)
  | summary (summary : ImportSummary)
  | artifact (artifact : Artifact)

def Command.operation : Command → Operation Reply
  | createBlueprint name description tags isSystem =>
    .blueprint <$> Operation.createBlueprint name description tags isSystem
  | listVersions blueprintId => .versions <$> Operation.listVersions blueprintId
  | createDraft blueprintId => .version <$> Operation.createDraft blueprintId
  | forkDraft sourceId => .version <$> Operation.forkDraft sourceId
  | transition versionId next => .version <$> Operation.transition versionId next
  | transitionAndEvict versionId next => .version <$> Operation.transitionAndEvict versionId next
  | importBundle versionId bundle => .summary <$> Operation.importBundle versionId bundle
  | compileBlueprint settings blueprintId versionId =>
    .artifact <$> Operation.compileBlueprint settings blueprintId versionId
  | compileVersion settings versionId => .artifact <$> Operation.compileVersion settings versionId

structure Caller where
  task : Nat
  agent : Nat
  command : Command

structure Exchange where
  caller : Caller
  request : Request
  before : World
  after : World

/-- The world and the agents, with all that happened so far, oldest first. -/
structure Scene where
  world : World
  agents : Nat → Agent
  journal : List Exchange

namespace Scene

abbrev store (scene : Scene) : Store :=
  scene.world.store

def exchange (scene : Scene) (caller : Caller) (r : Request) : r.Answer × Scene :=
  match World.handle r (scene.world, scene.agents caller.agent) with
  | (answer, world, agent) =>
    (answer,
      { world
        agents := Function.update scene.agents caller.agent agent
        journal := scene.journal ++ [⟨caller, r, scene.world, world⟩] })

end Scene

structure Task where
  agent : Nat
  command : Command
  program : Program (Except Failure Reply)

structure System where
  scene : Scene
  tasks : List Task

inductive Action where
  | begin (agent : Nat) (command : Command)
  | advance (task : Nat)

namespace System

/-- A store with any content, and agents that have done nothing yet. -/
def start (store : Store) (ids : Ids) (clock : Nat → Timestamp) (capacity : Nat → Nat) :
    System where
  scene :=
    { world := { store, ids, clock }
      agents := fun agent => Agent.new (capacity agent)
      journal := [] }
  tasks := []

abbrev store (system : System) : Store :=
  system.scene.store

abbrev journal (system : System) : List Exchange :=
  system.scene.journal

def act (system : System) : Action → System
  | .begin agent command =>
    { system with tasks := system.tasks ++ [⟨agent, command, command.operation.run⟩] }
  | .advance task =>
    match system.tasks[task]? with
    | some ⟨agent, command, .request r next⟩ =>
      match system.scene.exchange ⟨task, agent, command⟩ r with
      | (answer, scene) =>
        { scene, tasks := system.tasks.set task ⟨agent, command, next answer⟩ }
    | _ => system

def run (system : System) (actions : List Action) : System :=
  actions.foldl act system

end System

/-! ### A system to run -/

def Ids.tally : Ids := fun place =>
  String.ofList (List.replicate (place + 1) 'x')

theorem Ids.tally_injective : Function.Injective Ids.tally := by
  intro first second heq
  have hlength := congrArg List.length (String.ofList_injective heq)
  rw [List.length_replicate, List.length_replicate] at hlength
  omega

theorem Timestamp.isSome_ofEpoch?_zero : (ofEpoch? 0 0).isSome = true := by
  decide

def Timestamp.epoch : Timestamp :=
  (ofEpoch? 0 0).get isSome_ofEpoch?_zero

/-- An empty store, and a clock that stands still. -/
def System.fresh : System :=
  start {} .tally (fun _ => .epoch) fun _ => 1

/-! ### Single exchanges -/

/-- Nobody outside of the system moves versions or takes numbers. -/
def World.IsUndisturbed (world : World) : Prop :=
  world.faults.conflicts = 0 ∧ world.faults.races = []

theorem World.call_eq_callStore {world : World} (hworld : world.IsUndisturbed)
    (call : Store.Call) : world.call call = world.callStore call := by
  obtain ⟨hconflicts, hraces⟩ := hworld
  cases call <;> simp only [World.call, World.insertVersion, World.updateStatus, hconflicts, hraces]

namespace Scene

variable {scene : Scene} {caller : Caller} {r : Request}

theorem journal_exchange :
    (scene.exchange caller r).2.journal =
      scene.journal ++ [⟨caller, r, scene.world, (scene.exchange caller r).2.world⟩] := rfl

/-- A call of the store gets through and takes effect there, or it fails and nothing happens. -/
theorem exchange_store (hworld : scene.world.IsUndisturbed) (caller : Caller)
    (call : Store.Call) (limit : Option Nat) :
    ((scene.exchange caller (.store call limit)).1 = (scene.store.run call).1 ∧
        (scene.exchange caller (.store call limit)).2.world =
          { scene.world with store := (scene.store.run call).2 }) ∨
      ((scene.exchange caller (.store call limit)).1 = .error .storeUnavailable ∧
        (scene.exchange caller (.store call limit)).2.world = scene.world) := by
  simp only [exchange, World.handle, World.call_eq_callStore hworld, World.callStore]
  by_cases htakes : scene.world.takes call = true
  · exact Or.inl (by simp [htakes])
  · exact Or.inr (by simp [htakes])

theorem exchange_undisturbed (hworld : scene.world.IsUndisturbed) :
    (scene.exchange caller r).2.world.IsUndisturbed := by
  cases r with
  | store call limit =>
    rcases exchange_store hworld caller call limit with ⟨-, hafter⟩ | ⟨-, hafter⟩
    · rw [hafter]
      exact hworld
    · rw [hafter]
      exact hworld
  | _ => exact hworld

end Scene

end KnowledgeSchema
