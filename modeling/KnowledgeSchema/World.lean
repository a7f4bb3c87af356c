import KnowledgeSchema.Agent
import KnowledgeSchema.Operation.Service
import KnowledgeSchema.Store.Edit

/-!
# Operations in a world

One store that agents share, with a source of ids and a clock, and with the faults that other users
of the store cause: version numbers taken first, and versions moved first.
-/

namespace KnowledgeSchema

/-- What other users of the store are about to do. -/
structure Faults where
  /-- How many of the next versions are refused because their numbers are taken. -/
  conflicts : Nat := 0
  /-- Before each of the next changes of a status, the status that someone else changes it to. With
  none the change itself gets lost. -/
  races : List (Option Status) := []

structure World where
  store : Store := {}
  isClosed : Bool := false
  isReadOnly : Bool := false
  faults : Faults := {}
  ids : Ids
  idsTaken : Nat := 0
  clock : Nat → Timestamp
  ticks : Nat := 0

namespace World

/-- Whether the store takes a call. -/
def takes (world : World) (call : Store.Call) : Bool :=
  !world.isClosed && !(world.isReadOnly && call.isChange)

/-- A call that gets through to the store, if the store takes it. -/
def callStore (world : World) (call : Store.Call) : Except Failure call.Result × World :=
  if !world.takes call then (.error .storeUnavailable, world)
  else
    match world.store.run call with
    | (outcome, store) => (outcome, { world with store })

/-- A change of a status, with someone else's change before it. -/
def updateStatus (world : World) (id : String) (expected status : Status)
    (publishedAt : Option Timestamp) : Except Failure Bool × World :=
  match world.faults.races with
  | [] => world.callStore (.updateStatus id expected status publishedAt)
  | race :: races =>
    let world := { world with faults := { world.faults with races } }
    match race with
    | none => (.ok false, world)
    | some other =>
      match world.callStore (.updateStatus id expected other publishedAt) with
      | (.error failure, world) => (.error failure, world)
      | (.ok _, world) => world.callStore (.updateStatus id expected status publishedAt)

/-- An insertion of a version, refused while others are to take its number. -/
def insertVersion (world : World) (version : Version) (call : Store.Call) :
    Except Failure call.Result × World :=
  match world.faults.conflicts with
  | 0 => world.callStore call
  | conflicts + 1 =>
    (.error (.versionConflict version.blueprintId version.number),
      { world with faults := { world.faults with conflicts } })

def call (world : World) : (call : Store.Call) → Except Failure call.Result × World
  | .insertVersion version => world.insertVersion version (.insertVersion version)
  | .insertVersionWith version set => world.insertVersion version (.insertVersionWith version set)
  | .updateStatus id expected status publishedAt =>
    world.updateStatus id expected status publishedAt
  | call => world.callStore call

/-- The ids from the first that was never taken on. -/
def freshIds (world : World) (count : Nat) : Ids × World :=
  (fun position => world.ids (world.idsTaken + position),
    { world with idsTaken := world.idsTaken + count })

def now (world : World) : Timestamp × World :=
  (world.clock world.ticks, { world with ticks := world.ticks + 1 })

/-- Carries out a request for an agent. -/
def handle : (r : Request) → StateM (World × Agent) r.Answer
  | .store call _ => fun (world, agent) =>
    match world.call call with
    | (outcome, world) => (outcome, world, agent)
  | .freshIds count => fun (world, agent) =>
    match world.freshIds count with
    | (ids, world) => (ids, world, agent)
  | .now => fun (world, agent) =>
    match world.now with
    | (time, world) => (time, world, agent)
  | .record event => fun (world, agent) => ((), world, agent.record event)
  | .fetch versionId => fun (world, agent) => (agent.fetch versionId, world, agent)
  | .keep artifact => fun (world, agent) => ((), world, agent.keep artifact)
  | .evict versionId => fun (world, agent) => ((), world, agent.evict versionId)

/-- The outcome of an operation that an agent carries out, and the world and the agent after it. -/
def perform {α : Type} (world : World) (agent : Agent) (operation : Operation α) :
    Except Failure α × World × Agent :=
  Program.run handle operation.run (world, agent)

/-- Overwrites a text column. -/
def setColumn (world : World) (table : Table) (column id value : String) :
    Except Failure Nat × World :=
  if world.isClosed then (.error .storeUnavailable, world)
  else
    match world.store.setColumn table column id value with
    | .ok (store, count) => (.ok count, { world with store })
    | .error failure => (.error failure, world)

/-- Deletes a row with everything that it owns. -/
def delete (world : World) (table : Table) (id : String) : Except Failure Nat × World :=
  if world.isClosed then (.error .storeUnavailable, world)
  else
    match world.store.delete table id with
    | (store, count) => (.ok count, { world with store })

end World

end KnowledgeSchema
