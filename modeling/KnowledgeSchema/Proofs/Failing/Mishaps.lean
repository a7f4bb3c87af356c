import KnowledgeSchema.Proofs.Program.Sequential
import KnowledgeSchema.Proofs.Store.Permuted

/-!
# Calls that go wrong

Any call of the store may fail for reasons of its own, and so may any single write of a call that is
made of several. What was written before it in the same call is undone.
-/

namespace KnowledgeSchema

/-- What goes wrong with one call. -/
structure Mishap where
  /-- The failure of the call before it does anything. -/
  whole : Option Failure := none
  /-- The failures of its single writes, by their places. -/
  single : Nat → Option Failure := fun _ => none

namespace Store

/-- Writes one after another, up to the first that fails. -/
def writeAllUnder (single : Nat → Option Failure) (store : Store) :
    List Write → Except Failure Store
  | [] => .ok store
  | write :: rest =>
    match single 0 with
    | some failure => .error failure
    | none => do
      let after ← store.write write
      after.writeAllUnder (fun place => single (place + 1)) rest

def commitUnder (single : Nat → Option Failure) (store : Store) (writes : List Write) :
    Except Failure Unit × Store :=
  match store.writeAllUnder single writes with
  | .ok after => (.ok (), after)
  | .error failure => (.error failure, store)

/-- A call with whose single writes something may go wrong. -/
def carryOut (single : Nat → Option Failure) (store : Store) :
    (call : Call) → Except Failure call.Result × Store
  | .saveBlueprint blueprint => store.commitUnder single (Call.saveBlueprint blueprint).writes
  | .insertVersion version => store.commitUnder single (Call.insertVersion version).writes
  | .insertVersionWith version set =>
    store.commitUnder single (Call.insertVersionWith version set).writes
  | .saveAll set => store.commitUnder single (Call.saveAll set).writes
  | .save definition => store.commitUnder single (Call.save definition).writes
  | call => store.run call

/-- The outcome of a call with which something may go wrong, and the store after it. -/
def runUnder (mishap : Mishap) (store : Store) (call : Call) : Except Failure call.Result × Store :=
  match mishap.whole with
  | some failure => (.error failure, store)
  | none => store.carryOut mishap.single call

variable {store after : Store} {mishap : Mishap} {single : Nat → Option Failure}
  {writes : List Write} {call : Call}

theorem writeAllUnder_eq_ok (hwrites : store.writeAllUnder single writes = .ok after) :
    store.writeAll writes = .ok after := by
  induction writes generalizing store single with
  | nil => exact hwrites
  | cons write rest ih =>
    rw [writeAllUnder] at hwrites
    cases hsingle : single 0 with
    | some failure =>
      rw [hsingle] at hwrites
      cases hwrites
    | none =>
      rw [hsingle] at hwrites
      obtain ⟨between, hwrite, hrest⟩ := Outcome.bind_eq_ok.mp hwrites
      exact writeAll_cons.mpr ⟨between, hwrite, ih hrest⟩

theorem commitUnder_eq_commit (hok : (store.commitUnder single writes).1 = .ok ()) :
    store.commitUnder single writes = store.commit writes := by
  rw [commitUnder] at hok ⊢
  cases hwrites : store.writeAllUnder single writes with
  | ok after => rw [commit, writeAllUnder_eq_ok hwrites]
  | error failure =>
    rw [hwrites] at hok
    cases hok

theorem commitUnder_of_error {failure : Failure}
    (herror : (store.commitUnder single writes).1 = .error failure) :
    (store.commitUnder single writes).2 = store := by
  rw [commitUnder] at herror ⊢
  cases hwrites : store.writeAllUnder single writes with
  | ok after =>
    rw [hwrites] at herror
    cases herror
  | error failure => rfl

theorem carryOut_eq_run {value : call.Result} (hok : (store.carryOut single call).1 = .ok value) :
    store.carryOut single call = store.run call := by
  cases call with
  | saveBlueprint | insertVersion | insertVersionWith | saveAll | save =>
    exact commitUnder_eq_commit hok
  | _ => rfl

theorem carryOut_of_error {failure : Failure}
    (herror : (store.carryOut single call).1 = .error failure) :
    (store.carryOut single call).2 = store := by
  cases call with
  | saveBlueprint | insertVersion | insertVersionWith | saveAll | save =>
    exact commitUnder_of_error herror
  | _ => exact run_eq_of_error herror

/-- A call that succeeds has done what it does when nothing goes wrong. -/
theorem runUnder_eq_run {value : call.Result} (hok : (store.runUnder mishap call).1 = .ok value) :
    store.runUnder mishap call = store.run call := by
  rw [runUnder] at hok ⊢
  cases hwhole : mishap.whole with
  | some failure =>
    rw [hwhole] at hok
    cases hok
  | none =>
    rw [hwhole] at hok
    exact carryOut_eq_run hok

/-- A call that fails leaves the store as it was. -/
theorem runUnder_of_error {failure : Failure}
    (herror : (store.runUnder mishap call).1 = .error failure) :
    (store.runUnder mishap call).2 = store := by
  rw [runUnder] at herror ⊢
  cases hwhole : mishap.whole with
  | some failure => rfl
  | none =>
    rw [hwhole] at herror
    exact carryOut_of_error herror

theorem runUnder_of_isChange (hcall : call.isChange = false) :
    (store.runUnder mishap call).2 = store := by
  cases houtcome : (store.runUnder mishap call).1 with
  | ok value => rw [runUnder_eq_run houtcome, run_eq_of_isChange hcall]
  | error failure => exact runUnder_of_error houtcome

/-- A call that succeeds leaves what its single writes leave, one after another. -/
theorem runAll_of_commit (hok : (store.commit writes).1 = .ok ()) :
    store.runAll (writes.map (·.call)) = some (store.commit writes).2 := by
  rw [runAll_calls]
  rcases store.commit_cases writes with ⟨_, hfailed⟩ | ⟨after, hwrites, hmade⟩
  · rw [hfailed] at hok
    cases hok
  · rw [hwrites, hmade]

end Store

namespace World

variable {α : Type}

/-- Carries out a request for an agent. What goes wrong with a call of the store is told by its
number. -/
def handleUnder (mishaps : Nat → Mishap) : (r : Request) → StateM (Nat × World × Agent) r.Answer
  | .store call _ => fun (calls, world, agent) =>
    match world.store.runUnder (mishaps calls) call with
    | (outcome, store) => (outcome, calls + 1, { world with store }, agent)
  | r => fun (calls, world, agent) =>
    match World.handle r (world, agent) with
    | (answer, world, agent) => (answer, calls, world, agent)

/-- The outcome of an operation with whose calls something may go wrong, and the world and the agent
after it. -/
def performUnder (mishaps : Nat → Mishap) (world : World) (agent : Agent)
    (operation : Operation α) : Except Failure α × World × Agent :=
  match Program.run (handleUnder mishaps) operation.run (0, world, agent) with
  | (outcome, _, world, agent) => (outcome, world, agent)

theorem handleUnder_store (mishaps : Nat → Mishap) (call : Store.Call) (limit : Option Nat)
    (calls : Nat) (world : World) (agent : Agent) :
    handleUnder mishaps (.store call limit) (calls, world, agent) =
      ((world.store.runUnder (mishaps calls) call).1, calls + 1,
        { world with store := (world.store.runUnder (mishaps calls) call).2 }, agent) := rfl

end World

end KnowledgeSchema
