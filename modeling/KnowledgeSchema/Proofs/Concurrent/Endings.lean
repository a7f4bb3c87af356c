import Mathlib.Data.Nat.Find
import KnowledgeSchema.Proofs.Concurrent.System
import KnowledgeSchema.Proofs.Store.Failures

/-!
# How calls come to an end

Whatever its requests are answered with, a call makes only so many of them. So a call that gets
another turn again and again is over some day, whatever turns the others get. What the store refuses
it on the way is refused for the store's own reasons.
-/

namespace KnowledgeSchema

/-! ### Fair schedules -/

/-- However far the schedule has gone, a turn of the task is still to come. -/
def IsFairTo (task : Nat) (schedule : Nat → Action) : Prop :=
  ∀ n, ∃ turn, n ≤ turn ∧ schedule turn = .advance task

theorem IsFairTo.shift {task : Nat} {schedule : Nat → Action} (hfair : IsFairTo task schedule)
    (start : Nat) : IsFairTo task fun n => schedule (start + n) := by
  intro n
  obtain ⟨turn, hturn, hadvance⟩ := hfair (start + n)
  have hsplit : start + (turn - start) = turn := by omega
  exact ⟨turn - start, by omega, (congrArg schedule hsplit).trans hadvance⟩

namespace System

variable {system : System} {i : Nat} {task : Task} {schedule : Nat → Action}

theorem run_append (system : System) (first second : List Action) :
    system.run (first ++ second) = (system.run first).run second :=
  List.foldl_append

/-- A task waits while others have their turns. -/
theorem task_act_of_ne (htask : system.tasks[i]? = some task) {action : Action}
    (hother : action ≠ .advance i) : (system.act action).tasks[i]? = some task := by
  cases action with
  | begin agent command =>
    have hi := (List.getElem?_eq_some_iff.mp htask).1
    simp only [act]
    rwa [List.getElem?_append_left hi]
  | advance other =>
    have hne : other ≠ i := fun heq => hother (congrArg _ heq)
    simp only [act]
    split
    next => simpa only [List.getElem?_set_ne hne] using htask
    next => exact htask

theorem task_act_advance {agent : Nat} {command : Command} {r : Request}
    {next : r.Answer → Program (Except Failure Reply)}
    (htask : system.tasks[i]? = some ⟨agent, command, .request r next⟩) :
    ∃ answer, (system.act (.advance i)).tasks[i]? = some ⟨agent, command, next answer⟩ := by
  have hi := (List.getElem?_eq_some_iff.mp htask).1
  refine ⟨(system.scene.exchange ⟨i, agent, command⟩ r).1, ?_⟩
  simp only [act, htask]
  exact List.getElem?_set_self hi

theorem task_run_of_ne (htask : system.tasks[i]? = some task) {count : Nat}
    (hothers : ∀ n, n < count → schedule n ≠ .advance i) :
    (system.run ((List.range count).map schedule)).tasks[i]? = some task := by
  induction count with
  | zero => exact htask
  | succ count ih =>
    have hbefore := ih fun n hn => hothers n (by omega)
    rw [List.range_succ, List.map_append, run_append]
    exact task_act_of_ne hbefore (hothers count (by omega))

/-- The program of the task gets shorter with each of its turns. -/
theorem exists_done {agent : Nat} {command : Command} {program : Program (Except Failure Reply)}
    (htask : system.tasks[i]? = some ⟨agent, command, program⟩) (hfair : IsFairTo i schedule) :
    ∃ count outcome, (system.run ((List.range count).map schedule)).tasks[i]? =
      some ⟨agent, command, .done outcome⟩ := by
  classical
  induction program generalizing system schedule with
  | done outcome => exact ⟨0, outcome, htask⟩
  | request r next ih =>
    have hturns : ∃ turn, schedule turn = .advance i := (hfair 0).imp fun _ => And.right
    let turn := Nat.find hturns
    have hwaiting := task_run_of_ne htask fun n (hn : n < turn) => Nat.find_min hturns hn
    obtain ⟨answer, hanswered⟩ := task_act_advance hwaiting
    obtain ⟨count, outcome, hdone⟩ := ih answer hanswered (hfair.shift (turn + 1))
    refine ⟨turn + 1 + count, outcome, ?_⟩
    rw [List.range_add, List.map_append, run_append, List.range_succ, List.map_append, run_append,
      List.map_singleton, Nat.find_spec hturns, List.map_map]
    exact hdone

/-- A call is over some day, whatever the schedule, as long as it is fair to the call. -/
def Ends (system : System) (i : Nat) : Prop :=
  ∀ schedule, IsFairTo i schedule → ∃ count agent command outcome,
    (system.run ((List.range count).map schedule)).tasks[i]? =
      some ⟨agent, command, .done outcome⟩

theorem ends_of_lt (hi : i < system.tasks.length) : system.Ends i := by
  intro schedule hfair
  obtain ⟨count, outcome, hdone⟩ := exists_done (List.getElem?_eq_getElem hi) hfair
  exact ⟨count, _, _, outcome, hdone⟩

end System

/-! ### Answers and refusals -/

theorem Scene.exchange_eq_ok {scene : Scene} {caller : Caller} {call : Store.Call}
    {limit : Option Nat} {value : call.Result} (hworld : scene.world.IsUndisturbed)
    (hanswer : (scene.exchange caller (.store call limit)).1 = .ok value) :
    (scene.store.run call).1 = .ok value ∧
      (scene.exchange caller (.store call limit)).2.store = (scene.store.run call).2 := by
  rcases exchange_store hworld caller call limit with ⟨hran, hafter⟩ | ⟨hunavailable, -⟩
  · exact ⟨hran.symm.trans hanswer, congrArg World.store hafter⟩
  · rw [hunavailable] at hanswer
    cases hanswer

/-- The store does not carry a call out. -/
def Exchange.Fails (e : Exchange) (failure : Failure) : Prop :=
  ∃ call limit, e.request = .store call limit ∧ (e.before.call call).1 = .error failure

theorem Scene.refuses {scene : Scene} {caller : Caller} {call : Store.Call} {limit : Option Nat}
    {failure : Failure} (hworld : scene.world.IsUndisturbed)
    (hanswer : (scene.exchange caller (.store call limit)).1 = .error failure) :
    scene.store.Refuses call failure := by
  rcases exchange_store hworld caller call limit with ⟨hrun, -⟩ | ⟨hunavailable, -⟩
  · exact Store.failsOnly_run scene.store call failure (hrun.symm.trans hanswer)
  · obtain rfl := Except.error.inj (hunavailable.symm.trans hanswer)
    exact .unavailable

end KnowledgeSchema
