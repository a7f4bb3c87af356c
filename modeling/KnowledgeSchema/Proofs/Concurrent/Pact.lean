import Mathlib.Logic.Relation
import Mathlib.Tactic.SplitIfs
import KnowledgeSchema.Proofs.Concurrent.System

/-!
# Pacts between calls

A pact says what holds of every scene and what every exchange keeps to. A call upholds the pact when
each of its requests keeps to it wherever the exchanges of others, which keep to it too, have led in
the meantime. When every call upholds the pact from its beginning, every run keeps it, and a call
that returns has what it promises for its end.
-/

namespace KnowledgeSchema

structure Pact where
  holds : Scene → Prop
  allows : Exchange → Prop

def Scene.next (scene : Scene) (caller : Caller) (r : Request) : Exchange :=
  ⟨caller, r, scene.world, (scene.exchange caller r).2.world⟩

/-- What a call has done so far. -/
def Scene.ofTask (scene : Scene) (task : Nat) : List Exchange :=
  scene.journal.filter (·.caller.task = task)

@[simp]
theorem Scene.ofTask_exchange_self (scene : Scene) (caller : Caller) (r : Request) :
    (scene.exchange caller r).2.ofTask caller.task =
      scene.ofTask caller.task ++ [scene.next caller r] := by
  simp [ofTask, journal_exchange, next]

theorem Scene.ofTask_exchange_ne (scene : Scene) {caller : Caller} (r : Request) {task : Nat}
    (hother : caller.task ≠ task) :
    (scene.exchange caller r).2.ofTask task = scene.ofTask task := by
  simp [ofTask, journal_exchange, hother]

namespace Pact

variable (pact : Pact)

/-- An exchange of another call that keeps to the pact. -/
def Disturbs (task : Nat) (before after : Scene) : Prop :=
  ∃ (caller : Caller) (r : Request), caller.task ≠ task ∧ after = (before.exchange caller r).2 ∧
    pact.allows (before.next caller r) ∧ pact.holds after

def Drifts (task : Nat) : Scene → Scene → Prop :=
  Relation.ReflTransGen (pact.Disturbs task)

/-- What the exchanges of others cannot undo. -/
def Stable (task : Nat) (assertion : Scene → Prop) : Prop :=
  ∀ before after, pact.Disturbs task before after → assertion before → assertion after

/-- Each request of a program keeps to the pact, and its end has what is promised of it. -/
def Upholds {α : Type} (caller : Caller) (post : α → Scene → Prop) : Program α → Scene → Prop
  | .done value, scene => ∀ later, pact.Drifts caller.task scene later → pact.holds later →
    post value later
  | .request r next, scene => ∀ later, pact.Drifts caller.task scene later → pact.holds later →
    pact.allows (later.next caller r) ∧ pact.holds (later.exchange caller r).2 ∧
      Upholds caller post (next (later.exchange caller r).1) (later.exchange caller r).2

variable {pact} {α β : Type} {caller : Caller} {post : α → Scene → Prop} {program : Program α}
  {scene later : Scene}

theorem Stable.drifts {task : Nat} {assertion : Scene → Prop} (hstable : pact.Stable task assertion)
    (hdrifts : pact.Drifts task scene later) (hassertion : assertion scene) : assertion later := by
  induction hdrifts with
  | refl => exact hassertion
  | tail _ hstep ih => exact hstable _ _ hstep ih

theorem Stable.and {task : Nat} {first second : Scene → Prop} (hfirst : pact.Stable task first)
    (hsecond : pact.Stable task second) :
    pact.Stable task fun scene => first scene ∧ second scene :=
  fun before after hstep hboth =>
    ⟨hfirst before after hstep hboth.1, hsecond before after hstep hboth.2⟩

theorem stable_ofTask (pact : Pact) (task : Nat) (assertion : List Exchange → Prop) :
    pact.Stable task fun scene => assertion (scene.ofTask task) := by
  rintro before _ ⟨caller, r, hother, rfl, -, -⟩ hassertion
  rw [Scene.ofTask_exchange_ne before r hother]
  exact hassertion

theorem Upholds.drifts (hupholds : pact.Upholds caller post program scene)
    (hdrifts : pact.Drifts caller.task scene later) : pact.Upholds caller post program later := by
  cases program with
  | done value => exact fun last hlast => hupholds last (hdrifts.trans hlast)
  | request r next => exact fun last hlast => hupholds last (hdrifts.trans hlast)

theorem upholds_of_drifts (hupholds : ∀ later, pact.Drifts caller.task scene later →
    pact.holds later → pact.Upholds caller post program later) :
    pact.Upholds caller post program scene := by
  cases program with
  | done value => exact fun last hlast hholds => hupholds last hlast hholds last .refl hholds
  | request r next => exact fun last hlast hholds => hupholds last hlast hholds last .refl hholds

theorem Upholds.mono {wider : α → Scene → Prop} (hupholds : pact.Upholds caller post program scene)
    (hwider : ∀ value scene, pact.holds scene → post value scene → wider value scene) :
    pact.Upholds caller wider program scene := by
  induction program generalizing scene with
  | done value =>
    intro last hlast hholds
    exact hwider value last hholds (hupholds last hlast hholds)
  | request r next ih =>
    intro last hlast hholds
    obtain ⟨hallows, hafter, hrest⟩ := hupholds last hlast hholds
    exact ⟨hallows, hafter, ih _ hrest⟩

theorem Upholds.bind {post : β → Scene → Prop} {next : α → Program β}
    (hupholds : pact.Upholds caller (fun value => pact.Upholds caller post (next value)) program
      scene) : pact.Upholds caller post (program.bind next) scene := by
  induction program generalizing scene with
  | done value => exact upholds_of_drifts hupholds
  | request r further ih =>
    intro last hlast hholds
    obtain ⟨hallows, hafter, hrest⟩ := hupholds last hlast hholds
    exact ⟨hallows, hafter, ih _ hrest⟩

theorem upholds_request {r : Request} {next : r.Answer → Program α} {assertion : Scene → Prop}
    (hstable : pact.Stable caller.task assertion) (hassertion : assertion scene)
    (hstep : ∀ later, pact.holds later → assertion later →
      pact.allows (later.next caller r) ∧ pact.holds (later.exchange caller r).2 ∧
        pact.Upholds caller post (next (later.exchange caller r).1) (later.exchange caller r).2) :
    pact.Upholds caller post (.request r next) scene :=
  fun later hlater hholds => hstep later hholds (hstable.drifts hlater hassertion)

theorem upholds_done {value : α} {assertion : Scene → Prop}
    (hstable : pact.Stable caller.task assertion) (hassertion : assertion scene)
    (hpost : ∀ later, pact.holds later → assertion later → post value later) :
    pact.Upholds caller post (.done value) scene :=
  fun later hlater hholds => hpost later hholds (hstable.drifts hlater hassertion)

theorem upholds_of_every {allowed : Request → Prop} {assertion : Scene → Prop}
    (hstable : pact.Stable caller.task assertion)
    (hstep : ∀ scene r, pact.holds scene → assertion scene → allowed r →
      pact.allows (scene.next caller r) ∧ pact.holds (scene.exchange caller r).2 ∧
        assertion (scene.exchange caller r).2)
    (hpost : ∀ value scene, pact.holds scene → assertion scene → post value scene)
    (hevery : program.Every allowed) (hassertion : assertion scene) :
    pact.Upholds caller post program scene := by
  induction program generalizing scene with
  | done value =>
    exact fun last hlast hholds => hpost value last hholds (hstable.drifts hlast hassertion)
  | request r next ih =>
    intro last hlast hholds
    obtain ⟨hallows, hafter, hnext⟩ :=
      hstep last r hholds (hstable.drifts hlast hassertion) hevery.1
    exact ⟨hallows, hafter, ih _ (hevery.2 _) hnext⟩

/-! ### Runs -/

/-- A system in which the pact was kept so far and every call still upholds it. -/
structure Kept (pact : Pact) (post : Caller → Except Failure Reply → Scene → Prop)
    (system : System) : Prop where
  holds : pact.holds system.scene
  allows : ∀ e ∈ system.journal, pact.allows e
  numbered : ∀ e ∈ system.journal, e.caller.task < system.tasks.length
  upholds : ∀ (i : Nat) (task : Task), system.tasks[i]? = some task →
    pact.Upholds ⟨i, task.agent, task.command⟩ (post ⟨i, task.agent, task.command⟩) task.program
      system.scene

def Begins (pact : Pact) (post : Caller → Except Failure Reply → Scene → Prop) : Prop :=
  ∀ caller scene, pact.holds scene → scene.ofTask caller.task = [] →
    pact.Upholds caller (post caller) caller.command.operation.run scene

variable {post : Caller → Except Failure Reply → Scene → Prop} {system : System}

theorem Kept.begin (hkept : Kept pact post system) (hbegins : pact.Begins post) (agent : Nat)
    (command : Command) : Kept pact post (system.act (.begin agent command)) where
  holds := hkept.holds
  allows := hkept.allows
  numbered e he := by
    have hlt := hkept.numbered e he
    simp only [System.act, List.length_append, List.length_singleton]
    omega
  upholds i task htask := by
    simp only [System.act, List.getElem?_append] at htask
    split_ifs at htask with hi
    · exact hkept.upholds i task htask
    · obtain ⟨hzero, htask⟩ := List.getElem?_eq_some_iff.mp htask
      rw [List.length_singleton] at hzero
      obtain rfl : _ = task := by simpa using htask
      refine hbegins ⟨i, agent, command⟩ _ hkept.holds ?_
      rw [Scene.ofTask, List.filter_eq_nil_iff]
      intro e he hown
      have hlt := hkept.numbered e he
      have hnumber : e.caller.task = i := of_decide_eq_true hown
      omega

/-- What another call does is a disturbance for the rest. -/
theorem Kept.advance (hkept : Kept pact post system) (i : Nat) :
    Kept pact post (system.act (.advance i)) := by
  simp only [System.act]
  split
  next agent command r next htask =>
    obtain ⟨hallows, hafter, hrest⟩ := hkept.upholds i _ htask system.scene .refl hkept.holds
    have hi : i < system.tasks.length := (List.getElem?_eq_some_iff.mp htask).1
    constructor
    · exact hafter
    · intro e he
      rcases List.mem_append.mp he with he | he
      · exact hkept.allows e he
      · exact (List.mem_singleton.mp he) ▸ hallows
    · intro e he
      rw [List.length_set]
      rcases List.mem_append.mp he with he | he
      · exact hkept.numbered e he
      · exact (List.mem_singleton.mp he) ▸ hi
    · intro j task hj
      rw [List.getElem?_set] at hj
      split_ifs at hj with hij
      · cases hj
        exact hij ▸ hrest
      · refine (hkept.upholds j task hj).drifts (.single ⟨_, r, ?_, rfl, hallows, hafter⟩)
        exact hij
  next => exact hkept

theorem kept_run (hbegins : pact.Begins post) (hkept : Kept pact post system)
    (actions : List Action) : Kept pact post (system.run actions) := by
  induction actions generalizing system with
  | nil => exact hkept
  | cons action rest ih =>
    cases action with
    | begin agent command => exact ih (hkept.begin hbegins agent command)
    | advance task => exact ih (hkept.advance task)

theorem kept_start {store : Store} {ids : Ids} {clock : Nat → Timestamp} {capacity : Nat → Nat}
    (hholds : pact.holds (System.start store ids clock capacity).scene) :
    Kept pact post (System.start store ids clock capacity) where
  holds := hholds
  allows _ he := by cases he
  numbered _ he := by cases he
  upholds _ _ htask := by cases htask

theorem Kept.returned (hkept : Kept pact post system) {i agent : Nat} {command : Command}
    {outcome : Except Failure Reply}
    (htask : system.tasks[i]? = some ⟨agent, command, .done outcome⟩) :
    post ⟨i, agent, command⟩ outcome system.scene :=
  hkept.upholds i _ htask system.scene .refl hkept.holds

theorem Kept.act_scene (hkept : Kept pact post system) (action : Action) :
    (system.act action).scene = system.scene ∨
      ∃ caller r, (system.act action).scene = (system.scene.exchange caller r).2 ∧
        pact.allows (system.scene.next caller r) := by
  cases action with
  | begin agent command => exact Or.inl rfl
  | advance i =>
    simp only [System.act]
    split
    next agent command r next htask =>
      obtain ⟨hallows, -⟩ := hkept.upholds i _ htask system.scene .refl hkept.holds
      exact Or.inr ⟨⟨i, agent, command⟩, r, rfl, hallows⟩
    next => exact Or.inl rfl

-- To see what a call upholds, the elaborator would run it.
attribute [irreducible] Upholds

end Pact

end KnowledgeSchema
