import KnowledgeSchema.Proofs.Concurrent.Requests
import KnowledgeSchema.Proofs.Concurrent.System

/-!
# Terms between programs and what carries them out

Terms say what a program may ask for and what it may rely on in the answers. A program meets them when
it asks for nothing else and comes to what it promises, as long as every answer is such. Where every
request that the terms allow is answered so and keeps an invariant of the world, the programs that meet
the terms keep the invariant and come to what they promise, alone or between one another's requests.
-/

namespace KnowledgeSchema

structure Terms where
  allows : Request → Prop
  grants : (r : Request) → r.Answer → Prop

variable {terms : Terms} {α β : Type}

namespace Program

def Meets (terms : Terms) (promised : α → Prop) : Program α → Prop
  | .done value => promised value
  | .request r next =>
    terms.allows r ∧ ∀ answer, terms.grants r answer → (next answer).Meets terms promised

variable {promised wider : α → Prop}

theorem Meets.mono {program : Program α} (hmeets : program.Meets terms promised)
    (hwider : ∀ value, promised value → wider value) : program.Meets terms wider := by
  induction program with
  | done value => exact hwider value hmeets
  | request r next ih => exact ⟨hmeets.1, fun answer hgrants => ih answer (hmeets.2 answer hgrants)⟩

theorem Meets.bind {program : Program α} {next : α → Program β} {after : β → Prop}
    (hmeets : program.Meets terms promised)
    (hnext : ∀ value, promised value → (next value).Meets terms after) :
    (program.bind next).Meets terms after := by
  induction program with
  | done value => exact hnext value hmeets
  | request r further ih => exact ⟨hmeets.1, fun answer hgrants => ih answer (hmeets.2 answer hgrants)⟩

/-- What a program asks for whatever it is answered, it asks for when it can rely on the answers. -/
theorem Every.meets {program : Program α} (hevery : program.Every terms.allows) :
    program.Meets terms fun _ => True := by
  induction program with
  | done value => trivial
  | request r next ih => exact ⟨hevery.1, fun answer _ => ih answer (hevery.2 answer)⟩

end Program

/-! ### Operations -/

namespace Operation

/-- Whether an operation meets terms and promises something for the case that it does not fail. -/
@[irreducible]
def Meets (terms : Terms) (promised : α → Prop) (operation : Operation α) : Prop :=
  operation.run.Meets terms fun outcome => ∀ value, outcome = .ok value → promised value

variable {promised wider : α → Prop}

theorem meets_iff {operation : Operation α} : operation.Meets terms promised ↔
    operation.run.Meets terms fun outcome => ∀ value, outcome = .ok value → promised value := by
  rw [Meets]

theorem meets_pure {value : α} (hvalue : promised value) :
    (pure value : Operation α).Meets terms promised :=
  meets_iff.mpr fun _ hsame => Except.ok.inj hsame ▸ hvalue

theorem meets_throw (failure : Failure) : (throw failure : Operation α).Meets terms promised :=
  meets_iff.mpr fun _ hsame => nomatch hsame

theorem Meets.bind {operation : Operation α} {next : α → Operation β} {after : β → Prop}
    (hmeets : operation.Meets terms promised)
    (hnext : ∀ value, promised value → (next value).Meets terms after) :
    (operation >>= next).Meets terms after := by
  rw [meets_iff, run_bind]
  refine (meets_iff.mp hmeets).bind fun outcome houtcome => ?_
  cases outcome with
  | ok value => exact meets_iff.mp (hnext value (houtcome value rfl))
  | error failure => exact fun _ hsame => nomatch hsame

theorem Meets.mono {operation : Operation α} (hmeets : operation.Meets terms promised)
    (hwider : ∀ value, promised value → wider value) : operation.Meets terms wider :=
  meets_iff.mpr ((meets_iff.mp hmeets).mono fun _ houtcome value hsame =>
    hwider value (houtcome value hsame))

theorem Meets.map {f : α → β} {operation : Operation α} (hmeets : operation.Meets terms promised)
    {after : β → Prop} (hf : ∀ value, promised value → after (f value)) :
    (f <$> operation).Meets terms after := by
  rw [← bind_pure_comp]
  exact hmeets.bind fun value hvalue => meets_pure (hf value hvalue)

theorem Every.meets {operation : Operation α} (hevery : operation.Every terms.allows) :
    operation.Meets terms fun _ => True :=
  meets_iff.mpr ((every_iff.mp hevery).meets.mono fun _ _ _ _ => trivial)

theorem meets_lift (outcome : Except Failure α) :
    (liftM outcome : Operation α).Meets terms fun value => outcome = .ok value := by
  cases outcome with
  | ok value => exact meets_pure rfl
  | error failure => exact meets_throw failure

theorem meets_callWithin {limit : Option Nat} {call : Store.Call}
    (hallows : terms.allows (.store call limit)) :
    (callWithin limit call).Meets terms fun result =>
      terms.grants (.store call limit) (.ok result) := by
  refine meets_iff.mpr ⟨hallows, fun outcome hgrants value hsame => ?_⟩
  exact hsame ▸ hgrants

theorem meets_mapM {f : α → Operation β} {after : β → Prop} {items : List α}
    (hf : ∀ item ∈ items, (f item).Meets terms after) :
    (items.mapM f).Meets terms fun results => ∀ result ∈ results, after result := by
  induction items with
  | nil => exact meets_pure (List.forall_mem_nil _)
  | cons item rest ih =>
    obtain ⟨hitem, hrest⟩ := List.forall_mem_cons.mp hf
    rw [List.mapM_cons]
    refine hitem.bind fun first hfirst => (ih hrest).bind fun others hothers => ?_
    exact meets_pure (List.forall_mem_cons.mpr ⟨hfirst, hothers⟩)

theorem meets_mapM_option {f : α → Operation β} {after : β → Prop} {item? : Option α}
    (hf : ∀ item ∈ item?, (f item).Meets terms after) :
    (item?.mapM f).Meets terms fun result? => ∀ result ∈ result?, after result := by
  cases item? with
  | none => exact meets_pure fun _ hresult => nomatch hresult
  | some item =>
    refine (hf item rfl).map fun result hresult other hother => ?_
    exact Option.some.inj hother ▸ hresult

end Operation

/-! ### Worlds -/

namespace Terms

/-- Whether what the terms allow is answered as they grant in the worlds of an invariant, and leads
from one of them to another. -/
def Hold (terms : Terms) (holds : World → Prop) : Prop :=
  ∀ r world agent, terms.allows r → holds world →
    terms.grants r (World.handle r (world, agent)).1 ∧ holds (World.handle r (world, agent)).2.1

variable {holds : World → Prop}

theorem Hold.run (hterms : terms.Hold holds) {promised : α → Prop} {program : Program α}
    (hmeets : program.Meets terms promised) {world : World} (agent : Agent) (hworld : holds world) :
    promised (program.run World.handle (world, agent)).1 := by
  induction program generalizing world agent with
  | done value => exact hmeets
  | request r next ih =>
    obtain ⟨hgrants, hafter⟩ := hterms r world agent hmeets.1 hworld
    exact ih _ (hmeets.2 _ hgrants) _ hafter

theorem Hold.perform (hterms : terms.Hold holds) {promised : α → Prop} {operation : Operation α}
    (hmeets : operation.Meets terms promised) {world : World} {agent : Agent} (hworld : holds world)
    {value : α} (hvalue : (world.perform agent operation).1 = .ok value) : promised value :=
  hterms.run (Operation.meets_iff.mp hmeets) agent hworld value hvalue

end Terms

/-! ### Systems -/

/-- A system in which the invariant of the world holds and every call meets the terms. -/
structure System.Meets (terms : Terms) (holds : World → Prop) (system : System) : Prop where
  world : holds system.scene.world
  tasks : ∀ task ∈ system.tasks, task.program.Meets terms fun _ => True

namespace System.Meets

variable {holds : World → Prop} {system : System}

theorem begin (hmeets : system.Meets terms holds) (agent : Nat) {command : Command}
    (hcommand : command.operation.Meets terms fun _ => True) :
    (system.act (.begin agent command)).Meets terms holds where
  world := hmeets.world
  tasks := by
    refine List.forall_mem_append.mpr ⟨hmeets.tasks, List.forall_mem_singleton.mpr ?_⟩
    exact (Operation.meets_iff.mp hcommand).mono fun _ _ => trivial

theorem advance (hmeets : system.Meets terms holds) (hterms : terms.Hold holds) (i : Nat) :
    (system.act (.advance i)).Meets terms holds := by
  simp only [System.act]
  split
  next agent command r next htask =>
    obtain ⟨hallows, hnext⟩ := hmeets.tasks _ (List.mem_of_getElem? htask)
    obtain ⟨hgrants, hafter⟩ :=
      hterms r system.scene.world (system.scene.agents agent) hallows hmeets.world
    refine ⟨hafter, fun task hmem => ?_⟩
    rcases List.mem_or_eq_of_mem_set hmem with hmem | rfl
    · exact hmeets.tasks task hmem
    · exact hnext _ hgrants
  next => exact hmeets

/-- Calls that meet the terms from their beginning keep the invariant, in whatever order they come to
their requests. -/
theorem run (hmeets : system.Meets terms holds) (hterms : terms.Hold holds) {actions : List Action}
    (hbegins : ∀ agent command, Action.begin agent command ∈ actions →
      command.operation.Meets terms fun _ => True) : (system.run actions).Meets terms holds := by
  induction actions generalizing system with
  | nil => exact hmeets
  | cons action rest ih =>
    have hrest := fun agent command hmem => hbegins agent command (List.mem_cons_of_mem action hmem)
    cases action with
    | begin agent command => exact ih (hmeets.begin agent (hbegins agent command List.mem_cons_self)) hrest
    | advance task => exact ih (hmeets.advance hterms task) hrest

end System.Meets

end KnowledgeSchema
