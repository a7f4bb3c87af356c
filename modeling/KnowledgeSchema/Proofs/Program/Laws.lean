import Mathlib.Control.Basic
import KnowledgeSchema.Operation.Service

/-!
# Laws of programs

Programs are a lawful monad, and an operation that begins with a request is that request followed by
the rest of the operation.
-/

namespace KnowledgeSchema

namespace Program

variable {α β γ : Type}

theorem bind_done (program : Program α) : program.bind done = program := by
  induction program with
  | done value => rfl
  | request r next ih => exact congrArg (request r) (funext ih)

theorem bind_assoc (program : Program α) (first : α → Program β) (second : β → Program γ) :
    (program.bind first).bind second = program.bind fun value => (first value).bind second := by
  induction program with
  | done value => rfl
  | request r next ih => exact congrArg (request r) (funext ih)

instance : LawfulMonad Program :=
  LawfulMonad.mk' Program bind_done (fun _ _ => rfl) bind_assoc

/-- Requests are carried out one program after the other, each from the state that is left to it. -/
theorem run_bind_state {σ : Type} (handle : (r : Request) → StateM σ r.Answer)
    (program : Program α) (next : α → Program β) (state : σ) :
    Program.run handle (program.bind next) state =
      Program.run handle (next (Program.run handle program state).1)
        (Program.run handle program state).2 := by
  induction program generalizing state with
  | done value => rfl
  | request r further ih => exact ih _ _

/-- Every request of a program, whatever the answers before it. -/
def Every (allowed : Request → Prop) : Program α → Prop
  | done _ => True
  | request r next => allowed r ∧ ∀ answer, (next answer).Every allowed

theorem Every.bind {allowed : Request → Prop} {program : Program α} {next : α → Program β}
    (hprogram : program.Every allowed) (hnext : ∀ value, (next value).Every allowed) :
    (program.bind next).Every allowed := by
  induction program with
  | done value => exact hnext value
  | request r further ih => exact ⟨hprogram.1, fun answer => ih answer (hprogram.2 answer)⟩

theorem Every.mono {allowed wider : Request → Prop} {program : Program α}
    (hprogram : program.Every allowed) (hwider : ∀ r, allowed r → wider r) :
    program.Every wider := by
  induction program with
  | done value => trivial
  | request r next ih =>
    exact ⟨hwider r hprogram.1, fun answer => ih answer (hprogram.2 answer)⟩

end Program

namespace Operation

variable {α β : Type}

/-! ### Operations request by request -/

@[simp]
theorem run_pure (value : α) : (pure value : Operation α).run = .done (.ok value) := rfl

@[simp]
theorem run_throw (failure : Failure) :
    (throw failure : Operation α).run = .done (.error failure) := rfl

@[simp]
theorem throw_bind (failure : Failure) (next : α → Operation β) :
    (throw failure : Operation α) >>= next = throw failure := rfl

/-- What an operation goes on with once a part of it has come to an outcome. -/
def proceed (next : α → Operation β) : Except Failure α → Program (Except Failure β)
  | .ok value => (next value).run
  | .error failure => .done (.error failure)

theorem run_bind (operation : Operation α) (next : α → Operation β) :
    (operation >>= next).run = operation.run.bind (proceed next) := by
  have hcont : ExceptT.bindCont next = proceed next := by
    funext outcome
    cases outcome <;> rfl
  rw [← hcont]
  rfl

theorem run_map (f : α → β) (operation : Operation α) :
    (f <$> operation).run = operation.run.bind (proceed fun value => pure (f value)) := by
  rw [← run_bind, bind_pure_comp]

@[simp]
theorem run_callWithin_bind (limit : Option Nat) (call : Store.Call)
    (next : call.Result → Operation β) :
    (callWithin limit call >>= next).run = .request (.store call limit) (proceed next) := by
  rw [run_bind]
  rfl

@[simp]
theorem run_call_bind (call : Store.Call) (next : call.Result → Operation β) :
    (Operation.call call >>= next).run = .request (.store call none) (proceed next) :=
  run_callWithin_bind none call next

@[simp]
theorem run_attempt_bind (call : Store.Call)
    (next : Except Failure call.Result → Operation β) :
    (attempt call >>= next).run = .request (.store call none) fun outcome => (next outcome).run :=
  rfl

@[simp]
theorem run_freshIds_bind (count : Nat) (next : Ids → Operation β) :
    (freshIds count >>= next).run = .request (.freshIds count) fun ids => (next ids).run := rfl

@[simp]
theorem run_freshId_bind (next : String → Operation β) :
    (freshId >>= next).run = .request (.freshIds 1) fun ids => (next (ids 0)).run := rfl

@[simp]
theorem run_now_bind (next : Timestamp → Operation β) :
    (now >>= next).run = .request .now fun time => (next time).run := rfl

@[simp]
theorem run_record_bind (event : Event) (next : Unit → Operation β) :
    (record event >>= next).run = .request (.record event) fun _ => (next ()).run := rfl

@[simp]
theorem run_evict_bind (versionId : String) (next : Unit → Operation β) :
    (evict versionId >>= next).run = .request (.evict versionId) fun _ => (next ()).run := rfl

@[simp]
theorem run_lift_bind (outcome : Except Failure α) (next : α → Operation β) :
    ((liftM outcome : Operation α) >>= next).run = proceed next outcome := by
  cases outcome <;> rfl

/-! ### Requests of operations -/

/-- Every request of an operation, whatever the answers before it. -/
@[irreducible]
def Every (allowed : Request → Prop) (operation : Operation α) : Prop :=
  operation.run.Every allowed

variable {allowed : Request → Prop}

theorem every_iff {operation : Operation α} :
    Every allowed operation ↔ operation.run.Every allowed := by
  rw [Every]

theorem every_pure (value : α) : Every allowed (pure value : Operation α) :=
  every_iff.mpr trivial

theorem every_throw (failure : Failure) : Every allowed (throw failure : Operation α) :=
  every_iff.mpr trivial

theorem every_lift (outcome : Except Failure α) :
    Every allowed (liftM outcome : Operation α) := by
  cases outcome <;> exact every_iff.mpr trivial

theorem Every.bind {operation : Operation α} {next : α → Operation β}
    (hoperation : Every allowed operation) (hnext : ∀ value, Every allowed (next value)) :
    Every allowed (operation >>= next) := by
  rw [every_iff, run_bind]
  apply Program.Every.bind (every_iff.mp hoperation)
  intro outcome
  cases outcome with
  | ok value => exact every_iff.mp (hnext value)
  | error failure => trivial

theorem Every.map {operation : Operation α} (f : α → β) (hoperation : Every allowed operation) :
    Every allowed (f <$> operation) := by
  rw [← bind_pure_comp]
  exact hoperation.bind fun value => every_pure (f value)

theorem Every.mono {wider : Request → Prop} {operation : Operation α}
    (hoperation : Every allowed operation) (hwider : ∀ r, allowed r → wider r) :
    Every wider operation :=
  every_iff.mpr ((every_iff.mp hoperation).mono hwider)

theorem every_ite {condition : Prop} [Decidable condition] {first second : Operation α}
    (hfirst : Every allowed first) (hsecond : Every allowed second) :
    Every allowed (if condition then first else second) := by
  by_cases hcondition : condition
  · rw [if_pos hcondition]
    exact hfirst
  · rw [if_neg hcondition]
    exact hsecond

theorem every_callWithin {limit : Option Nat} {call : Store.Call}
    (hcall : allowed (.store call limit)) : Every allowed (callWithin limit call) :=
  every_iff.mpr ⟨hcall, fun _ => trivial⟩

theorem every_attempt {call : Store.Call} (hcall : allowed (.store call none)) :
    Every allowed (attempt call) :=
  every_iff.mpr ⟨hcall, fun _ => trivial⟩

theorem every_freshIds {count : Nat} (hfresh : allowed (.freshIds count)) :
    Every allowed (freshIds count) :=
  every_iff.mpr ⟨hfresh, fun _ => trivial⟩

theorem every_freshId (hfresh : allowed (.freshIds 1)) : Every allowed freshId :=
  (every_freshIds hfresh).bind fun ids => every_pure (ids 0)

theorem every_now (hnow : allowed .now) : Every allowed now :=
  every_iff.mpr ⟨hnow, fun _ => trivial⟩

theorem every_record {event : Event} (hrecord : allowed (.record event)) :
    Every allowed (record event) :=
  every_iff.mpr ⟨hrecord, fun _ => trivial⟩

theorem every_fetch {versionId : String} (hfetch : allowed (.fetch versionId)) :
    Every allowed (fetch versionId) :=
  every_iff.mpr ⟨hfetch, fun _ => trivial⟩

theorem every_keep {artifact : Artifact} (hkeep : allowed (.keep artifact)) :
    Every allowed (keep artifact) :=
  every_iff.mpr ⟨hkeep, fun _ => trivial⟩

theorem every_evict {versionId : String} (hevict : allowed (.evict versionId)) :
    Every allowed (evict versionId) :=
  every_iff.mpr ⟨hevict, fun _ => trivial⟩

theorem every_mapM {f : α → Operation β} (hf : ∀ item, Every allowed (f item)) (items : List α) :
    Every allowed (items.mapM f) := by
  induction items with
  | nil => exact every_pure []
  | cons item rest ih =>
    rw [List.mapM_cons]
    exact (hf item).bind fun first => ih.bind fun others => every_pure (first :: others)

theorem every_mapM_option {f : α → Operation β} (hf : ∀ item, Every allowed (f item))
    (item? : Option α) : Every allowed (item?.mapM f) := by
  cases item? with
  | none => exact every_pure none
  | some item => exact (hf item).map some

end Operation

end KnowledgeSchema
