import KnowledgeSchema.Proofs.Concurrent.Requests
import KnowledgeSchema.Proofs.Failing.Mishaps
import KnowledgeSchema.Proofs.Forking.DeepCopy

/-!
# Operations that fail without a trace

An operation only leaves a trace when nothing after it can fail: it reads first, makes its one
change as a whole, and then tells of it. So whatever goes wrong with its calls, an operation that
fails leaves the store and its agent as they were.
-/

namespace KnowledgeSchema

/-- Whether a call with such a result may have changed the store. -/
def Store.Call.LeavesTrace : (call : Call) → call.Result → Prop
  | updateStatus .., updated => updated = true
  | call, _ => call.isChange = true

/-- Whether a request with such an answer may have left a trace, in the store or in its agent. -/
def Request.LeavesTrace : (r : Request) → r.Answer → Prop
  | .store call _, .ok value => call.LeavesTrace value
  | .store _ _, .error _ => False
  | .freshIds _, _ | .now, _ | .fetch _, _ => False
  | .record _, _ | .keep _, _ | .evict _, _ => True

theorem Request.IsReading.not_leavesTrace {r : Request} (hreading : r.IsReading)
    (answer : r.Answer) : ¬r.LeavesTrace answer := by
  intro htrace
  cases r with
  | freshIds | now | fetch => exact htrace
  | record | keep | evict => exact hreading
  | store call limit =>
    cases answer with
    | error failure => exact htrace
    | ok value =>
      cases call with
      | updateStatus => cases hreading
      | _ => exact absurd htrace (Bool.eq_false_iff.mp hreading)

namespace Program

variable {α : Type}

/-- Whether a program comes to a value, whatever the answers. -/
def Succeeds : Program (Except Failure α) → Prop
  | .done outcome => outcome.isOk = true
  | .request _ next => ∀ answer, (next answer).Succeeds

/-- Whether a program leaves no trace before it is sure to come to a value. -/
def IsTraceless : Program (Except Failure α) → Prop
  | .done _ => True
  | .request r next =>
    ∀ answer, (next answer).Succeeds ∨ ¬r.LeavesTrace answer ∧ (next answer).IsTraceless

theorem Succeeds.isTraceless {program : Program (Except Failure α)} (hsucceeds : program.Succeeds) :
    program.IsTraceless := by
  cases program with
  | done outcome => trivial
  | request r next => exact fun answer => Or.inl (hsucceeds answer)

end Program

namespace World

variable {α : Type} {mishaps : Nat → Mishap} {calls : Nat} {world : World} {agent : Agent}

/-- A request that has left no trace has changed neither the store nor the agent. -/
theorem handleUnder_of_not_leavesTrace {r : Request}
    (htrace : ¬r.LeavesTrace (handleUnder mishaps r (calls, world, agent)).1) :
    (handleUnder mishaps r (calls, world, agent)).2.2.1.store = world.store ∧
      (handleUnder mishaps r (calls, world, agent)).2.2.2 = agent := by
  cases r with
  | freshIds | now | fetch => exact ⟨rfl, rfl⟩
  | record | keep | evict => exact absurd trivial htrace
  | store call limit =>
    refine ⟨?_, rfl⟩
    rw [handleUnder_store] at htrace ⊢
    cases houtcome : (world.store.runUnder (mishaps calls) call).1 with
    | error failure => exact Store.runUnder_of_error houtcome
    | ok value =>
      rw [houtcome] at htrace
      cases call with
      | updateStatus id expected status publishedAt =>
        have hrun := Store.runUnder_eq_run houtcome
        have hvalue : value = false := Bool.eq_false_iff.mpr htrace
        rw [hrun, Store.run] at houtcome
        rw [hrun]
        exact Store.updateStatus_of_not ((Except.ok.inj houtcome).trans hvalue)
      | _ => exact Store.runUnder_of_isChange (Bool.eq_false_iff.mpr htrace)

theorem run_of_succeeds {program : Program (Except Failure α)} (hsucceeds : program.Succeeds)
    (state : Nat × World × Agent) :
    (Program.run (handleUnder mishaps) program state).1.isOk = true := by
  induction program generalizing state with
  | done outcome => exact hsucceeds
  | request r next ih => exact ih _ (hsucceeds _) _

theorem run_of_isTraceless {program : Program (Except Failure α)}
    (htraceless : program.IsTraceless) (calls : Nat) (world : World) (agent : Agent) :
    (Program.run (handleUnder mishaps) program (calls, world, agent)).1.isOk = true ∨
      (Program.run (handleUnder mishaps) program (calls, world, agent)).2.2.1.store = world.store ∧
        (Program.run (handleUnder mishaps) program (calls, world, agent)).2.2.2 = agent := by
  induction program generalizing calls world agent with
  | done outcome => exact Or.inr ⟨rfl, rfl⟩
  | request r next ih =>
    rcases htraceless (handleUnder mishaps r (calls, world, agent)).1 with hsucceeds | ⟨htrace, hrest⟩
    · exact Or.inl (run_of_succeeds hsucceeds _)
    · obtain ⟨hstore, hagent⟩ := handleUnder_of_not_leavesTrace htrace
      rcases ih _ hrest (handleUnder mishaps r (calls, world, agent)).2.1 _ _ with hok | ⟨hstore', hagent'⟩
      · exact Or.inl hok
      · exact Or.inr ⟨hstore'.trans hstore, hagent'.trans hagent⟩

end World

/-! ### Operations -/

namespace Operation

variable {α β : Type}

@[irreducible]
def Succeeds (operation : Operation α) : Prop :=
  operation.run.Succeeds

@[irreducible]
def IsTraceless (operation : Operation α) : Prop :=
  operation.run.IsTraceless

theorem succeeds_iff {operation : Operation α} :
    Succeeds operation ↔ operation.run.Succeeds := by
  rw [Succeeds]

theorem isTraceless_iff {operation : Operation α} :
    IsTraceless operation ↔ operation.run.IsTraceless := by
  rw [IsTraceless]

theorem isTraceless_pure (value : α) : IsTraceless (pure value : Operation α) :=
  isTraceless_iff.mpr trivial

theorem isTraceless_throw (failure : Failure) : IsTraceless (throw failure : Operation α) :=
  isTraceless_iff.mpr trivial

theorem isTraceless_ite {condition : Prop} [Decidable condition] {first second : Operation α}
    (hfirst : IsTraceless first) (hsecond : IsTraceless second) :
    IsTraceless (if condition then first else second) := by
  by_cases hcondition : condition
  · rw [if_pos hcondition]
    exact hfirst
  · rw [if_neg hcondition]
    exact hsecond

theorem succeeds_pure (value : α) : Succeeds (pure value : Operation α) :=
  succeeds_iff.mpr rfl

theorem succeeds_proceed {program : Program (Except Failure α)} {next : α → Operation β}
    (hprogram : program.Succeeds) (hnext : ∀ value, Succeeds (next value)) :
    (program.bind (proceed next)).Succeeds := by
  induction program with
  | done outcome =>
    cases outcome with
    | ok value => exact succeeds_iff.mp (hnext value)
    | error failure => cases hprogram
  | request r further ih => exact fun answer => ih answer (hprogram answer)

theorem Succeeds.bind {operation : Operation α} {next : α → Operation β}
    (hoperation : Succeeds operation) (hnext : ∀ value, Succeeds (next value)) :
    Succeeds (operation >>= next) := by
  rw [succeeds_iff, run_bind]
  exact succeeds_proceed (succeeds_iff.mp hoperation) hnext

theorem succeeds_ite {condition : Prop} [Decidable condition] {first second : Operation α}
    (hfirst : Succeeds first) (hsecond : Succeeds second) :
    Succeeds (if condition then first else second) := by
  by_cases hcondition : condition
  · rw [if_pos hcondition]
    exact hfirst
  · rw [if_neg hcondition]
    exact hsecond

theorem Succeeds.isTraceless {operation : Operation α} (hsucceeds : Succeeds operation) :
    IsTraceless operation :=
  isTraceless_iff.mpr (succeeds_iff.mp hsucceeds).isTraceless

theorem succeeds_now : Succeeds now :=
  succeeds_iff.mpr fun _ => rfl

theorem succeeds_record (event : Event) : Succeeds (record event) :=
  succeeds_iff.mpr fun _ => rfl

theorem succeeds_keep (artifact : Artifact) : Succeeds (keep artifact) :=
  succeeds_iff.mpr fun _ => rfl

theorem succeeds_evict (versionId : String) : Succeeds (evict versionId) :=
  succeeds_iff.mpr fun _ => rfl

/-- What reads first leaves no trace by it. -/
theorem IsTraceless.of_reading {operation : Operation α} {next : α → Operation β}
    (hreading : Every Request.IsReading operation) (hnext : ∀ value, IsTraceless (next value)) :
    IsTraceless (operation >>= next) := by
  rw [every_iff] at hreading
  rw [isTraceless_iff, run_bind]
  generalize operation.run = program at hreading
  induction program with
  | done outcome =>
    cases outcome with
    | ok value => exact isTraceless_iff.mp (hnext value)
    | error failure => trivial
  | request r further ih =>
    exact fun answer => Or.inr ⟨hreading.1.not_leavesTrace answer, ih answer (hreading.2 answer)⟩

theorem IsTraceless.of_query {operation : Operation α} {next : α → Operation β}
    (hquery : Every Request.IsQuery operation) (hnext : ∀ value, IsTraceless (next value)) :
    IsTraceless (operation >>= next) :=
  .of_reading (hquery.mono fun _ => Request.IsQuery.isReading) hnext

/-- What is sure to succeed may follow. -/
theorem IsTraceless.bind {operation : Operation α} {next : α → Operation β}
    (hoperation : IsTraceless operation) (hnext : ∀ value, Succeeds (next value)) :
    IsTraceless (operation >>= next) := by
  rw [isTraceless_iff] at hoperation ⊢
  rw [run_bind]
  generalize operation.run = program at hoperation
  induction program with
  | done outcome =>
    cases outcome with
    | ok value => exact (succeeds_iff.mp (hnext value)).isTraceless
    | error failure => trivial
  | request r further ih =>
    intro answer
    rcases hoperation answer with hsucceeds | ⟨htrace, hrest⟩
    · exact Or.inl (succeeds_proceed hsucceeds hnext)
    · exact Or.inr ⟨htrace, ih answer hrest⟩

theorem IsTraceless.map {operation : Operation α} (f : α → β) (hoperation : IsTraceless operation) :
    IsTraceless (f <$> operation) := by
  rw [← bind_pure_comp]
  exact hoperation.bind fun value => succeeds_pure (f value)

/-- A call either fails without a trace or is followed by what is sure to succeed. -/
theorem isTraceless_attempt {call : Store.Call}
    {next : Except Failure call.Result → Operation β}
    (hok : ∀ value, Succeeds (next (.ok value)))
    (herror : ∀ failure, IsTraceless (next (.error failure))) :
    IsTraceless (attempt call >>= next) := by
  rw [isTraceless_iff, run_attempt_bind]
  rintro (failure | value)
  · exact Or.inr ⟨not_false, isTraceless_iff.mp (herror failure)⟩
  · exact Or.inl (succeeds_iff.mp (hok value))

theorem isTraceless_call {call : Store.Call} {next : call.Result → Operation β}
    (hnext : ∀ value, Succeeds (next value)) : IsTraceless (Operation.call call >>= next) := by
  rw [isTraceless_iff, run_call_bind]
  rintro (failure | value)
  · exact Or.inr ⟨not_false, trivial⟩
  · exact Or.inl (succeeds_iff.mp (hnext value))

theorem isTraceless_createBlueprint (name : String) (description : Option String)
    (tags : List String) (isSystem : Bool) :
    IsTraceless (createBlueprint name description tags isSystem) := by
  simp only [createBlueprint, throw_bind]
  apply isTraceless_ite (isTraceless_throw _)
  refine .of_reading (every_freshId trivial) fun _ => .of_reading (every_now trivial) fun _ => ?_
  exact isTraceless_call fun _ => succeeds_now.bind fun _ =>
    (succeeds_record _).bind fun _ => succeeds_pure _

theorem isTraceless_claimNumber (version : Version) (forkedFrom : Option String)
    (set? : Option DefinitionSet) (attempts : Nat) (conflict : Failure) :
    IsTraceless (claimNumber version forkedFrom set? attempts conflict) := by
  induction attempts generalizing version conflict with
  | zero => exact isTraceless_throw conflict
  | succ attempts ih =>
    refine .of_query (query_nextNumber _) fun number => ?_
    -- With definitions or without, the version is inserted by a single call.
    cases set?
    all_goals
      refine isTraceless_attempt (fun _ => succeeds_now.bind fun _ =>
        (succeeds_record _).bind fun _ => succeeds_pure _) fun failure => ?_
      cases failure with
      | versionConflict => exact ih _ _
      | _ => exact isTraceless_throw _

theorem isTraceless_createVersion (version : Version) (forkedFrom : Option String)
    (set? : Option DefinitionSet) : IsTraceless (createVersion version forkedFrom set?) := by
  refine .of_query (query_callWithin rfl) fun blueprint? => ?_
  exact isTraceless_ite (isTraceless_throw _) (isTraceless_claimNumber _ _ _ _ _)

theorem isTraceless_createDraft (blueprintId : String) : IsTraceless (createDraft blueprintId) :=
  .of_reading (every_freshId trivial) fun _ => .of_reading (every_now trivial) fun _ =>
    isTraceless_createVersion _ _ _

theorem isTraceless_forkDraft (sourceId : String) : IsTraceless (forkDraft sourceId) := by
  refine .of_query (query_callWithin rfl) fun source? => ?_
  cases source? with
  | none => exact isTraceless_throw _
  | some source =>
    refine .of_reading (every_freshId trivial) fun _ => .of_reading (every_now trivial) fun _ => ?_
    refine .of_query (query_readContent none source.id) fun content => ?_
    exact .of_reading (every_freshIds trivial) fun _ => isTraceless_createVersion _ _ _

theorem isTraceless_moveTo (versionId : String) (next : Status) (attempts : Nat) :
    IsTraceless (moveTo versionId next attempts) := by
  induction attempts with
  | zero => exact isTraceless_throw _
  | succ attempts ih =>
    refine .of_query (query_callWithin rfl) fun version? => ?_
    cases version? with
    | none => exact isTraceless_throw _
    | some version =>
      apply isTraceless_ite (isTraceless_pure version)
      refine .of_reading (every_now trivial) fun _ => .of_reading (every_lift _) fun moved => ?_
      rw [isTraceless_iff, run_call_bind]
      rintro (failure | _ | _)
      · exact Or.inr ⟨not_false, trivial⟩
      -- The version had been moved by others, so there is nothing of this attempt.
      · exact Or.inr ⟨Bool.false_ne_true, isTraceless_iff.mp ih⟩
      · exact Or.inl (succeeds_iff.mp (succeeds_now.bind fun _ =>
          (succeeds_record _).bind fun _ => succeeds_pure moved))

theorem isTraceless_transition (versionId : String) (next : Status) :
    IsTraceless (transition versionId next) :=
  isTraceless_moveTo versionId next transitionAttempts

theorem isTraceless_importBundle (versionId : String) (bundle : Bundle) :
    IsTraceless (importBundle versionId bundle) := by
  refine .of_query (query_getVersion versionId) fun version => ?_
  refine .of_reading (every_lift _) fun _ => .of_reading (every_freshIds trivial) fun _ => ?_
  exact .of_reading (every_lift _) fun _ => isTraceless_call fun _ => succeeds_pure _

theorem isTraceless_compileAndRecord (settings : CompilerSettings) (version : Version) :
    IsTraceless (compileAndRecord settings version) :=
  .of_query (query_compile _ _ _) fun _ => Succeeds.isTraceless
    (succeeds_now.bind fun _ => (succeeds_record _).bind fun _ => succeeds_pure _)

theorem isTraceless_compileOrFetch (settings : CompilerSettings) (version : Version) :
    IsTraceless (compileOrFetch settings version) := by
  refine isTraceless_ite ?_ (isTraceless_compileAndRecord settings version)
  refine .of_reading (every_fetch trivial) fun kept? => ?_
  cases kept? with
  | some artifact => exact isTraceless_pure artifact
  | none =>
    refine (isTraceless_compileAndRecord settings version).bind fun artifact => ?_
    exact succeeds_ite ((succeeds_keep _).bind fun _ => succeeds_pure _) (succeeds_pure _)

end Operation

theorem Command.isTraceless (command : Command) : command.operation.IsTraceless := by
  cases command with
  | createBlueprint => exact (Operation.isTraceless_createBlueprint _ _ _ _).map _
  | listVersions blueprintId =>
    exact .of_query (Operation.query_listVersions blueprintId) fun _ => Operation.isTraceless_pure _
  | createDraft => exact (Operation.isTraceless_createDraft _).map _
  | forkDraft => exact (Operation.isTraceless_forkDraft _).map _
  | transition => exact (Operation.isTraceless_transition _ _).map _
  | transitionAndEvict =>
    exact ((Operation.isTraceless_transition _ _).bind fun version =>
      (Operation.succeeds_evict _).bind fun _ => Operation.succeeds_pure version).map _
  | importBundle => exact (Operation.isTraceless_importBundle _ _).map _
  | compileBlueprint settings =>
    exact Operation.IsTraceless.map _ (.of_query (Operation.query_chooseVersion _ _)
      fun version => Operation.isTraceless_compileOrFetch settings version)
  | compileVersion settings =>
    exact Operation.IsTraceless.map _ (.of_query (Operation.query_getVersion _)
      fun version => Operation.isTraceless_compileOrFetch settings version)

/-- Whatever goes wrong with its calls, an operation that fails leaves the store and its agent as
they were. A call of several writes that succeeds leaves what the writes leave one after another. -/
theorem World.unchanged_of_failure (mishaps : Nat → Mishap) (world : World) (agent : Agent)
    (command : Command) :
    (∀ failure, (world.performUnder mishaps agent command.operation).1 = .error failure →
        (world.performUnder mishaps agent command.operation).2.1.store = world.store ∧
          (world.performUnder mishaps agent command.operation).2.2 = agent) ∧
      ∀ (store : Store) (mishap : Mishap) (set : DefinitionSet),
        ((store.runUnder mishap (.saveAll set)).1 = .ok () →
          store.runAll (set.definitions.map .save) =
            some (store.runUnder mishap (.saveAll set)).2) ∧
        ∀ version, (store.runUnder mishap (.insertVersionWith version set)).1 = .ok () →
          store.runAll (.insertVersion version :: set.definitions.map .save) =
            some (store.runUnder mishap (.insertVersionWith version set)).2 := by
  refine ⟨fun failure hfailure => ?_, fun store mishap set => ⟨fun hok => ?_, fun version hok => ?_⟩⟩
  · have htraceless := Operation.isTraceless_iff.mp command.isTraceless
    rcases @run_of_isTraceless _ mishaps _ htraceless 0 world agent with hok | hsame
    · have hisOk : true = false := hok.symm.trans (congrArg Except.isOk hfailure)
      cases hisOk
    · exact hsame
  · have hrun := Store.runUnder_eq_run hok
    rw [hrun] at hok ⊢
    have hall := Store.runAll_of_commit hok
    rwa [Store.Call.writes, List.map_map] at hall
  · have hrun := Store.runUnder_eq_run hok
    rw [hrun] at hok ⊢
    have hall := Store.runAll_of_commit hok
    rwa [Store.Call.writes, List.map_cons, List.map_map] at hall

/-- The third write of every call is lost. -/
def Mishap.thirdLost : Mishap where
  single place := if place = 2 then some .storeUnavailable else none

/-- A fork stops short at the first field of its copy, after its version and a type were written. -/
theorem World.unchanged_of_failure_fork :
    (∃ failure, ((charted plain).performUnder (fun _ => .thirdLost) {}
        (Command.forkDraft "v").operation).1 = .error failure ∧
      ((charted plain).performUnder (fun _ => .thirdLost) {}
        (Command.forkDraft "v").operation).2.1.store = (charted plain).store ∧
      ((charted plain).performUnder (fun _ => .thirdLost) {}
        (Command.forkDraft "v").operation).2.2 = {}) ∧
    (charted plain).store.runAll [.save (.viewTemplate ⟨"d", "v", "Map", none, plain⟩)] =
      some ((charted plain).store.runUnder .thirdLost
        (.saveAll { viewTemplates := [⟨"d", "v", "Map", none, plain⟩] })).2 := by
  have hunchanged := unchanged_of_failure (fun _ => .thirdLost) (charted plain) {} (.forkDraft "v")
  constructor
  · have hfails : ((charted plain).performUnder (fun _ => .thirdLost) {}
        (Command.forkDraft "v").operation).1.isOk = false := by decide +kernel
    cases houtcome : ((charted plain).performUnder (fun _ => .thirdLost) {}
        (Command.forkDraft "v").operation).1 with
    | ok value =>
      rw [houtcome] at hfails
      cases hfails
    | error failure => exact ⟨failure, rfl, hunchanged.1 failure houtcome⟩
  · have hsaved : ((charted plain).store.runUnder .thirdLost
        (.saveAll { viewTemplates := [⟨"d", "v", "Map", none, plain⟩] })).1 = .ok () := rfl
    exact (hunchanged.2 _ _ _).1 hsaved

end KnowledgeSchema
