import KnowledgeSchema.Proofs.Concurrent.System
import KnowledgeSchema.Proofs.Store.Versions

/-!
# Requests of commands

Most requests neither ask for a change of the store nor tell of one. Each command has at most two
others.
-/

namespace KnowledgeSchema

/-- A request that neither asks the store for a change nor tells that a status changed. -/
def Request.IsQuiet : Request → Prop
  | .store call _ => call.isChange = false
  | .record (.statusChanged ..) => False
  | _ => True

/-- A request that leaves the store as it is, and its agent too. -/
def Request.IsReading : Request → Prop
  | .store call _ => call.isChange = false
  | .freshIds _ | .now | .fetch _ => True
  | .record _ | .keep _ | .evict _ => False

/-- A call of the store that asks for no change. -/
def Request.IsQuery : Request → Prop
  | .store call _ => call.isChange = false
  | _ => False

theorem Request.IsQuery.isQuiet {r : Request} (hquery : r.IsQuery) : r.IsQuiet := by
  cases r with
  | store => exact hquery
  | _ => cases hquery

theorem Request.IsQuery.isReading {r : Request} (hquery : r.IsQuery) : r.IsReading := by
  cases r with
  | store => exact hquery
  | _ => cases hquery

/-- The requests of a command that are not quiet. -/
def Command.MayChange : Command → Request → Prop
  | createBlueprint .., .store (.saveBlueprint _) _ => True
  | createDraft _, .store (.insertVersion version) _ => version.IsNew
  | forkDraft _, .store (.insertVersionWith version _) _ => version.IsNew
  | transition .., .store (.updateStatus ..) _ => True
  | transition .., .record (.statusChanged ..) => True
  | transitionAndEvict .., .store (.updateStatus ..) _ => True
  | transitionAndEvict .., .record (.statusChanged ..) => True
  | importBundle .., .store (.saveAll _) _ => True
  | _, _ => False

def Command.MayMake (command : Command) (r : Request) : Prop :=
  r.IsQuiet ∨ command.MayChange r

theorem Scene.store_exchange_of_quiet {scene : Scene} {r : Request}
    (hworld : scene.world.IsUndisturbed) (caller : Caller) (hquiet : r.IsQuiet) :
    (scene.exchange caller r).2.store = scene.store := by
  cases r with
  | store call limit =>
    rcases exchange_store hworld caller call limit with ⟨-, hafter⟩ | ⟨-, hafter⟩
    · rw [Scene.store, hafter]
      exact Store.run_eq_of_isChange hquiet
    · rw [Scene.store, hafter]
  | _ => rfl

theorem Scene.keys_exchange {scene : Scene} (hworld : scene.world.IsUndisturbed) (caller : Caller)
    (r : Request) : scene.store.keys <+: (scene.exchange caller r).2.store.keys := by
  cases r with
  | store call limit =>
    rcases exchange_store hworld caller call limit with ⟨-, hafter⟩ | ⟨-, hafter⟩
    · rw [Scene.store, Scene.store, hafter]
      exact Store.keys_run_prefix _ call
    · rw [Scene.store, Scene.store, hafter]
  | _ => exact List.prefix_rfl

namespace Operation

variable {allowed : Request → Prop}

/-! ### Operations that query -/

theorem query_callWithin {limit : Option Nat} {call : Store.Call} (hcall : call.isChange = false) :
    Every Request.IsQuery (callWithin limit call) :=
  every_callWithin hcall

theorem query_readContent (limit : Option Nat) (versionId : String) :
    Every Request.IsQuery (readContent limit versionId) := by
  have hfields : ∀ type, Every Request.IsQuery (withFields limit type) := fun type =>
    (query_callWithin rfl).bind fun fields => every_pure (type, fields)
  have hattributes : ∀ relationship, Every Request.IsQuery (withAttributes limit relationship) :=
    fun relationship => (query_callWithin rfl).bind fun attributes =>
      every_pure (relationship, attributes)
  have hlists : ∀ profile, Every Request.IsQuery (withLists limit profile) := fun profile =>
    (query_callWithin rfl).bind fun _ => (query_callWithin rfl).bind fun _ => every_pure _
  refine (query_callWithin rfl).bind fun types => (every_mapM hfields types).bind fun _ => ?_
  refine (query_callWithin rfl).bind fun relationships =>
    (every_mapM hattributes relationships).bind fun _ => ?_
  refine (query_callWithin rfl).bind fun _ => (query_callWithin rfl).bind fun _ => ?_
  apply (query_callWithin rfl).bind
  intro profile
  exact (every_mapM_option hlists profile).bind fun _ => every_pure _

theorem query_getVersion (versionId : String) :
    Every Request.IsQuery (getVersion versionId) := by
  refine (query_callWithin rfl).bind fun version? => ?_
  cases version? with
  | none => exact every_throw _
  | some version => exact every_pure version

theorem query_getBlueprint (blueprintId : String) :
    Every Request.IsQuery (getBlueprint blueprintId) := by
  refine (query_callWithin rfl).bind fun blueprint? => ?_
  cases blueprint? with
  | none => exact every_throw _
  | some blueprint => exact every_pure blueprint

theorem query_listVersions (blueprintId : String) :
    Every Request.IsQuery (listVersions blueprintId) :=
  (query_getBlueprint blueprintId).bind fun _ => query_callWithin rfl

theorem query_nextNumber (blueprintId : String) :
    Every Request.IsQuery (nextNumber blueprintId) := by
  refine (query_callWithin rfl).bind fun number? => ?_
  cases number? with
  | none => exact every_pure 1
  | some number => exact every_pure (number + 1)

theorem query_chooseVersion (blueprintId : String) (versionId : Option String) :
    Every Request.IsQuery (chooseVersion blueprintId versionId) := by
  cases versionId with
  | some versionId =>
    refine (query_callWithin rfl).bind fun version? => ?_
    cases version? with
    | none => exact every_throw _
    | some version => exact every_pure version
  | none =>
    apply (query_callWithin rfl).bind
    intro versions
    split
    next version _ => exact every_pure version
    next =>
      refine (query_callWithin rfl).bind fun blueprint? => ?_
      cases blueprint? with
      | none => exact every_throw _
      | some blueprint => exact every_throw _

theorem query_compile (maxDepth : UInt64) (limit : Option Nat) (versionId : String) :
    Every Request.IsQuery (compile maxDepth limit versionId) := by
  refine (query_callWithin rfl).bind fun version? => ?_
  cases version? with
  | none => exact every_throw _
  | some version =>
    refine (query_callWithin rfl).bind fun blueprint? => ?_
    cases blueprint? with
    | none => exact every_throw _
    | some blueprint => exact (query_readContent limit version.id).bind fun _ => every_pure _

/-! ### Quiet operations -/

theorem quiet_callWithin {limit : Option Nat} {call : Store.Call} (hcall : call.isChange = false) :
    Every Request.IsQuiet (callWithin limit call) :=
  every_callWithin hcall

theorem Every.isQuiet {α : Type} {operation : Operation α}
    (hquery : Every Request.IsQuery operation) : Every Request.IsQuiet operation :=
  hquery.mono fun _ => Request.IsQuery.isQuiet

theorem quiet_readContent (limit : Option Nat) (versionId : String) :
    Every Request.IsQuiet (readContent limit versionId) :=
  (query_readContent limit versionId).isQuiet

theorem quiet_compileAndRecord (settings : CompilerSettings) (version : Version) :
    Every Request.IsQuiet (compileAndRecord settings version) :=
  (query_compile _ _ _).isQuiet.bind fun _ => (every_now trivial).bind fun _ =>
    (every_record trivial).bind fun _ => every_pure _

theorem quiet_compileOrFetch (settings : CompilerSettings) (version : Version) :
    Every Request.IsQuiet (compileOrFetch settings version) := by
  refine every_ite ?_ (quiet_compileAndRecord settings version)
  refine (every_fetch trivial).bind fun kept? => ?_
  cases kept? with
  | some artifact => exact every_pure artifact
  | none =>
    apply (quiet_compileAndRecord settings version).bind
    intro artifact
    exact every_ite ((every_keep trivial).bind fun _ => every_pure _) (every_pure _)

/-! ### Operations that ask for a change -/

theorem Every.quietly {α : Type} {operation : Operation α} {command : Command}
    (hquiet : Every Request.IsQuiet operation) : Every command.MayMake operation :=
  hquiet.mono fun _ => Or.inl

variable {command : Command}

theorem every_createBlueprint {name : String} {description : Option String} {tags : List String}
    {isSystem : Bool} (hsave : ∀ blueprint limit,
      command.MayMake (.store (.saveBlueprint blueprint) limit)) :
    Every command.MayMake (createBlueprint name description tags isSystem) := by
  simp only [createBlueprint, throw_bind]
  apply every_ite (every_throw _)
  apply (every_freshIds (Or.inl trivial)).bind
  intro _
  apply (every_now (Or.inl trivial)).bind
  intro _
  refine (every_callWithin (hsave _ _)).bind fun _ => (every_now (Or.inl trivial)).bind fun _ => ?_
  exact Every.bind (every_record (Or.inl trivial)) fun _ => every_pure _

theorem every_claimNumber {version : Version} {forkedFrom : Option String}
    {set? : Option DefinitionSet} (hquiet : ∀ r, r.IsQuiet → allowed r)
    (hinsert : ∀ number, Every allowed (tryInsert { version with number } set?))
    (attempts : Nat) (conflict : Failure) :
    Every allowed (claimNumber version forkedFrom set? attempts conflict) := by
  induction attempts generalizing version conflict with
  | zero => exact every_throw conflict
  | succ attempts ih =>
    have hnext := (query_nextNumber version.blueprintId).isQuiet.mono hquiet
    refine hnext.bind fun number => (hinsert number).bind fun outcome => ?_
    rcases outcome with failure | _
    · cases failure with
      | versionConflict => exact @ih { version with number } (fun other => hinsert other) _
      | _ => exact every_throw _
    · exact (every_now (hquiet _ trivial)).bind fun _ =>
        Every.bind (every_record (hquiet _ trivial)) fun _ => every_pure _

theorem every_createVersion {version : Version} {forkedFrom : Option String}
    {set? : Option DefinitionSet} (hquiet : ∀ r, r.IsQuiet → allowed r)
    (hinsert : ∀ number, Every allowed (tryInsert { version with number } set?)) :
    Every allowed (createVersion version forkedFrom set?) := by
  refine ((quiet_callWithin rfl).mono hquiet).bind fun blueprint? => ?_
  exact every_ite (every_throw _) (every_claimNumber hquiet hinsert _ _)

theorem every_moveTo {versionId : String} {next : Status}
    (hupdate : ∀ id expected status publishedAt limit,
      command.MayMake (.store (.updateStatus id expected status publishedAt) limit))
    (hrecord : ∀ id before after time,
      command.MayMake (.record (.statusChanged id before after time)))
    (attempts : Nat) : Every command.MayMake (moveTo versionId next attempts) := by
  induction attempts with
  | zero => exact every_throw _
  | succ attempts ih =>
    refine (Every.quietly (quiet_callWithin rfl)).bind fun version? => ?_
    cases version? with
    | none => exact every_throw _
    | some version =>
      apply every_ite (every_pure version)
      refine (every_now (Or.inl trivial)).bind fun _ => (every_lift _).bind fun moved => ?_
      refine (every_callWithin (hupdate _ _ _ _ _)).bind fun updated => every_ite ?_ ih
      exact (every_now (Or.inl trivial)).bind fun _ =>
        Every.bind (every_record (hrecord _ _ _ _)) fun _ => every_pure moved

theorem every_transition {versionId : String} {next : Status}
    (hupdate : ∀ id expected status publishedAt limit,
      command.MayMake (.store (.updateStatus id expected status publishedAt) limit))
    (hrecord : ∀ id before after time,
      command.MayMake (.record (.statusChanged id before after time))) :
    Every command.MayMake (transition versionId next) :=
  every_moveTo hupdate hrecord transitionAttempts

theorem every_importBundle {versionId : String} {bundle : Bundle}
    (hsave : ∀ set limit, command.MayMake (.store (.saveAll set) limit)) :
    Every command.MayMake (importBundle versionId bundle) := by
  apply (Every.quietly (query_getVersion versionId).isQuiet).bind
  intro version
  refine (every_lift _).bind fun _ => (every_freshIds (Or.inl trivial)).bind fun ids => ?_
  exact (every_lift _).bind fun set => (every_callWithin (hsave _ _)).bind fun _ => every_pure _

end Operation

open Operation in
theorem Command.every_mayMake (command : Command) : command.operation.Every command.MayMake := by
  cases command with
  | createBlueprint name description tags isSystem =>
    have hcreate : Operation.Every (createBlueprint name description tags isSystem).MayMake
        (Operation.createBlueprint name description tags isSystem) :=
      every_createBlueprint fun _ _ => Or.inr trivial
    exact hcreate.map _
  | listVersions blueprintId => exact Every.map _ (Every.quietly (query_listVersions blueprintId).isQuiet)
  | createDraft blueprintId =>
    refine Every.map _ ((every_freshIds (Or.inl trivial)).bind fun _ =>
      (every_now (Or.inl trivial)).bind fun _ =>
        every_createVersion (fun _ => Or.inl) fun number => ?_)
    exact every_attempt (Or.inr ⟨rfl, rfl⟩)
  | forkDraft sourceId =>
    refine Every.map _ ((Every.quietly (quiet_callWithin rfl)).bind fun source? => ?_)
    cases source? with
    | none => exact every_throw _
    | some source =>
      apply (every_freshIds (Or.inl trivial)).bind
      intro _
      apply (every_now (Or.inl trivial)).bind
      intro _
      apply (Every.quietly (quiet_readContent none source.id)).bind
      intro content
      refine (every_freshIds (Or.inl trivial)).bind fun _ =>
        every_createVersion (fun _ => Or.inl) fun number => ?_
      exact every_attempt (Or.inr ⟨rfl, rfl⟩)
  | transition versionId next =>
    have hmove : Operation.Every (Command.transition versionId next).MayMake
        (Operation.transition versionId next) :=
      every_transition (fun _ _ _ _ _ => Or.inr trivial) fun _ _ _ _ => Or.inr trivial
    exact hmove.map _
  | transitionAndEvict versionId next =>
    have hmove : Operation.Every (Command.transitionAndEvict versionId next).MayMake
        (Operation.transition versionId next) :=
      every_transition (fun _ _ _ _ _ => Or.inr trivial) fun _ _ _ _ => Or.inr trivial
    refine Every.map _ (hmove.bind fun version => ?_)
    exact (every_evict (Or.inl trivial)).bind fun _ => every_pure version
  | importBundle => exact Every.map _ (every_importBundle fun _ _ => Or.inr trivial)
  | compileBlueprint settings blueprintId versionId =>
    exact Every.map _ (Every.quietly ((query_chooseVersion _ _).isQuiet.bind fun version =>
      quiet_compileOrFetch settings version))
  | compileVersion settings versionId =>
    exact Every.map _ (Every.quietly ((query_getVersion _).isQuiet.bind fun version =>
      quiet_compileOrFetch settings version))

end KnowledgeSchema
