import KnowledgeSchema.Proofs.Auditing.Ledger
import KnowledgeSchema.Proofs.Auditing.Turns
import KnowledgeSchema.Proofs.Lifecycle.Row

/-!
# What commands record

A command that succeeds records what it did, and nothing when there was nothing to do: a version had
the status already, or an artifact was found kept. What it records is entered in the ledger that the
store is left with.
-/

namespace KnowledgeSchema

def Store.status? (store : Store) (versionId : String) : Option Status :=
  (store.row? versionId).map (·.status)

theorem Store.run_updateStatus_of_not {store : Store} {id : String} {expected status : Status}
    {publishedAt : Option Timestamp}
    (hmissed : (store.run (.updateStatus id expected status publishedAt)).1 = .ok false) :
    (store.run (.updateStatus id expected status publishedAt)).2 = store :=
  updateStatus_of_not (Except.ok.inj hmissed)

namespace Command

/-- The version that a command moves, and the status that it moves it to. -/
def target? : Command → Option (String × Status)
  | transition versionId next => some (versionId, next)
  | transitionAndEvict versionId next => some (versionId, next)
  | _ => none

def isCompile : Command → Bool
  | compileBlueprint .. => true
  | compileVersion .. => true
  | _ => false

/-- What a command that succeeds has to record, by its reply, the store before it, and whether it
found an artifact kept. -/
inductive Records (before : Store) (isHit : Bool) : Command → Reply → List Event → Prop where
  | blueprint {name : String} {description : Option String} {tags : List String} {isSystem : Bool}
      {blueprint : Blueprint} {time : Timestamp} :
      Records before isHit (createBlueprint name description tags isSystem) (.blueprint blueprint)
        [.blueprintCreated blueprint.id blueprint.name time]
  | draft {blueprintId : String} {version : Version} {time : Timestamp}
      (hblueprint : version.blueprintId = blueprintId) :
      Records before isHit (createDraft blueprintId) (.version version)
        [.versionCreated blueprintId version.id version.number none time]
  | fork {sourceId : String} {version : Version} {time : Timestamp} :
      Records before isHit (forkDraft sourceId) (.version version)
        [.versionCreated version.blueprintId version.id version.number (some sourceId) time]
  | moved {command : Command} {versionId : String} {status next : Status} {version : Version}
      {time : Timestamp} (htarget : command.target? = some (versionId, next))
      (hstatus : before.status? versionId = some status) (hother : status ≠ next) :
      Records before isHit command (.version version) [.statusChanged versionId status next time]
  | unmoved {command : Command} {versionId : String} {next : Status} {version : Version}
      (htarget : command.target? = some (versionId, next))
      (hstatus : before.status? versionId = some next) :
      Records before isHit command (.version version) []
  | compiled {command : Command} {artifact : Artifact} {time : Timestamp}
      (hcompile : command.isCompile = true) (hmade : isHit = false) :
      Records before isHit command (.artifact artifact)
        [.versionCompiled artifact.version.id artifact.fingerprint
          (UInt64.ofNat artifact.diagnostics.length) time]
  | fetched {command : Command} {artifact : Artifact} (hcompile : command.isCompile = true)
      (hhit : isHit = true) : Records before isHit command (.artifact artifact) []
  | imported {versionId : String} {bundle : Bundle} {summary : ImportSummary} :
      Records before isHit (importBundle versionId bundle) (.summary summary) []
  | listed {blueprintId : String} {versions : List Version} :
      Records before isHit (listVersions blueprintId) (.versions versions) []

end Command

/-! ### Progress of single operations -/

namespace Progress

variable {ids : Ids} {before between after : Progress} {event : Event}

/-- The ids still to come are no ids of blueprints. -/
def IsFresh (ids : Ids) (progress : Progress) : Prop :=
  ∀ place, progress.taken ≤ place → progress.store.hasBlueprint (ids place) = false

/-- All that shows of an operation is an event, which is entered. -/
structure Enters (before after : Progress) (event : Event) : Prop where
  events : after.events = before.events ++ [event]
  ledger : after.store.ledger = before.store.ledger.enter event
  blueprints : after.store.blueprints = before.store.blueprints
  taken : after.taken = before.taken
  isHit : after.isHit = before.isHit

/-- All that shows of compiling is an event, or that the artifact was found kept. -/
inductive Compiles (before : Progress) (artifact : Artifact) : Progress → Prop where
  | made (time : Timestamp) : Compiles before artifact
      { before with events := before.events ++
          [.versionCompiled artifact.version.id artifact.fingerprint
            (UInt64.ofNat artifact.diagnostics.length) time] }
  | fetched : Compiles before artifact { before with isHit := true }

theorem IsFresh.later (hfresh : before.IsFresh ids)
    (hblueprints : after.store.blueprints = before.store.blueprints)
    (htaken : before.taken ≤ after.taken) : after.IsFresh ids := by
  intro place hplace
  unfold Store.hasBlueprint
  rw [hblueprints]
  exact hfresh place (htaken.trans hplace)

end Progress

namespace Operation

variable {ids : Ids} {progress : Progress}

theorem leads_createBlueprint (hdistinct : Function.Injective ids) (hfresh : progress.IsFresh ids)
    (name : String) (description : Option String) (tags : List String) (isSystem : Bool) :
    Leads ids progress (createBlueprint name description tags isSystem) fun blueprint after =>
      after.IsFresh ids ∧ ∃ time,
        after.events = progress.events ++ [.blueprintCreated blueprint.id blueprint.name time] ∧
        after.store.ledger =
          progress.store.ledger.enter (.blueprintCreated blueprint.id blueprint.name time) := by
  simp only [createBlueprint, throw_bind]
  refine leads_ite (fun _ => leads_throw _) fun _ => ?_
  apply Leads.bind
  apply leads_freshId
  apply Leads.bind
  apply leads_now
  intro created
  apply Leads.bind
  apply leads_call
  intro _ _
  apply Leads.bind
  apply leads_now
  intro time
  apply Leads.bind
  apply leads_record
  apply leads_pure
  have hunused := hfresh progress.taken (Nat.le_refl _)
  refine ⟨fun place hplace => ?_, time, rfl, Store.ledger_saveBlueprint hunused time⟩
  change progress.taken + 1 ≤ place at hplace
  change (progress.store.saveBlueprint _).hasBlueprint (ids place) = false
  have hother : ids progress.taken ≠ ids place := fun hsame => by
    have hplaces := hdistinct hsame
    omega
  rw [Store.hasBlueprint, Store.blueprints_saveBlueprint hunused, List.any_append,
    Bool.or_eq_false_iff]
  refine ⟨hfresh place (by omega), ?_⟩
  rw [List.any_cons, List.any_nil, Bool.or_false]
  exact beq_eq_false_iff_ne.mpr hother

/-- With definitions or without, a version is inserted by a single call. -/
theorem leads_tryInsert {version : Version} {set? : Option DefinitionSet}
    {goal : Except Failure Unit → Progress → Prop}
    (herror : ∀ failure, goal (.error failure) progress)
    (hok : ∀ store, progress.store.writeAll (version.writes set?) = .ok store →
      goal (.ok ()) { progress with store }) :
    Leads ids progress (tryInsert version set?) goal := by
  cases set? with
  | none => exact leads_attempt herror fun _ hrun => hok _ (Store.writeAll_of_commit hrun)
  | some set =>
    have hwrites : version.writes (some set) = (Store.Call.insertVersionWith version set).writes := by
      simp [Version.writes, Store.Call.writes]
    rw [hwrites] at hok
    exact leads_attempt herror fun _ hrun => hok _ (Store.writeAll_of_commit hrun)

theorem leads_claimNumber {version : Version} (hdraft : version.status = .draft)
    (forkedFrom : Option String) (set? : Option DefinitionSet) (attempts : Nat)
    (conflict : Failure) :
    Leads ids progress (claimNumber version forkedFrom set? attempts conflict)
      fun created after => created.id = version.id ∧ created.blueprintId = version.blueprintId ∧
        ∃ time, progress.Enters after
          (.versionCreated version.blueprintId version.id created.number forkedFrom time) := by
  induction attempts generalizing version conflict with
  | zero => exact leads_throw conflict
  | succ attempts ih =>
    apply Leads.bind
    apply leads_of_query (query_nextNumber _)
    intro number
    apply Leads.bind
    apply leads_tryInsert
    · intro failure
      cases failure with
      | versionConflict => exact @ih { version with number } hdraft _
      | _ => exact leads_throw _
    · intro store hwrite
      apply Leads.bind
      apply leads_now
      intro time
      apply Leads.bind
      apply leads_record
      apply leads_pure
      have hnew : ({ version with number } : Version).status = .draft := hdraft
      exact ⟨rfl, rfl, time, rfl, Store.ledger_inserted hnew hwrite forkedFrom time,
        Store.blueprints_inserted hwrite, rfl, rfl⟩

theorem leads_createVersion {version : Version} (hdraft : version.status = .draft)
    (forkedFrom : Option String) (set? : Option DefinitionSet) :
    Leads ids progress (createVersion version forkedFrom set?)
      fun created after => created.id = version.id ∧ created.blueprintId = version.blueprintId ∧
        ∃ time, progress.Enters after
          (.versionCreated version.blueprintId version.id created.number forkedFrom time) := by
  apply Leads.bind
  apply leads_query rfl
  intro blueprint? _
  exact leads_ite (fun _ => leads_throw _) fun _ => leads_claimNumber hdraft _ _ _ _

theorem leads_createDraft (blueprintId : String) :
    Leads ids progress (createDraft blueprintId) fun version after =>
      version.blueprintId = blueprintId ∧
        ∃ later time, progress.taken ≤ later ∧ ({ progress with taken := later }).Enters after
          (.versionCreated blueprintId version.id version.number none time) := by
  apply Leads.bind
  apply leads_freshId
  apply Leads.bind
  apply leads_now
  intro created
  refine (leads_createVersion rfl none none).mono ?_
  rintro version after ⟨hid, hblueprint, time, henters⟩
  rw [← hid] at henters
  exact ⟨hblueprint, _, time, Nat.le_succ _, henters⟩

theorem leads_forkDraft (sourceId : String) :
    Leads ids progress (forkDraft sourceId) fun version after =>
      ∃ later time, progress.taken ≤ later ∧ ({ progress with taken := later }).Enters after
        (.versionCreated version.blueprintId version.id version.number (some sourceId) time) := by
  apply Leads.bind
  apply leads_query rfl
  intro source? hsource
  cases source? with
  | none => exact leads_throw _
  | some source =>
    have hid : source.id = sourceId := Store.id_of_version? hsource
    apply Leads.bind
    apply leads_freshId
    apply Leads.bind
    apply leads_now
    intro created
    apply Leads.bind
    apply leads_of_query (query_readContent none source.id)
    intro content
    apply Leads.bind
    apply leads_freshIds
    refine (leads_createVersion rfl _ _).mono ?_
    rintro version after ⟨hnew, hblueprint, time, henters⟩
    rw [← hnew, ← hblueprint, hid] at henters
    have hlater : progress.taken ≤ progress.taken + 1 + content.idCount := by omega
    exact ⟨_, time, hlater, henters⟩

/-- Moving a version tells of it, unless it has the status already. -/
theorem leads_moveTo (versionId : String) (next : Status) (attempts : Nat) :
    Leads ids progress (moveTo versionId next attempts) fun _ after =>
      (progress.store.status? versionId = some next ∧ after = progress) ∨
        ∃ status time, progress.store.status? versionId = some status ∧ status ≠ next ∧
          progress.Enters after (.statusChanged versionId status next time) := by
  induction attempts with
  | zero => exact leads_throw _
  | succ attempts ih =>
    apply Leads.bind
    apply leads_query rfl
    intro version? hversion
    cases version? with
    | none => exact leads_throw _
    | some version =>
      have hid : version.id = versionId := Store.id_of_version? hversion
      have hstatus : progress.store.status? versionId = some version.status := by
        obtain ⟨row, hrow, hread⟩ := Store.version?_eq_some hversion
        rw [Store.status?, hrow, Option.map_some, (VersionRow.eq_of_toVersion hread).2.2.2]
      refine leads_ite (fun hsame => ?_) fun hother => ?_
      · exact leads_pure (Or.inl ⟨hsame ▸ hstatus, rfl⟩)
      apply Leads.bind
      apply leads_now
      intro _
      apply Leads.bind
      apply leads_lift
      intro moved hmoved
      obtain ⟨-, rfl⟩ := Version.transition_eq_ok hmoved
      apply Leads.bind
      apply leads_call
      rintro (_ | _) hrun
      · -- Somebody else was first, so nothing has been changed.
        rw [Store.run_updateStatus_of_not hrun]
        exact ih
      · apply Leads.bind
        apply leads_now
        intro time
        apply Leads.bind
        apply leads_record
        apply leads_pure
        refine Or.inr ⟨version.status, time, hstatus, hother, ?_⟩
        rw [← hid]
        exact ⟨rfl, Store.ledger_updateStatus _ _ _ _ _ time, rfl, rfl, rfl⟩

theorem leads_importBundle (versionId : String) (bundle : Bundle) :
    Leads ids progress (importBundle versionId bundle) fun _ after =>
      after.events = progress.events ∧ after.store.ledger = progress.store.ledger ∧
        after.store.blueprints = progress.store.blueprints ∧ progress.taken ≤ after.taken := by
  apply Leads.bind
  apply leads_of_query (query_getVersion versionId)
  intro version
  apply Leads.bind
  apply leads_lift
  intro _ _
  apply Leads.bind
  apply leads_freshIds
  apply Leads.bind
  apply leads_lift
  intro set _
  apply Leads.bind
  apply leads_call
  intro _ hrun
  apply leads_pure
  obtain ⟨hledger, hblueprints⟩ := Store.ledger_saveAll hrun
  exact ⟨rfl, hledger, hblueprints, Nat.le_add_right _ _⟩

theorem leads_compile (maxDepth : UInt64) (limit : Option Nat) (versionId : String) :
    Leads ids progress (compile maxDepth limit versionId) fun artifact after =>
      artifact.version.id = versionId ∧ after = progress := by
  apply Leads.bind
  apply leads_query rfl
  intro version? hversion
  cases version? with
  | none => exact leads_throw _
  | some version =>
    apply Leads.bind
    apply leads_query rfl
    intro blueprint? _
    cases blueprint? with
    | none => exact leads_throw _
    | some blueprint =>
      apply Leads.bind
      apply leads_of_query (query_readContent limit version.id)
      intro content
      exact leads_pure ⟨Store.id_of_version? hversion, rfl⟩

theorem leads_compileAndRecord (settings : CompilerSettings) (version : Version) :
    Leads ids progress (compileAndRecord settings version) fun artifact after =>
      progress.Compiles artifact after := by
  apply Leads.bind
  refine (leads_compile _ _ version.id).mono ?_
  rintro artifact _ ⟨hid, rfl⟩
  apply Leads.bind
  apply leads_now
  intro time
  apply Leads.bind
  apply leads_record
  apply leads_pure
  rw [← hid]
  exact .made time

theorem leads_compileOrFetch (settings : CompilerSettings) (version : Version) :
    Leads ids progress (compileOrFetch settings version) fun artifact after =>
      progress.Compiles artifact after := by
  refine leads_ite (fun _ => ?_) fun _ => leads_compileAndRecord settings version
  apply Leads.bind
  apply leads_fetch
  intro kept?
  cases kept? with
  | some artifact =>
    apply leads_pure
    rw [Option.isSome_some, Bool.or_true]
    exact .fetched
  | none =>
    rw [Option.isSome_none, Bool.or_false]
    apply Leads.bind
    refine (leads_compileAndRecord settings version).mono fun artifact after hcompiles => ?_
    refine leads_ite (fun _ => ?_) fun _ => leads_pure hcompiles
    apply Leads.bind
    apply leads_keep
    exact leads_pure hcompiles

theorem leads_transitionAndEvict {versionId : String} {next : Status}
    {goal : Version → Progress → Prop}
    (hgoal : Leads ids progress (transition versionId next) goal) :
    Leads ids progress (transitionAndEvict versionId next) goal := by
  apply Leads.bind
  refine hgoal.mono fun version after hafter => ?_
  apply Leads.bind
  apply leads_evict
  exact leads_pure hafter

end Operation

/-! ### Progress of commands -/

/-- What shows is what there is to record, and it is entered in the ledger of the store before. -/
structure Progress.Tells (ids : Ids) (before : Store) (records : Bool → List Event → Prop)
    (after : Progress) : Prop where
  records : records after.isHit after.events
  ledger : after.store.ledger = before.ledger.enterAll after.events
  fresh : after.IsFresh ids

theorem Progress.Tells.imp {ids : Ids} {before : Store} {records others : Bool → List Event → Prop}
    {after : Progress} (htells : after.Tells ids before records)
    (himp : ∀ isHit events, records isHit events → others isHit events) :
    after.Tells ids before others :=
  ⟨himp _ _ htells.records, htells.ledger, htells.fresh⟩

namespace Command

/-- What is left by a command that succeeds, when nothing had shown but a store before it. -/
abbrev Tells (ids : Ids) (before : Store) (command : Command) (reply : Reply) (after : Progress) :
    Prop :=
  after.Tells ids before fun isHit events => command.Records before isHit reply events

variable {ids : Ids} {store : Store} {taken : Nat} {command : Command} {reply : Reply}
  {after : Progress}

theorem tells_of_enters {later : Nat} {event : Event}
    (hfresh : ({ store, taken } : Progress).IsFresh ids) (hlater : taken ≤ later)
    (henters : ({ store, taken := later } : Progress).Enters after event)
    (hrecords : command.Records store after.isHit reply [event]) :
    command.Tells ids store reply after := by
  constructor
  case records =>
    rw [henters.events]
    exact hrecords
  case ledger =>
    rw [henters.events, henters.ledger]
    rfl
  case fresh => exact hfresh.later henters.blueprints (henters.taken ▸ hlater)

theorem tells_of_moved {versionId : String} {next : Status} {version : Version}
    (hfresh : ({ store, taken } : Progress).IsFresh ids)
    (htarget : command.target? = some (versionId, next))
    (hmoved : (store.status? versionId = some next ∧ after = { store, taken }) ∨
      ∃ status time, store.status? versionId = some status ∧ status ≠ next ∧
        ({ store, taken } : Progress).Enters after (.statusChanged versionId status next time)) :
    command.Tells ids store (.version version) after := by
  rcases hmoved with ⟨hstatus, rfl⟩ | ⟨status, time, hstatus, hother, henters⟩
  · exact ⟨.unmoved htarget hstatus, rfl, hfresh⟩
  · exact tells_of_enters hfresh (Nat.le_refl _) henters (.moved htarget hstatus hother)

theorem tells_of_compiles {artifact : Artifact}
    (hfresh : ({ store, taken } : Progress).IsFresh ids) (hcompile : command.isCompile = true)
    (hcompiles : ({ store, taken } : Progress).Compiles artifact after) :
    command.Tells ids store (.artifact artifact) after := by
  cases hcompiles with
  | made time => exact ⟨.compiled hcompile rfl, rfl, hfresh⟩
  | fetched => exact ⟨.fetched hcompile rfl, rfl, hfresh⟩

/-- A command that succeeds tells what it did. -/
theorem leads_operation (hdistinct : Function.Injective ids)
    (hfresh : ({ store, taken } : Progress).IsFresh ids) (command : Command) :
    Operation.Leads ids { store, taken } command.operation (command.Tells ids store) := by
  cases command with
  | createBlueprint name description tags isSystem =>
    apply Operation.Leads.map
    refine (Operation.leads_createBlueprint hdistinct hfresh _ _ _ _).mono ?_
    rintro blueprint after ⟨hafter, time, hevents, hledger⟩
    constructor
    case records =>
      rw [hevents]
      exact .blueprint
    case ledger =>
      rw [hevents, hledger]
      rfl
    case fresh => exact hafter
  | listVersions blueprintId =>
    apply Operation.Leads.map
    apply Operation.leads_of_query (Operation.query_listVersions blueprintId)
    intro versions
    exact ⟨.listed, rfl, hfresh⟩
  | createDraft blueprintId =>
    apply Operation.Leads.map
    refine (Operation.leads_createDraft blueprintId).mono ?_
    rintro version after ⟨hblueprint, later, time, hlater, henters⟩
    exact tells_of_enters hfresh hlater henters (.draft hblueprint)
  | forkDraft sourceId =>
    apply Operation.Leads.map
    refine (Operation.leads_forkDraft sourceId).mono ?_
    rintro version after ⟨later, time, hlater, henters⟩
    exact tells_of_enters hfresh hlater henters .fork
  | transition versionId next =>
    apply Operation.Leads.map
    refine (Operation.leads_moveTo versionId next _).mono fun version after hmoved => ?_
    exact tells_of_moved hfresh rfl hmoved
  | transitionAndEvict versionId next =>
    apply Operation.Leads.map
    apply Operation.leads_transitionAndEvict
    refine (Operation.leads_moveTo versionId next _).mono fun version after hmoved => ?_
    exact tells_of_moved hfresh rfl hmoved
  | importBundle versionId bundle =>
    apply Operation.Leads.map
    refine (Operation.leads_importBundle versionId bundle).mono ?_
    rintro summary after ⟨hevents, hledger, hblueprints, htaken⟩
    constructor
    case records =>
      rw [hevents]
      exact .imported
    case ledger =>
      rw [hevents, hledger]
      rfl
    case fresh => exact hfresh.later hblueprints htaken
  | compileBlueprint settings blueprintId versionId =>
    apply Operation.Leads.map
    apply Operation.Leads.bind
    apply Operation.leads_of_query (Operation.query_chooseVersion _ _)
    intro version
    refine (Operation.leads_compileOrFetch settings version).mono fun artifact after hcompiles => ?_
    exact tells_of_compiles hfresh rfl hcompiles
  | compileVersion settings versionId =>
    apply Operation.Leads.map
    apply Operation.Leads.bind
    apply Operation.leads_of_query (Operation.query_getVersion _)
    intro version
    refine (Operation.leads_compileOrFetch settings version).mono fun artifact after hcompiles => ?_
    exact tells_of_compiles hfresh rfl hcompiles

end Command

end KnowledgeSchema
