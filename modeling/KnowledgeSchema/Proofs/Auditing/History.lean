import KnowledgeSchema.Proofs.Auditing.Records
import KnowledgeSchema.Proofs.Caching.Transparency

/-!
# The history of a service

A service starts from an empty store and does what it is asked for, one thing after another, while
anything may go wrong with its calls. Page by page it is put down what was asked, what came of it,
and what was requested on the way.
-/

namespace KnowledgeSchema

/-- What a service is asked for. -/
inductive Ask where
  | errand (errand : Errand)
  | getBlueprint (blueprintId : String)
  | listBlueprints

namespace Ask

def command? : Ask → Option Command
  | errand (.command command) => some command
  | _ => none

/-- What is carried out, with the reply to a command. -/
def operation : Ask → Operation (Option Reply)
  | errand (.command command) => some <$> command.operation
  | errand (.invalidate versionId) => do
    Operation.evict versionId
    return none
  | errand .clearCache => return none
  | getBlueprint blueprintId => (fun _ => none) <$> Operation.getBlueprint blueprintId
  | listBlueprints => (fun _ => none) <$> Operation.listBlueprints

/-- What is left to do for an agent once an operation has been carried out. -/
def finish : Ask → Agent → Agent
  | errand .clearCache, agent => agent.evictAll
  | _, agent => agent

/-- What has to be recorded when something was done that was asked for. -/
inductive Records (before : Store) (isHit : Bool) : Ask → Option Reply → List Event → Prop where
  | command {command : Command} {reply : Reply} {events : List Event}
      (hrecords : command.Records before isHit reply events) :
      Records before isHit (errand (.command command)) (some reply) events
  | other {ask : Ask} {reply? : Option Reply} (hother : ask.command? = none) :
      Records before isHit ask reply? []

end Ask

/-! ### Pages -/

/-- What is put down about something that was asked for. -/
structure Page where
  ask : Ask
  /-- The store as it was before. -/
  before : Store
  outcome : Except Failure (Option Reply)
  turns : List Turn

namespace Page

def events (page : Page) : List Event :=
  page.turns.filterMap Turn.event?

/-- Whether an artifact was found kept. -/
def isHit (page : Page) : Bool :=
  page.turns.any Turn.isHit

/-- What fails records nothing, and all else what there is to record. -/
structure IsFaithful (page : Page) : Prop where
  failed : ∀ failure, page.outcome = .error failure → page.events = []
  told : ∀ reply?, page.outcome = .ok reply? →
    page.ask.Records page.before page.isHit reply? page.events

end Page

/-- What is told of a version that was compiled: its id, its fingerprint and its warnings. -/
def Event.compilation? : Event → Option (String × String × UInt64)
  | .versionCompiled id fingerprint warnings _ => some (id, fingerprint, warnings)
  | _ => none

/-- What there is to tell of an artifact that was made because none was found kept. -/
def Page.compilation? (page : Page) : Option (String × String × UInt64) :=
  match page.ask.command?, page.outcome with
  | some command, .ok (some (.artifact artifact)) =>
    if command.isCompile && !page.isHit then
      some (artifact.version.id, artifact.fingerprint, UInt64.ofNat artifact.diagnostics.length)
    else none
  | _, _ => none

/-! ### Services -/

structure Service where
  world : World
  agent : Agent
  pages : List Page

namespace Service

/-- An empty store, and an agent with room for so many events, at least one. -/
def start (ids : Ids) (clock : Nat → Timestamp) (capacity : Nat) : Service where
  world := { ids, clock }
  agent := Agent.new capacity
  pages := []

/-- All events that were recorded, oldest first. -/
def history (service : Service) : List Event :=
  service.pages.flatMap Page.events

/-- What is put down about doing what is asked for, while something may go wrong with the calls. -/
def page (service : Service) (mishaps : Nat → Mishap) (ask : Ask) : Page where
  ask
  before := service.world.store
  outcome := (service.world.performUnder mishaps service.agent ask.operation).1
  turns := ask.operation.run.turns (World.handleUnder mishaps) (0, service.world, service.agent)

def attend (service : Service) : (Nat → Mishap) × Ask → Service
  | (mishaps, ask) =>
    match service.world.performUnder mishaps service.agent ask.operation with
    | (_, world, agent) =>
      { world, agent := ask.finish agent, pages := service.pages ++ [service.page mishaps ask] }

def run (service : Service) (asked : List ((Nat → Mishap) × Ask)) : Service :=
  asked.foldl attend service

end Service

/-! ### What a page tells -/

theorem Command.Records.compilation {before : Store} {isHit : Bool} {command : Command}
    {artifact : Artifact} {events : List Event}
    (hrecords : command.Records before isHit (.artifact artifact) events) :
    events.filterMap Event.compilation? =
      (if command.isCompile && !isHit then
        some (artifact.version.id, artifact.fingerprint, UInt64.ofNat artifact.diagnostics.length)
      else none).toList := by
  cases hrecords with
  | compiled hcompile hmade => simp [hcompile, hmade, Event.compilation?]
  | fetched hcompile hhit => simp [hcompile, hhit]

/-- Nothing but an artifact is told of as compiled. -/
theorem Command.Records.compilation_eq_nil {before : Store} {isHit : Bool} {command : Command}
    {reply : Reply} {events : List Event} (hrecords : command.Records before isHit reply events)
    (hother : ∀ artifact, reply ≠ .artifact artifact) :
    events.filterMap Event.compilation? = [] := by
  cases hrecords with
  | compiled | fetched => exact absurd rfl (hother _)
  | _ => simp [Event.compilation?]

theorem Page.IsFaithful.compilation {page : Page} (hfaithful : page.IsFaithful) :
    page.events.filterMap Event.compilation? = page.compilation?.toList := by
  obtain ⟨ask, before, outcome, turns⟩ := page
  cases outcome with
  | error failure =>
    rw [hfaithful.failed failure rfl]
    unfold compilation?
    split
    next hok => cases hok
    next => rfl
  | ok reply? =>
    have htold := hfaithful.told reply? rfl
    generalize hevents : Page.events ⟨ask, before, .ok reply?, turns⟩ = events at htold ⊢
    cases htold with
    | @command command reply events hrecords =>
      cases reply with
      | artifact artifact => exact hrecords.compilation
      | _ => exact hrecords.compilation_eq_nil (by simp)
    | other hother =>
      unfold compilation?
      split
      next hcommand _ => cases hother.symm.trans hcommand
      next => rfl

/-! ### What is done for an ask -/

namespace Ask

theorem isTraceless (ask : Ask) : ask.operation.IsTraceless := by
  cases ask with
  | errand errand =>
    cases errand with
    | command command => exact command.isTraceless.map some
    | invalidate versionId =>
      exact ((Operation.succeeds_evict versionId).bind fun _ =>
        Operation.succeeds_pure none).isTraceless
    | clearCache => exact Operation.isTraceless_pure none
  | getBlueprint blueprintId =>
    exact .of_query (Operation.query_getBlueprint blueprintId) fun _ => Operation.isTraceless_pure _
  | listBlueprints =>
    exact .of_query (Operation.query_callWithin rfl) fun _ => Operation.isTraceless_pure _

theorem leads_operation {ids : Ids} {store : Store} {taken : Nat}
    (hdistinct : Function.Injective ids) (hfresh : ({ store, taken } : Progress).IsFresh ids)
    (ask : Ask) :
    Operation.Leads ids { store, taken } ask.operation fun reply? =>
      Progress.Tells ids store fun isHit events => ask.Records store isHit reply? events := by
  have hnothing : ask.command? = none → ∀ reply?, Progress.Tells ids store
      (fun isHit events => ask.Records store isHit reply? events) { store, taken } :=
    fun hother reply? => ⟨.other hother, rfl, hfresh⟩
  cases ask with
  | errand errand =>
    cases errand with
    | command command =>
      apply Operation.Leads.map
      refine (command.leads_operation hdistinct hfresh).mono fun reply after htells => ?_
      exact htells.imp fun isHit events => .command
    | invalidate versionId =>
      apply Operation.Leads.bind
      apply Operation.leads_evict
      exact Operation.leads_pure (hnothing rfl none)
    | clearCache => exact Operation.leads_pure (hnothing rfl none)
  | getBlueprint blueprintId =>
    apply Operation.Leads.map
    exact Operation.leads_of_query (Operation.query_getBlueprint blueprintId)
      fun _ => hnothing rfl none
  | listBlueprints =>
    apply Operation.Leads.map
    exact Operation.leads_of_query (Operation.query_callWithin rfl) fun _ => hnothing rfl none

theorem logs_finish {room : Nat} {history : List Event} {agent : Agent} (ask : Ask)
    (hlogs : agent.Logs room history) : (ask.finish agent).Logs room history := by
  cases ask with
  | errand errand => cases errand <;> exact ⟨hlogs.capacity, hlogs.events⟩
  | getBlueprint | listBlueprints => exact hlogs

end Ask

/-! ### Whole histories -/

namespace Service

variable {ids : Ids} {room : Nat} {service : Service}

structure IsAudited (ids : Ids) (room : Nat) (service : Service) : Prop where
  source : service.world.ids = ids
  fresh : ({ store := service.world.store, taken := service.world.idsTaken } : Progress).IsFresh ids
  logs : service.agent.Logs room service.history
  replayed : Ledger.replay service.history = service.world.store.ledger
  faithful : ∀ page ∈ service.pages, page.IsFaithful

theorem history_attend (service : Service) (mishaps : Nat → Mishap) (ask : Ask) :
    (service.attend (mishaps, ask)).history = service.history ++ (service.page mishaps ask).events := by
  simp [history, attend]

/-- What is asked for is done as it is put down, or it fails and leaves everything as it was. -/
theorem IsAudited.page (haudited : service.IsAudited ids room) (hdistinct : Function.Injective ids)
    (mishaps : Nat → Mishap) (ask : Ask) :
    let after := (service.attend (mishaps, ask)).world
    (service.page mishaps ask).IsFaithful ∧
      after.store.ledger =
        service.world.store.ledger.enterAll (service.page mishaps ask).events ∧
      ({ store := after.store, taken := after.idsTaken } : Progress).IsFresh ids := by
  intro after
  obtain ⟨rfl, hfresh, -, -, -⟩ := haudited
  have htraceless := Operation.isTraceless_iff.mp ask.isTraceless
  cases houtcome : (service.page mishaps ask).outcome with
  | error failure =>
    have hfails : (Program.run (World.handleUnder mishaps) ask.operation.run
        (0, service.world, service.agent)).1.isOk ≠ true := by
      intro hok
      have hsame : Except.isOk (service.page mishaps ask).outcome = true := hok
      rw [houtcome] at hsame
      cases hsame
    have hevents : (service.page mishaps ask).events = [] :=
      (turns_of_isTraceless htraceless mishaps _).resolve_left hfails
    have hstore : after.store = service.world.store :=
      ((World.run_of_isTraceless htraceless 0 service.world service.agent).resolve_left hfails).1
    have htaken : service.world.idsTaken ≤ after.idsTaken :=
      (ids_run mishaps ask.operation.run 0 service.world service.agent).2
    refine ⟨⟨fun _ _ => hevents, fun reply? hok => ?_⟩, ?_, ?_⟩
    · cases houtcome.symm.trans hok
    · rw [hevents, hstore]
      rfl
    · exact hfresh.later (congrArg Store.blueprints hstore) htaken
  | ok reply? =>
    have hleads := Operation.leads_iff.mp (ask.leads_operation hdistinct hfresh)
    have htells := hleads.run ⟨rfl, rfl⟩ mishaps 0 service.agent houtcome
    refine ⟨⟨fun failure herror => ?_, fun other hother => ?_⟩, htells.ledger, htells.fresh⟩
    · cases houtcome.symm.trans herror
    · cases houtcome.symm.trans hother
      have hrecords := htells.records
      simp only [Progress.reach, List.nil_append, Bool.false_or] at hrecords
      exact hrecords

theorem IsAudited.attend (haudited : service.IsAudited ids room) (hdistinct : Function.Injective ids)
    (hroom : 0 < room) (mishaps : Nat → Mishap) (ask : Ask) :
    (service.attend (mishaps, ask)).IsAudited ids room := by
  obtain ⟨hfaithful, hledger, hfresh⟩ := haudited.page hdistinct mishaps ask
  have hids := (ids_run mishaps ask.operation.run 0 service.world service.agent).1
  constructor
  case source => exact hids.trans haudited.source
  case fresh => exact hfresh
  case logs =>
    rw [history_attend]
    exact ask.logs_finish (haudited.logs.run hroom mishaps ask.operation.run 0 service.world)
  case replayed =>
    rw [history_attend, hledger, ← haudited.replayed]
    exact Ledger.enterAll_append _ _ _
  case faithful =>
    intro page hpage
    rcases List.mem_append.mp hpage with hold | hnew
    · exact haudited.faithful page hold
    · rw [List.mem_singleton.mp hnew]
      exact hfaithful

theorem IsAudited.run (haudited : service.IsAudited ids room) (hdistinct : Function.Injective ids)
    (hroom : 0 < room) (asked : List ((Nat → Mishap) × Ask)) :
    (service.run asked).IsAudited ids room := by
  induction asked generalizing service with
  | nil => exact haudited
  | cons next rest ih => exact ih (haudited.attend hdistinct hroom next.1 next.2)

theorem isAudited_start (ids : Ids) (clock : Nat → Timestamp) (capacity : Nat) :
    (start ids clock capacity).IsAudited ids (max capacity 1) where
  source := rfl
  fresh _ _ := rfl
  logs := ⟨rfl, (List.rtake_nil _).symm⟩
  replayed := rfl
  faithful _ hpage := nomatch hpage

theorem pages_run (service : Service) (asked : List ((Nat → Mishap) × Ask)) :
    (service.run asked).pages.map (·.ask) = service.pages.map (·.ask) ++ asked.map (·.2) := by
  induction asked generalizing service with
  | nil => exact (List.append_nil _).symm
  | cons next rest ih =>
    have hrest := ih (service.attend next)
    simpa [attend, page, run] using hrest

/-- Versions are told of as compiled one by one, as they are compiled and not found kept. -/
theorem IsAudited.compilations (haudited : service.IsAudited ids room) :
    service.history.filterMap Event.compilation? = service.pages.filterMap Page.compilation? := by
  obtain ⟨-, -, -, -, hfaithful⟩ := haudited
  unfold history
  generalize service.pages = pages at hfaithful
  induction pages with
  | nil => rfl
  | cons page rest ih =>
    have hpage := (hfaithful page List.mem_cons_self).compilation
    have hrest := ih fun other hother => hfaithful other (List.mem_cons_of_mem _ hother)
    rw [List.flatMap_cons, List.filterMap_append, hpage, hrest]
    cases hcompilation : page.compilation? <;> simp [hcompilation]

/-- However many things a service is asked for, and whatever goes wrong with its calls: it remembers
the latest of the events that it recorded, and the whole history gives the blueprints and versions
that there are. Everything that was done is told of, once, and nothing else is. -/
theorem history_run (ids : Ids) (hdistinct : Function.Injective ids) (clock : Nat → Timestamp)
    (capacity : Nat) (asked : List ((Nat → Mishap) × Ask)) :
    let service := (start ids clock capacity).run asked
    service.agent.events = service.history.rtake (max capacity 1) ∧
      Ledger.replay service.history = service.world.store.ledger ∧
      service.pages.map (·.ask) = asked.map (·.2) ∧
      (∀ page ∈ service.pages, page.IsFaithful) ∧
      service.history.filterMap Event.compilation? =
        service.pages.filterMap Page.compilation? := by
  intro service
  have hroom : 0 < max capacity 1 := by omega
  have haudited := (isAudited_start ids clock capacity).run hdistinct hroom asked
  exact ⟨haudited.logs.events, haudited.replayed, pages_run _ asked, haudited.faithful,
    haudited.compilations⟩

/-- A blueprint gets a version, whose publication fails at first and is asked for once too often. -/
def publication : List ((Nat → Mishap) × Ask) :=
  [(fun _ => {}, .errand (.command (.createBlueprint "Plan" none [] false))),
    (fun _ => {}, .errand (.command (.createDraft "x"))),
    (fun _ => { whole := some .storeUnavailable }, .errand (.command (.transition "xx" .published))),
    (fun _ => {}, .errand (.command (.transition "xx" .published))),
    (fun _ => {}, .errand (.command (.transitionAndEvict "xx" .published)))]

theorem history_run_publication :
    ((start Ids.tally (fun _ => .epoch) 2).run publication).history.length = 3 ∧
      ((start Ids.tally (fun _ => .epoch) 2).run publication).agent.events =
        ((start Ids.tally (fun _ => .epoch) 2).run publication).history.drop 1 ∧
      ((start Ids.tally (fun _ => .epoch) 2).run publication).world.store.ledger =
        ⟨[("x", "Plan")], [⟨"xx", "x", 1, .published⟩]⟩ := by
  have hlength : ((start Ids.tally (fun _ => .epoch) 2).run publication).history.length = 3 := by
    decide +kernel
  have hledger : Ledger.replay ((start Ids.tally (fun _ => .epoch) 2).run publication).history =
      ⟨[("x", "Plan")], [⟨"xx", "x", 1, .published⟩]⟩ := by
    decide +kernel
  obtain ⟨hevents, hreplayed, -⟩ :=
    history_run Ids.tally Ids.tally_injective (fun _ => .epoch) 2 publication
  rw [List.rtake, hlength] at hevents
  exact ⟨hlength, hevents, hreplayed.symm.trans hledger⟩

end Service

end KnowledgeSchema
