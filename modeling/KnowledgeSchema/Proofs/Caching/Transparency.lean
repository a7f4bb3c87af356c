import KnowledgeSchema.Proofs.Caching.Currency
import KnowledgeSchema.Proofs.Concurrent.System

/-!
# Kept artifacts are what compiling would give

Services share a store, and each of them keeps artifacts of published versions that the others never
hear about. Each errand is done before the next one begins, for whichever service it is.
-/

namespace KnowledgeSchema

/-- A store and the services that share it. -/
structure Site where
  world : World
  services : Nat → Agent

/-- What a service is told to do. -/
inductive Errand where
  | command (command : Command)
  | invalidate (versionId : String)
  | clearCache

/-- A service compiles by its own settings. -/
def Command.under (settings : CompilerSettings) : Command → Command
  | compileBlueprint _ blueprintId versionId => compileBlueprint settings blueprintId versionId
  | compileVersion _ versionId => compileVersion settings versionId
  | command => command

namespace Site

/-- A store with any content, and services that have done nothing yet. -/
def start (store : Store) (ids : Ids) (clock : Nat → Timestamp) (capacity : Nat → Nat) : Site where
  world := { store, ids, clock }
  services service := Agent.new (capacity service)

/-- What a service would answer. -/
def outcome {α : Type} (site : Site) (service : Nat) (operation : Operation α) : Except Failure α :=
  (site.world.perform (site.services service) operation).1

/-- The site after an errand, which is done before anything else happens. -/
def attend (settings : Nat → CompilerSettings) (site : Site) : Nat × Errand → Site
  | (service, .command command) =>
    match site.world.perform (site.services service) (command.under (settings service)).operation with
    | (_, world, agent) =>
      { world, services := Function.update site.services service agent }
  | (service, .invalidate versionId) =>
    { site with
      services := Function.update site.services service ((site.services service).evict versionId) }
  | (service, .clearCache) =>
    { site with services := Function.update site.services service (site.services service).evictAll }

def run (settings : Nat → CompilerSettings) (site : Site) (errands : List (Nat × Errand)) : Site :=
  errands.foldl (attend settings) site

end Site

/-! ### Single errands -/

/-- Whatever a service is told to do, what it keeps stays up to date, and so does what others keep. -/
theorem World.perform_command {world : World} {agent : Agent} {settings : CompilerSettings}
    (hready : world.IsReady) (hsingle : ∀ versionId, world.store.IsSingle versionId)
    (hcurrent : agent.IsCurrent settings.maxDepth world.store) (command : Command) {later : World}
    {after : Agent} {outcome : Except Failure Reply}
    (hperform : world.perform agent (command.under settings).operation = (outcome, later, after)) :
    later.IsReady ∧ world.store.Respects later.store ∧
      after.IsCurrent settings.maxDepth later.store := by
  have hspares : world.Harmless agent (command.under settings).operation →
      later.IsReady ∧ world.store.Respects later.store ∧
        after.IsCurrent settings.maxDepth later.store := by
    intro hharmless
    rw [World.Harmless, hperform] at hharmless
    exact ⟨hharmless.ready, hharmless.respects,
      (hcurrent.respects hharmless.respects).forget hharmless.remembered⟩
  have hcompiles : ∀ {operation : Operation Artifact} {result : Except Failure Artifact},
      (command.under settings).operation = Reply.artifact <$> operation →
      world.Compiles agent settings.maxDepth operation result →
      later.IsReady ∧ world.store.Respects later.store ∧
        after.IsCurrent settings.maxDepth later.store := by
    intro operation result hoperation hcompiles
    rw [hoperation, World.perform_map] at hperform
    obtain ⟨-, hready, hstore, hcurrent⟩ := hcompiles
    have hstate : (world.perform agent operation).2 = (later, after) := congrArg Prod.snd hperform
    rw [hstate] at hready hstore hcurrent
    rw [hstore]
    exact ⟨hready, .refl _, hcurrent⟩
  cases command with
  | createBlueprint name description tags isSystem =>
    exact hspares ((World.harmless_createBlueprint hready name description tags isSystem).map _)
  | listVersions blueprintId => exact hspares ((World.harmless_listVersions hready blueprintId).map _)
  | createDraft blueprintId => exact hspares ((World.harmless_createDraft hready blueprintId).map _)
  | forkDraft sourceId => exact hspares ((World.harmless_forkDraft hready sourceId).map _)
  | transition versionId next => exact hspares ((World.harmless_moveTo hready versionId next _).map _)
  | transitionAndEvict versionId next =>
    exact hspares ((World.harmless_transitionAndEvict hready versionId next).map _)
  | importBundle versionId bundle =>
    exact hspares ((World.harmless_importBundle hready versionId bundle).map _)
  | compileBlueprint _ blueprintId versionId =>
    obtain ⟨result, hresult, -⟩ :=
      World.compiles_compileBlueprint hready hsingle hcurrent blueprintId versionId
    exact hcompiles rfl hresult
  | compileVersion _ versionId =>
    obtain ⟨result, hresult, -⟩ := World.compiles_compileVersion hready hcurrent versionId
    exact hcompiles rfl hresult

/-! ### Whole runs -/

namespace Site

variable {settings : Nat → CompilerSettings} {site : Site}

structure IsCurrent (settings : Nat → CompilerSettings) (site : Site) : Prop where
  ready : site.world.IsReady
  single : ∀ versionId, site.world.store.IsSingle versionId
  current : ∀ service, (site.services service).IsCurrent (settings service).maxDepth
    site.world.store

/-- Only one service does anything to what it keeps. -/
theorem IsCurrent.update (hsite : site.IsCurrent settings) {service : Nat} {later : World}
    {after : Agent} (hready : later.IsReady) (hrespects : site.world.store.Respects later.store)
    (hcurrent : after.IsCurrent (settings service).maxDepth later.store) :
    IsCurrent settings ⟨later, Function.update site.services service after⟩ := by
  refine ⟨hready, fun versionId => hrespects.single versionId (hsite.single versionId), ?_⟩
  intro other
  by_cases hother : other = service
  · subst hother
    simpa using hcurrent
  · simpa [hother] using (hsite.current other).respects hrespects

theorem IsCurrent.attend (hsite : site.IsCurrent settings) (errand : Nat × Errand) :
    (site.attend settings errand).IsCurrent settings := by
  obtain ⟨service, errand⟩ := errand
  cases errand with
  | command command =>
    rw [Site.attend]
    rcases hperform : site.world.perform (site.services service)
      (command.under (settings service)).operation with ⟨outcome, later, after⟩
    obtain ⟨hready, hrespects, hcurrent⟩ := World.perform_command hsite.ready hsite.single
      (hsite.current service) command hperform
    exact hsite.update hready hrespects hcurrent
  | invalidate versionId =>
    exact hsite.update hsite.ready (.refl _)
      ((hsite.current service).forget fun _ _ => World.lookup_filter_bne)
  | clearCache =>
    exact hsite.update hsite.ready (.refl _) fun _ _ hfetch => nomatch hfetch

theorem IsCurrent.run (hsite : site.IsCurrent settings) (errands : List (Nat × Errand)) :
    (site.run settings errands).IsCurrent settings := by
  induction errands generalizing site with
  | nil => exact hsite
  | cons errand rest ih => exact ih (hsite.attend errand)

theorem isCurrent_start {store : Store} {ids : Ids} (clock : Nat → Timestamp)
    (capacity : Nat → Nat) (hsingle : ∀ versionId, store.IsSingle versionId)
    (hdistinct : Function.Injective ids) (hdefinitions : ∀ place, ids place ∉ store.definitionIds)
    (hblueprints : ∀ place, store.hasBlueprint (ids place) = false) :
    (start store ids clock capacity).IsCurrent settings where
  ready := ⟨⟨⟨rfl, rfl⟩, rfl, rfl⟩, hdistinct, fun place _ => hdefinitions place,
    fun place _ => hblueprints place⟩
  single := hsingle
  current _ _ _ hfetch := nomatch hfetch

/-- After any errands, in any order and of any services, what a service answers is what compiling
anew would give it, and the version of an artifact is the one that the store has now. -/
theorem outcome_compile_run (settings : Nat → CompilerSettings) {store : Store} {ids : Ids}
    (clock : Nat → Timestamp) (capacity : Nat → Nat)
    (hnodup : (store.versions.map (·.id)).Nodup) (hdistinct : Function.Injective ids)
    (hdefinitions : ∀ place, ids place ∉ store.definitionIds)
    (hblueprints : ∀ place, store.hasBlueprint (ids place) = false)
    (errands : List (Nat × Errand)) (service : Nat) :
    let site := (start store ids clock capacity).run settings errands
    (∀ blueprintId versionId,
        site.outcome service (.compileBlueprint (settings service) blueprintId versionId) =
          site.outcome service
            (.compileBlueprintAnew (settings service) blueprintId versionId)) ∧
      (∀ versionId, site.outcome service (.compileVersion (settings service) versionId) =
        site.outcome service (.compileVersionAnew (settings service) versionId)) ∧
      ∀ artifact,
        ((∃ blueprintId versionId, site.outcome service
            (.compileBlueprint (settings service) blueprintId versionId) = .ok artifact) ∨
          ∃ versionId, site.outcome service
            (.compileVersion (settings service) versionId) = .ok artifact) →
        site.world.store.version? artifact.version.id = .ok (some artifact.version) := by
  intro site
  obtain ⟨hready, hsingle, hcurrent⟩ : site.IsCurrent settings :=
    (isCurrent_start clock capacity (Store.isSingle_of_nodup hnodup) hdistinct hdefinitions
      hblueprints).run errands
  refine ⟨?blueprint, ?version, ?artifact⟩
  case blueprint =>
    intro blueprintId versionId
    obtain ⟨outcome, hcompiles, hanew, -⟩ :=
      World.compiles_compileBlueprint hready hsingle (hcurrent service) blueprintId versionId
    exact hcompiles.outcome.trans (congrArg Prod.fst hanew).symm
  case version =>
    intro versionId
    obtain ⟨outcome, hcompiles, hanew, -⟩ :=
      World.compiles_compileVersion hready (hcurrent service) versionId
    exact hcompiles.outcome.trans (congrArg Prod.fst hanew).symm
  case artifact =>
    rintro artifact (⟨blueprintId, versionId, hartifact⟩ | ⟨versionId, hartifact⟩)
    · obtain ⟨outcome, hcompiles, -, hstored⟩ :=
        World.compiles_compileBlueprint hready hsingle (hcurrent service) blueprintId versionId
      exact hstored artifact (hcompiles.outcome.symm.trans hartifact)
    · obtain ⟨outcome, hcompiles, -, hstored⟩ :=
        World.compiles_compileVersion hready (hcurrent service) versionId
      exact hstored artifact (hcompiles.outcome.symm.trans hartifact)

/-- A version is published and compiled by one service and deprecated by another one. -/
theorem outcome_compile_run_deprecated :
    let settings : Nat → CompilerSettings := fun _ => {}
    let site := (start {} .tally (fun _ => .epoch) fun _ => 1).run settings
      [(0, .command (.createBlueprint "Novel" none [] false)), (0, .command (.createDraft "x")),
        (0, .command (.transitionAndEvict "xx" .published)),
        (0, .command (.compileVersion {} "xx")),
        (1, .command (.transitionAndEvict "xx" .deprecated))]
    site.outcome 0 (.compileVersion (settings 0) "xx") =
      site.outcome 0 (.compileVersionAnew (settings 0) "xx") := by
  have hdefinitions : ∀ place, Ids.tally place ∉ ({} : Store).definitionIds :=
    fun _ => List.not_mem_nil
  have hnodup : (({} : Store).versions.map (·.id)).Nodup := List.nodup_nil
  exact (outcome_compile_run (fun _ => {}) (fun _ => .epoch) (fun _ => 1) hnodup
    Ids.tally_injective hdefinitions (fun _ => rfl) _ 0).2.1 "xx"

end Site

end KnowledgeSchema
