import KnowledgeSchema.Proofs.Commands.Artifacts
import KnowledgeSchema.Proofs.Commands.Opening
import KnowledgeSchema.Proofs.Concurrent.Requests
import KnowledgeSchema.Proofs.Program.Laws

/-!
# Compiling from the command line

What is printed is the artifact of the blueprint or nothing, and no row is touched. A database that
may only be read serves as well as any.

Whoever asks for no change is answered alike by a store that may be changed and by one that may only
be read.
-/

namespace KnowledgeSchema

/-! ### Stores that may only be read -/

namespace World

/-- The same world with a store that can be changed. -/
def writable (world : World) : World :=
  { world with isReadOnly := false }

theorem call_of_query (world : World) {call : Store.Call} (hcall : call.isChange = false) :
    world.call call =
      (if world.isClosed then .error .storeUnavailable else (world.store.run call).1, world) := by
  have hstore : world.callStore call =
      (if world.isClosed then .error .storeUnavailable else (world.store.run call).1, world) := by
    cases hclosed : world.isClosed with
    | true => simp [callStore, takes, hclosed]
    | false =>
      have htakes : world.takes call = true := by simp [takes, hclosed, hcall]
      rw [callStore, if_neg (by simp [htakes])]
      change ((world.store.run call).1, { world with store := (world.store.run call).2 }) = _
      rw [Store.run_eq_of_isChange hcall]
      rfl
  cases call with
  | insertVersion | insertVersionWith | updateStatus => cases hcall
  | _ => exact hstore

/-- A quiet request is answered alike whether or not the store can be changed. -/
theorem handle_of_quiet (world : World) (agent : Agent) {r : Request} (hquiet : r.IsQuiet) :
    let turn := World.handle r (world, agent)
    World.handle r (world.writable, agent) = (turn.1, turn.2.1.writable, turn.2.2) ∧
      turn.2.1.store = world.store := by
  cases r with
  | store call limit =>
    have hcall := call_of_query world hquiet
    have hwritable := call_of_query world.writable hquiet
    simp only [World.handle, hcall, hwritable]
    exact ⟨rfl, trivial⟩
  | _ => exact ⟨rfl, rfl⟩

/-- Whatever makes no other requests comes to the same without leave to change the store, and has not
changed it. -/
theorem perform_of_quiet {α : Type} {operation : Operation α}
    (hquiet : Operation.Every Request.IsQuiet operation) (world : World) (agent : Agent) :
    (world.perform agent operation).1 = (world.writable.perform agent operation).1 ∧
      (world.perform agent operation).2.1.store = world.store := by
  rw [Operation.every_iff] at hquiet
  unfold perform
  generalize operation.run = program at hquiet
  induction program generalizing world agent with
  | done outcome => exact ⟨rfl, rfl⟩
  | request r next ih =>
    obtain ⟨hturn, hstore⟩ := handle_of_quiet world agent hquiet.1
    obtain ⟨houtcome, hlater⟩ := ih (World.handle r (world, agent)).1
      (World.handle r (world, agent)).2.1 (World.handle r (world, agent)).2.2 (hquiet.2 _)
    refine ⟨houtcome.trans ?_, hlater.trans hstore⟩
    exact (congrArg (fun turn : r.Answer × World × Agent =>
      (Program.run World.handle (next turn.1) turn.2).1) hturn).symm

end World

/-! ### The command -/

namespace Cli

/-- Whether a report is that of a failure with a code, which leaves nothing on the output. -/
def Report.Fails (report : Report) (code : String) (failure : Failure) : Prop :=
  failure.code = code ∧ report = (Trouble.failed failure).report

namespace Desk

/-- The database that a command works on, if it can be opened. -/
def opened? (desk : Desk) (database : Option String) : Option OpenDatabase :=
  match desk.loadSettings with
  | .error _ => none
  | .ok settings =>
    (OpenDatabase.ofPath desk.disk
      (database.getD (settings.databasePath desk.settingsDirectory))).1.toOption

/-- What is printed about an artifact. -/
def printed (isPretty : Bool) (artifact : Artifact) : Printed where
  output := artifactText isPretty artifact
  errors := warningsText artifact

/-- A command that compiles comes to what the rows of its database come to, and leaves them alone. -/
theorem runOn_compile (desk : Desk) (settings : Settings) (format : Format) {db : OpenDatabase}
    (hkept : db.IsKeptOn desk.disk) (blueprintId : String) (versionId : Option String)
    (isPretty : Bool) :
    let ended := desk.runOn settings format db (.compile blueprintId versionId isPretty)
    ended.1 = ((db.database.store.compiledOf settings.compiler.maxDepth blueprintId versionId).map
        (printed isPretty)).mapError .failed ∧
      ended.2.disk.SameRows desk.disk := by
  let world : World :=
    { store := db.database.store, isReadOnly := db.isReadOnly, ids := desk.ids,
      idsTaken := desk.idsTaken, clock := desk.clock, ticks := desk.ticks }
  have hserving : world.writable.IsServing := ⟨⟨rfl, rfl⟩, rfl, rfl⟩
  obtain ⟨hwritable, hstore⟩ := World.perform_of_quiet
    (Operation.quiet_compileOf settings.compiler blueprintId versionId) world
    (.new defaultCapacity)
  have houtcome := hwritable.trans
    (World.outcome_compileOf hserving rfl settings.compiler blueprintId versionId)
  have hperform : world.perform (.new defaultCapacity)
      (operation settings.compiler format (.compile blueprintId versionId isPretty)) =
      ((world.perform (.new defaultCapacity)
        (Operation.compileOf settings.compiler blueprintId versionId)).1.map (printed isPretty),
        (world.perform (.new defaultCapacity)
          (Operation.compileOf settings.compiler blueprintId versionId)).2) := by
    rw [← World.perform_map, ← bind_pure_comp]
    rfl
  intro ended
  constructor
  · have hended : ended.1 = (world.perform (.new defaultCapacity) (operation settings.compiler format
        (.compile blueprintId versionId isPretty))).1.mapError .failed := rfl
    rw [hended, hperform, houtcome]
    rfl
  · have hdisk : ended.2.disk = OpenDatabase.keep
        { db with database := { db.database with
            store := (world.perform (.new defaultCapacity) (operation settings.compiler format
              (.compile blueprintId versionId isPretty))).2.1.store } } desk.disk := rfl
    rw [hdisk, hperform, hstore]
    exact hkept.sameRows_keep

theorem runStore_compile (desk : Desk) (database : Option String) (format : Format)
    (blueprintId : String) (versionId : Option String) (isPretty : Bool) :
    let ended := desk.runStore database format (.compile blueprintId versionId isPretty)
    ended.2.disk.SameRows desk.disk ∧
      match desk.opened? database with
      | none => ∃ trouble, ended.1 = .error trouble
      | some db => db.IsKeptOn desk.disk ∧ ∃ maxDepth, ended.1 =
          ((db.database.store.compiledOf maxDepth blueprintId versionId).map
            (printed isPretty)).mapError .failed := by
  unfold runStore opened?
  cases desk.loadSettings with
  | error trouble => exact ⟨.refl _, trouble, rfl⟩
  | ok settings =>
    have hkeeps := OpenDatabase.ofPath_keeps desk.disk
      (database.getD (settings.databasePath desk.settingsDirectory))
    dsimp only
    generalize OpenDatabase.ofPath desk.disk
      (database.getD (settings.databasePath desk.settingsDirectory)) = opened at hkeeps ⊢
    obtain ⟨outcome, disk⟩ := opened
    obtain ⟨hopened, hkept⟩ := hkeeps
    cases outcome with
    | error flaw => exact ⟨hopened, _, rfl⟩
    | ok db =>
      have hheld := hkept db rfl
      have hthere : db.IsKeptOn disk := hheld.of_sameRows hopened
      obtain ⟨hended, hrows⟩ := runOn_compile { desk with disk } settings format hthere blueprintId
        versionId isPretty
      exact ⟨hrows.trans hopened, hheld, settings.compiler.maxDepth, hended⟩

end Desk

/-- What a report says when there is nothing to compile for a blueprint: which of the rows that it
takes is not there, not readable or not one of the blueprint. -/
structure Report.Refuses (report : Report) (store : Store) (blueprintId : String)
    (versionId : Option String) : Prop where
  noVersions : versionId = none → (∀ row ∈ store.versions, row.blueprintId ≠ blueprintId) →
    (store.hasBlueprint blueprintId = false → report.Fails "E001" (.blueprintNotFound blueprintId)) ∧
      (∀ blueprint, store.blueprint? blueprintId = .ok (some blueprint) →
        report.Fails "E003" (.noVersions blueprintId)) ∧
      ∀ failure, store.blueprint? blueprintId = .error failure →
        report.Fails failure.code failure
  asked : ∀ asked, versionId = some asked →
    (store.hasVersion asked = false → report.Fails "E002" (.versionNotFound asked)) ∧
      (∀ version, store.version? asked = .ok (some version) → version.blueprintId ≠ blueprintId →
        report.Fails "E800"
          (.invalidInput (.foreignVersion asked version.blueprintId blueprintId))) ∧
      ∀ failure, store.version? asked = .error failure →
        report.Fails failure.code failure

theorem Desk.refuses_reportOf {store : Store} {blueprintId : String} {versionId : Option String}
    {maxDepth : UInt64} (isPretty : Bool) :
    (reportOf (((store.compiledOf maxDepth blueprintId versionId).map
      (printed isPretty)).mapError .failed)).Refuses store blueprintId versionId := by
  have hfails : ∀ failure, store.compiledOf maxDepth blueprintId versionId = .error failure →
      (reportOf (((store.compiledOf maxDepth blueprintId versionId).map
        (printed isPretty)).mapError .failed)).Fails failure.code failure := by
    intro failure herror
    rw [herror]
    exact ⟨rfl, rfl⟩
  constructor
  case noVersions =>
    rintro rfl hnone
    have hcompiled := @Store.compiledOf_of_none store blueprintId maxDepth hnone
    refine ⟨fun hblueprint => hfails _ ?_, fun blueprint hblueprint => hfails _ ?_,
      fun failure hblueprint => hfails _ ?_⟩
    · rw [hcompiled, Store.blueprint?_of_hasBlueprint hblueprint]
      rfl
    · rw [hcompiled, hblueprint]
      rfl
    · rw [hcompiled, hblueprint]
      rfl
  case asked =>
    rintro asked rfl
    refine ⟨fun hversion => hfails _ ?_, fun version hversion hforeign => hfails _ ?_,
      fun failure hversion => hfails _ ?_⟩
    all_goals apply Store.compiledOf_of_error
    · rw [Store.ensureVersionOf, Store.readVersion_of_hasVersion hversion]
      rfl
    · exact Store.ensureVersionOf_of_foreign hversion hforeign
    · rw [Store.ensureVersionOf, Store.readVersion_of_error hversion]
      rfl

theorem Desk.run_of_store {desk : Desk} {arguments : List String} {invocation : Invocation}
    {command : StoreCommand String} (hread : Invocation.read arguments = .ok invocation)
    (hcommand : invocation.command = .store command) :
    desk.run arguments =
      (reportOf (desk.runStore invocation.database ⟨invocation.asJson, invocation.isQuiet⟩ command).1,
        (desk.runStore invocation.database ⟨invocation.asJson, invocation.isQuiet⟩ command).2) := by
  rw [run, hread]
  change desk.perform invocation = _
  rw [perform, hcommand]

/-- Compiling from the command line prints the artifact of a blueprint, from its version that was
asked for or from its latest one, or it fails and prints nothing. In no case is a row touched. -/
theorem Desk.run_compile {desk : Desk} {arguments : List String} {invocation : Invocation}
    {blueprintId : String} {versionId : Option String} {isPretty : Bool}
    (hread : Invocation.read arguments = .ok invocation)
    (hcommand : invocation.command = .store (.compile blueprintId versionId isPretty))
    (hkeyed : ∀ place, ((desk.disk.rowsAt place).versions.map (·.id)).Nodup) :
    let ended := desk.run arguments
    ended.2.disk.SameRows desk.disk ∧
      (ended.1.exit ≠ 0 → ended.1.output = "") ∧
      (ended.1.exit = 0 → ∃ db artifact, desk.opened? invocation.database = some db ∧
        ended.1.output = artifactText isPretty artifact ∧
        db.database.store.MayPrint blueprintId versionId artifact) ∧
      ∀ db, desk.opened? invocation.database = some db →
        db.IsKeptOn desk.disk ∧ ended.1.Refuses db.database.store blueprintId versionId := by
  intro ended
  have hended : ended = _ := run_of_store hread hcommand
  obtain ⟨hrows, houtcome⟩ := desk.runStore_compile invocation.database
    ⟨invocation.asJson, invocation.isQuiet⟩ blueprintId versionId isPretty
  rw [hended]
  refine ⟨hrows, ?_⟩
  cases hopened : desk.opened? invocation.database with
  | none =>
    simp only [hopened] at houtcome
    obtain ⟨trouble, htrouble⟩ := houtcome
    rw [htrouble]
    exact ⟨fun _ => rfl, fun hexit => (by cases hexit), fun _ hdb => (by cases hdb)⟩
  | some db =>
    simp only [hopened] at houtcome
    obtain ⟨hkept, maxDepth, houtcome⟩ := houtcome
    rw [houtcome]
    have hrefuses := @refuses_reportOf db.database.store blueprintId versionId maxDepth isPretty
    cases hartifact : db.database.store.compiledOf maxDepth blueprintId versionId with
    | error failure =>
      rw [hartifact] at hrefuses
      refine ⟨fun _ => rfl, fun hexit => (by cases hexit), fun other hother => ?_⟩
      cases hother
      exact ⟨hkept, hrefuses⟩
    | ok artifact =>
      rw [hartifact] at hrefuses
      have hsingle : ∀ versionId, db.database.store.IsSingle versionId :=
        Store.isSingle_of_nodup (hkept.nodup_versions hkeyed)
      refine ⟨fun hexit => absurd rfl hexit, fun _ => ⟨db, artifact, rfl, rfl, ?_⟩,
        fun other hother => ?_⟩
      · exact Store.mayPrint_of_compiledOf hsingle hartifact
      · cases hother
        exact ⟨hkept, hrefuses⟩

/-! ### A desk to compile at -/

namespace Desk

/-- A draft of each of two blueprints. -/
def shelf : Store where
  blueprints := [(Blueprint.new "b" "Novel" .epoch).toRow, (Blueprint.new "c" "Atlas" .epoch).toRow]
  versions := [(Version.draft "v" "b" 1 .epoch).toRow, (Version.draft "w" "c" 1 .epoch).toRow]

theorem toVersion_shelf :
    (Version.draft "v" "b" 1 .epoch).toRow.toVersion = .ok (.draft "v" "b" 1 .epoch) :=
  Version.toVersion_toRow ⟨by decide, by rintro _ ⟨⟩⟩

theorem chooseVersion_shelf : shelf.chooseVersion "b" none = .ok (.draft "v" "b" 1 .epoch) := by
  have hrows : shelf.versionsOf "b" = [(Version.draft "v" "b" 1 .epoch).toRow] := rfl
  have hlisted : shelf.listVersions "b" = .ok [.draft "v" "b" 1 .epoch] := by
    simp [Store.listVersions, Store.ordered, hrows, toVersion_shelf]
  rw [Store.chooseVersion, hlisted]
  rfl

theorem content_shelf : shelf.content "v" = .ok ⟨[], [], [], [], none⟩ := by
  have htypes : shelf.listEntityTypes "v" = [] :=
    congrArg (List.map EntityTypeRow.toDefinition) List.mergeSort_nil
  have hrelationships : shelf.listRelationshipTypes "v" = [] :=
    congrArg (List.map RelationshipTypeRow.toDefinition) List.mergeSort_nil
  have hviews : shelf.listViewTemplates "v" = .ok [] :=
    congrArg (List.mapM ViewTemplateRow.toDefinition) List.mergeSort_nil
  have hmaps : shelf.listMapsOfContent "v" = .ok [] :=
    congrArg (List.mapM MapOfContentRow.toDefinition) List.mergeSort_nil
  rw [Store.content, htypes, hrelationships, hviews, hmaps]
  rfl

theorem compiledOf_shelf (maxDepth : UInt64) :
    shelf.compiledOf maxDepth "b" none =
      .ok (Content.assemble ⟨[], [], [], [], none⟩ (.new "b" "Novel" .epoch)
        (.draft "v" "b" 1 .epoch) maxDepth) := by
  have hrow : shelf.row? "v" = some (Version.draft "v" "b" 1 .epoch).toRow := rfl
  have hversion : shelf.version? "v" = .ok (some (.draft "v" "b" 1 .epoch)) := by
    rw [Store.version?_of_row? hrow, toVersion_shelf]
    rfl
  have hfound : shelf.blueprints.find? (·.id == "b") =
      some (Blueprint.new "b" "Novel" .epoch).toRow := rfl
  have hblueprint : shelf.blueprint? "b" = .ok (some (.new "b" "Novel" .epoch)) := by
    rw [Store.blueprint?, hfound, Option.mapM_some,
      Blueprint.toBlueprint_toRow rfl (by decide) (by decide)]
    rfl
  change shelf.chooseVersion "b" none >>= (fun version => shelf.compiled maxDepth version.id) = _
  rw [chooseVersion_shelf]
  change shelf.compiled maxDepth "v" = _
  rw [Store.compiled, hversion]
  simp [Version.draft, hblueprint, content_shelf, bind, Except.bind, pure, Except.pure]

/-- A database in the directory of the desk, and no settings, whose directory cannot be there. -/
def library : Desk where
  disk := { items := [(["d"], .database { store := shelf })] }
  settingsDirectory := "\x00"
  ids := .tally
  clock := fun _ => .epoch

theorem nodup_versions_library (place : List String) :
    ((library.disk.rowsAt place).versions.map (·.id)).Nodup := by
  rw [Disk.rowsAt_eq_lookup, library, List.lookup_cons]
  by_cases hplace : place = ["d"]
  · subst hplace
    decide
  · rw [beq_false_of_ne hplace]
    exact List.nodup_nil

theorem loadSettings_library : library.loadSettings = .ok {} := by
  have hfile : library.settingsFile = "\x00/config.toml" := by decide +kernel
  have hmissing : library.disk.isThere "\x00/config.toml" = false := by
    simp [Disk.isThere, Disk.look, Disk.find]
    rfl
  rw [loadSettings, Settings.load, hfile, hmissing]
  rfl

theorem opened?_library :
    library.opened? (some "d") =
      some { database := (Database.migrate { store := shelf }).2, place := some ["d"] } := by
  have hsplit : "d".splitOn "/" = ["d"] := by
    apply Disk.splitOn_of_single <;> decide +kernel
  have habove : Path.above? "d" = some ⟨"", []⟩ :=
    Disk.above?_of_single hsplit (by decide +kernel) (by decide +kernel) (by decide)
  have hmissing : library.disk.isThere "" = false := by
    have hfind : library.disk.find "" = .error .missing := by
      rw [Disk.find, if_neg (by simp), if_pos (by simp)]
    rw [Disk.isThere, Disk.look, hfind]
    rfl
  have hprepared : OpenDatabase.prepare library.disk "d" = (.ok (), library.disk) := by
    simp [OpenDatabase.prepare, Disk.makeParent, habove, Path.text, hmissing]
  have hwritten : Address.withoutScheme (Address.written "d") = "d?mode=rwc".toList := by decide +kernel
  have haddress : Address.read "d" = .ok (.file "d" .create) := by
    rw [Address.read, hwritten]
    decide +kernel
  have hplace : OpenDatabase.placeOf? library.disk "d" = some ["d"] := by
    rw [OpenDatabase.placeOf?, Disk.names_of_single hsplit (by decide)]
    decide +kernel
  rw [opened?, loadSettings_library]
  dsimp only [Option.getD_some]
  rw [OpenDatabase.ofPath, hprepared]
  dsimp only
  rw [OpenDatabase.ofAddress, haddress]
  dsimp only
  rw [OpenDatabase.ofFile, hplace]
  rfl

/-- Without a published version the latest draft of the blueprint is printed. -/
theorem run_compile_library :
    (library.run ["compile", "b", "--db", "d"]).1.exit = 0 ∧
      ∃ artifact, (library.run ["compile", "b", "--db", "d"]).1.output =
          artifactText false artifact ∧ shelf.MayPrint "b" none artifact := by
  have hread : Invocation.read ["compile", "b", "--db", "d"] =
      .ok ⟨.store (.compile "b" none false), some "d", false, false⟩ := by rfl
  have hcompiles := library.runStore_compile (some "d") ⟨false, false⟩ "b" none false
  rw [opened?_library] at hcompiles
  obtain ⟨-, -, maxDepth, houtcome⟩ := hcompiles
  have hexit : (library.run ["compile", "b", "--db", "d"]).1.exit = 0 := by
    rw [run_of_store hread rfl]
    dsimp only
    rw [houtcome]
    change (reportOf (((shelf.compiledOf maxDepth "b" none).map _).mapError _)).exit = 0
    rw [compiledOf_shelf]
    rfl
  obtain ⟨-, -, hprinted, -⟩ := run_compile hread rfl nodup_versions_library
  obtain ⟨db, artifact, hdb, houtput, hmay⟩ := hprinted hexit
  cases opened?_library.symm.trans hdb
  exact ⟨hexit, artifact, houtput, hmay⟩

end Desk

end Cli

end KnowledgeSchema
