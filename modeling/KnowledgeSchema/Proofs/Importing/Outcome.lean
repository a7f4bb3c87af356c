import KnowledgeSchema.Proofs.Documents.Portable
import KnowledgeSchema.Proofs.Forking.DeepCopy
import KnowledgeSchema.Proofs.Importing.Labelling
import KnowledgeSchema.Proofs.Store.Extension
import KnowledgeSchema.Proofs.Store.Failures

/-!
# When a bundle can be imported

A bundle is imported exactly into a draft that reads, when its kinds lead to ids and there is one
profile at most. The import then adds the rows that it counts, and none that was there is changed. If
it fails, it says which of these is missing and adds nothing.
-/

namespace KnowledgeSchema

namespace Store

/-- What an import needs: a version that reads and is a draft, kinds that are distinct, parents that
are among them, and a profile on one side at most. -/
structure CanImport (store : Store) (versionId : String) (bundle : Bundle) : Prop where
  draft : ∃ version, store.version? versionId = .ok (some version) ∧ version.status = .draft
  kinds : bundle.kinds.Nodup
  parents : ∀ type ∈ bundle.entityTypes, ∀ parent ∈ type.parent, parent ∈ bundle.kinds
  profile : ¬(bundle.profile.isSome = true ∧ ∃ row ∈ store.profiles, row.versionId = versionId)

/-- Why an import is refused, in the order in which it is looked at. -/
inductive RefusesImport (store : Store) (versionId : String) (bundle : Bundle) : Failure → Prop
  | missing (hversion : store.version? versionId = .ok none) :
    RefusesImport store versionId bundle (.versionNotFound versionId)
  | unreadable {column : TimeColumn} {text : String}
    (hversion : store.version? versionId = .error (.other (.invalidTime column text))) :
    RefusesImport store versionId bundle (.other (.invalidTime column text))
  | frozen {version : Version} (hversion : store.version? versionId = .ok (some version))
    (hstatus : version.status ≠ .draft) :
    RefusesImport store versionId bundle (.versionNotEditable versionId version.status.name)
  | senseless {version : Version} {failure : Failure}
    (hversion : store.version? versionId = .ok (some version)) (hdraft : version.status = .draft)
    (hblames : bundle.Blames failure) : RefusesImport store versionId bundle failure
  | secondProfile {version : Version} (hversion : store.version? versionId = .ok (some version))
    (hdraft : version.status = .draft) (hcheck : bundle.check = .ok ())
    (hprofile : bundle.profile.isSome = true)
    (hrival : ∃ row ∈ store.profiles, row.versionId = versionId) :
    RefusesImport store versionId bundle (.invalidInput (.secondProfile versionId))

end Store

/-- The number of rows that an import reports for a table. -/
def ImportSummary.count (summary : ImportSummary) : Table → Nat
  | .blueprints | .versions => 0
  | .entityTypes => summary.entityTypes
  | .fields => summary.fields
  | .relationshipTypes => summary.relationshipTypes
  | .attributes => summary.attributes
  | .viewTemplates => summary.viewTemplates
  | .mapsOfContent => summary.mapsOfContent
  | .profiles => if summary.hasProfile then 1 else 0
  | .labelMappings => summary.labelMappings
  | .ignoreEntries => summary.ignoreEntries

/-- A later store has the rows of an earlier one as they were, and after them in each table as many as
a summary counts, all of which belong to one version. -/
structure Store.Gains (store : Store) (versionId : String) (summary : ImportSummary)
    (after : Store) : Prop where
  blueprints : after.blueprints = store.blueprints
  versions : after.versions = store.versions
  definitions : ∀ table, ∃ added : List TableRow,
    after.rowsIn table = store.rowsIn table ++ added ∧
      (after.rowsOf versionId).store.rowsIn table =
        (store.rowsOf versionId).store.rowsIn table ++ added ∧
      added.length = summary.count table

/-- An import succeeds exactly when it has what it needs. It then adds what it reports and changes nothing
else. Otherwise it says what is missing and changes nothing. -/
structure Store.AnswersImport (store : Store) (versionId : String) (bundle : Bundle)
    (outcome : Except Failure ImportSummary) (after : Store) : Prop where
  succeeds : (∃ summary, outcome = .ok summary) ↔ store.CanImport versionId bundle
  gains : ∀ summary, outcome = .ok summary → store.Gains versionId summary after
  refuses : ∀ failure, outcome = .error failure →
    store.RefusesImport versionId bundle failure ∧ after = store

theorem Version.ensureEditable_eq (version : Version) :
    version.ensureEditable =
      if version.status = .draft then .ok ()
      else .error (.versionNotEditable version.id version.status.name) := by
  rw [ensureEditable]
  cases version.status <;> rfl

namespace Store

variable {store after : Store} {versionId : String} {bundle : Bundle} {ids : Ids}

theorem AnswersImport.of_ok {summary : ImportSummary} (hcan : store.CanImport versionId bundle)
    (hgains : store.Gains versionId summary after) :
    store.AnswersImport versionId bundle (.ok summary) after where
  succeeds := iff_of_true ⟨summary, rfl⟩ hcan
  gains _ hsummary := by
    cases hsummary
    exact hgains
  refuses _ herror := nomatch herror

theorem AnswersImport.of_error {failure : Failure}
    (hcannot : ¬store.CanImport versionId bundle)
    (hrefuses : store.RefusesImport versionId bundle failure) :
    store.AnswersImport versionId bundle (.error failure) store where
  succeeds := iff_of_false (fun ⟨_, hok⟩ => nomatch hok) hcannot
  gains _ hsummary := nomatch hsummary
  refuses _ herror := by
    cases herror
    exact ⟨hrefuses, rfl⟩

/-! ### Reading the version -/

theorem hasVersion_of_version? {version : Version}
    (hversion : store.version? versionId = .ok (some version)) :
    store.hasVersion versionId = true := by
  obtain ⟨row, hrow, -⟩ := version?_eq_some hversion
  exact List.any_eq_true.mpr ⟨row, mem_of_row? hrow, beq_iff_eq.mpr (row?_id hrow)⟩

theorem version?_eq_error {failure : Failure} (herror : store.version? versionId = .error failure) :
    ∃ column text, failure = .other (.invalidTime column text) := by
  let isInvalid (failure : Failure) : Prop :=
    ∃ column text, failure = .other (.invalidTime column text)
  have hread : ∀ column text, FailsOnly isInvalid (readTime column text) := by
    intro column text
    rw [readTime]
    split
    next => exact .ok _
    next => exact .error ⟨column, text, rfl⟩
  have hversion : ∀ row : VersionRow, FailsOnly isInvalid row.toVersion := fun row =>
    (failsOnly_readOptional (hread _) _).bind fun _ => (hread _ _).bind fun _ => .ok _
  exact FailsOnly.mapM_option hversion _ failure herror

/-- The definitions that an import is going to write. -/
def toImport (store : Store) (ids : Ids) (versionId : String) (bundle : Bundle) :
    Except Failure DefinitionSet := do
  let version ← store.readVersion versionId
  version.ensureEditable
  bundle.resolve ids version.id

/-- What is said of the version when it is not a draft that reads. -/
theorem toImport_of_not_draft
    (hdraft : ¬∃ version, store.version? versionId = .ok (some version) ∧ version.status = .draft) :
    ∃ failure, store.toImport ids versionId bundle = .error failure ∧
      store.RefusesImport versionId bundle failure := by
  rw [toImport, readVersion]
  rcases hversion : store.version? versionId with failure | version?
  · obtain ⟨column, text, rfl⟩ := version?_eq_error hversion
    exact ⟨_, rfl, .unreadable hversion⟩
  rcases version? with _ | version
  · exact ⟨_, rfl, .missing hversion⟩
  · have hstatus : version.status ≠ .draft := fun hstatus => hdraft ⟨version, hversion, hstatus⟩
    refine ⟨_, ?_, .frozen hversion hstatus⟩
    change (version.ensureEditable >>= fun _ => bundle.resolve ids version.id) = _
    rw [Version.ensureEditable_eq, if_neg hstatus, id_of_version? hversion]
    rfl

theorem toImport_of_draft {version : Version}
    (hversion : store.version? versionId = .ok (some version)) (hdraft : version.status = .draft) :
    store.toImport ids versionId bundle = bundle.resolve ids versionId := by
  rw [toImport, readVersion_eq_ok.mpr hversion]
  change (version.ensureEditable >>= fun _ => bundle.resolve ids version.id) = _
  rw [Version.ensureEditable_eq, if_pos hdraft, id_of_version? hversion]
  rfl

/-! ### Writing the definitions -/

theorem new_definitions {taken : List String} (hfresh : ∀ place, ids place ∉ taken) :
    ∀ each ∈ (bundle.definitions ids versionId).definitions, each.key.1 ∉ taken := by
  intro each heach
  obtain ⟨place, -, hplace⟩ :=
    List.mem_map.mp (bundle.isWithin_definitions ids versionId each heach).1
  rw [← hplace]
  exact hfresh place

theorem rowsIn_extended (store : Store) (rows : DefinitionRows) (table : Table) :
    (store.extended rows).rowsIn table = store.rowsIn table ++ rows.store.rowsIn table := by
  cases table with
  | blueprints | versions => rfl
  | _ => exact List.map_append

theorem rowsIn_append (rows added : DefinitionRows) (table : Table) :
    (rows.append added).store.rowsIn table =
      rows.store.rowsIn table ++ added.store.rowsIn table := by
  cases table with
  | blueprints | versions => rfl
  | _ => exact List.map_append

theorem length_rowsIn (set : DefinitionSet) (table : Table) :
    (set.rows.store.rowsIn table).length = (ImportSummary.of set).count table := by
  cases table with
  | blueprints | versions => rfl
  | profiles => rcases set with ⟨_, _, _, _, _, _, _ | _, _, _⟩ <;> rfl
  | _ =>
    simp only [rowsIn, DefinitionRows.store, DefinitionSet.rows, ImportSummary.count,
      ImportSummary.of, List.length_map]

/-- A set of definitions under new ids is written when the profiles allow it, and not otherwise. -/
theorem IsConsistent.run_saveAll_cases (hstore : store.IsConsistent) {set : DefinitionSet}
    (howned : set.rows.IsOwned versionId) (hversion : store.hasVersion versionId = true)
    (hnodup : (set.definitions.map (·.key.1)).Nodup)
    (hnew : ∀ each ∈ set.definitions, each.key.1 ∉ store.definitionIds)
    (hnumber : ∀ profile ∈ set.profile, profile.threshold.isNumber = true) :
    set.profile.isSome = true ∧ (∃ row ∈ store.profiles, row.versionId = versionId) ∧
        store.run (.saveAll set) = (.error (.invalidInput (.secondProfile versionId)), store) ∨
      ¬(set.profile.isSome = true ∧ ∃ row ∈ store.profiles, row.versionId = versionId) ∧
        (store.run (.saveAll set)).1 = .ok () ∧
          store.Gains versionId (.of set) (store.run (.saveAll set)).2 := by
  have hrival : store.profiles.any (·.versionId == versionId) = true ↔
      ∃ row ∈ store.profiles, row.versionId = versionId := by
    simp only [List.any_eq_true, beq_iff_eq]
  rw [← hrival]
  by_cases hprofile :
      set.profile.isSome = true ∧ store.profiles.any (·.versionId == versionId) = true
  · exact Or.inl ⟨hprofile.1, hprofile.2,
      run_saveAll_of_rival howned hversion hnodup hnew hnumber hprofile.1 hprofile.2⟩
  right
  have hwrite := (@writeAll_set_of_new store _ _ hnodup hnew).mpr
    ⟨admits_definitions howned hversion hnumber fun hsome =>
      Bool.eq_false_iff.mpr fun hrival => hprofile ⟨hsome, hrival⟩, rfl⟩
  obtain ⟨-, hrows, -⟩ := hstore.rowsOf_written howned hnodup hnew hwrite
  have hrun : store.run (.saveAll set) = (.ok (), store.extended set.rows) := by
    rw [run, commit, Call.writes, hwrite]
  rw [hrun]
  refine ⟨hprofile, rfl, rfl, rfl, fun table => ⟨set.rows.store.rowsIn table, ?_, ?_, ?_⟩⟩
  · exact rowsIn_extended store set.rows table
  · rw [hrows]
    exact rowsIn_append _ _ table
  · exact length_rowsIn set table

end Store

namespace World

variable {world : World} {agent : Agent} {versionId : String} {bundle : Bundle}

/-! ### The whole import -/

theorem perform_importBundle_of_error (hserving : world.IsServing) {failure : Failure}
    (himport : world.store.toImport (fun position => world.ids (world.idsTaken + position))
      versionId bundle = .error failure) :
    (world.perform agent (Operation.importBundle versionId bundle)).1 = .error failure ∧
      (world.perform agent (Operation.importBundle versionId bundle)).2.1.store = world.store := by
  have hread := @yields_getVersion _ agent hserving versionId
  rw [Operation.importBundle, perform_bind, hread]
  rw [Store.toImport] at himport
  cases hversion : world.store.readVersion versionId with
  | error other =>
    rw [hversion] at himport
    cases himport
    exact ⟨rfl, rfl⟩
  | ok version =>
    dsimp only
    rw [hversion] at himport
    change (version.ensureEditable >>= fun _ => _) = _ at himport
    rw [perform_bind, perform_lift]
    cases heditable : version.ensureEditable with
    | error other =>
      rw [heditable] at himport
      cases himport
      exact ⟨rfl, rfl⟩
    | ok _ =>
      dsimp only
      rw [heditable] at himport
      change bundle.resolve (world.freshIds bundle.idCount).1 version.id = _ at himport
      rw [perform_bind_ok (perform_freshIds _), himport, perform_bind, perform_lift]
      exact ⟨rfl, rfl⟩

theorem perform_importBundle_of_ok (hserving : world.IsServing) {set : DefinitionSet}
    (himport : world.store.toImport (fun position => world.ids (world.idsTaken + position))
      versionId bundle = .ok set) :
    world.perform agent (Operation.importBundle versionId bundle) =
      ((world.store.run (.saveAll set)).1.map fun _ => .of set,
        { world with
          store := (world.store.run (.saveAll set)).2
          idsTaken := world.idsTaken + bundle.idCount }, agent) := by
  obtain ⟨version, hversion, himport⟩ := Outcome.bind_eq_ok.mp himport
  obtain ⟨_, heditable, hresolve⟩ := Outcome.bind_eq_ok.mp himport
  have hread : world.Yields agent (Operation.getVersion versionId) (.ok version) :=
    hversion ▸ yields_getVersion hserving versionId
  have hprepared : (world.freshIds bundle.idCount).2.IsServing :=
    ⟨hserving.undisturbed, hserving.isOpen, hserving.isWritable⟩
  have hresolved : bundle.resolve (world.freshIds bundle.idCount).1 version.id = .ok set := hresolve
  rw [Operation.importBundle, perform_bind_ok hread, heditable, perform_bind_ok (perform_lift _),
    perform_bind_ok (perform_freshIds _), hresolved, perform_bind_ok (perform_lift _),
    bind_pure_comp, perform_map, perform_call hprepared]
  rfl

theorem answersImport (hserving : world.IsServing) (hreachable : world.store.IsReachable)
    (hinjective : Function.Injective world.ids)
    (hfresh : ∀ place, world.idsTaken ≤ place → world.ids place ∉ world.store.definitionIds)
    {text : String} (hparse : Bundle.codec.parse text = .ok bundle) (agent : Agent)
    (versionId : String) :
    world.store.AnswersImport versionId bundle
      (world.perform agent (Operation.importBundle versionId bundle)).1
      (world.perform agent (Operation.importBundle versionId bundle)).2.1.store := by
  have hrefused : ∀ failure,
      world.store.toImport (fun position => world.ids (world.idsTaken + position)) versionId bundle =
        .error failure →
      ¬world.store.CanImport versionId bundle →
      world.store.RefusesImport versionId bundle failure →
        world.store.AnswersImport versionId bundle
          (world.perform agent (Operation.importBundle versionId bundle)).1
          (world.perform agent (Operation.importBundle versionId bundle)).2.1.store := by
    intro failure himport hcannot hrefuses
    obtain ⟨houtcome, hstore⟩ := @perform_importBundle_of_error _ agent _ _ hserving _ himport
    rw [houtcome, hstore]
    exact .of_error hcannot hrefuses
  by_cases hversion :
      ∃ version, world.store.version? versionId = .ok (some version) ∧ version.status = .draft
  swap
  · obtain ⟨failure, himport, hrefuses⟩ := Store.toImport_of_not_draft hversion
    exact hrefused failure himport (fun hcan => hversion hcan.draft) hrefuses
  obtain ⟨version, hversion, hdraft⟩ := hversion
  have himport := @Store.toImport_of_draft _ _ bundle
    (fun position => world.ids (world.idsTaken + position)) _ hversion hdraft
  cases hcheck : bundle.check with
  | error failure =>
    rw [Bundle.resolve_eq_error.mpr hcheck] at himport
    refine hrefused failure himport (fun hcan => ?_)
      (.senseless hversion hdraft (Bundle.blames_of_check hcheck))
    cases hcheck.symm.trans (Bundle.check_eq_ok.mpr ⟨hcan.kinds, hcan.parents⟩)
  | ok _ =>
    rw [Bundle.resolve_eq_ok.mpr ⟨hcheck, rfl⟩] at himport
    rw [perform_importBundle_of_ok hserving himport]
    have hids : Function.Injective fun position => world.ids (world.idsTaken + position) :=
      fun _ _ hsame => Nat.add_left_cancel (hinjective hsame)
    rcases hreachable.isConsistent.run_saveAll_cases (bundle.isOwned_definitions _ versionId)
        (Store.hasVersion_of_version? hversion) (bundle.nodup_definitions hids versionId)
        (Store.new_definitions fun place => hfresh _ (Nat.le_add_right _ _))
        (Bundle.isNumber_definitions hparse _ versionId) with
      ⟨hprofile, hrival, hrun⟩ | ⟨hprofile, hok, hgains⟩
    · rw [Bundle.definitions, Option.isSome_map] at hprofile
      rw [hrun]
      exact .of_error (fun hcan => hcan.profile ⟨hprofile, hrival⟩)
        (.secondProfile hversion hdraft hcheck hprofile hrival)
    · rw [Bundle.definitions, Option.isSome_map] at hprofile
      rw [hok]
      obtain ⟨hkinds, hparents⟩ := Bundle.check_eq_ok.mp hcheck
      exact .of_ok ⟨⟨version, hversion, hdraft⟩, hkinds, hparents, hprofile⟩ hgains

/-! ### An empty draft -/

def blank : World :=
  drafted {} .tally

theorem isReachable_blank : blank.store.IsReachable :=
  isReachable_drafted fun _ hmem => nomatch hmem

theorem not_mem_definitionIds_blank (id : String) : id ∉ blank.store.definitionIds := by
  have hnone : blank.store.definitionIds = [] := by decide +kernel
  rw [hnone]
  exact List.not_mem_nil

theorem version?_blank : blank.store.version? "v" = .ok (some (.draft "v" "b" 1 .epoch)) := by
  have hrow : blank.store.row? "v" = some (Version.draft "v" "b" 1 .epoch).toRow := rfl
  rw [Store.version?_of_row? hrow, Version.toVersion_toRow ⟨by decide, by rintro _ ⟨⟩⟩]
  rfl

theorem canImport_blank {bundle : Bundle} (hcheck : bundle.check = .ok ()) :
    blank.store.CanImport "v" bundle where
  draft := ⟨_, version?_blank, rfl⟩
  kinds := (Bundle.check_eq_ok.mp hcheck).1
  parents := (Bundle.check_eq_ok.mp hcheck).2
  profile := by
    rintro ⟨-, row, hrow, -⟩
    have hnone : blank.store.profiles = [] := rfl
    rw [hnone] at hrow
    cases hrow

theorem check_of_isOk {bundle : Bundle} (hok : bundle.check.isOk = true) :
    bundle.check = .ok () := by
  cases hcheck : bundle.check with
  | ok _ => rfl
  | error failure =>
    rw [hcheck] at hok
    cases hok

/-- Two types, one of them the parent of the other, and a profile with a threshold that is moved into
the unit interval. -/
def kinText : String :=
  "\x7b\"entity_types\":[\x7b\"entity_kind\":\"HERO\",\"parent\":\"CHARACTER\"\x7d," ++
    "\x7b\"entity_kind\":\"CHARACTER\"\x7d]," ++
    "\"extraction_profile\":\x7b\"name\":\"Standard\",\"confidence_threshold\":7\x7d\x7d"

theorem answersImport_kin :
    blank.IsServing ∧ blank.store.IsReachable ∧ Function.Injective blank.ids ∧
      (∀ place, blank.ids place ∉ blank.store.definitionIds) ∧
      ∃ bundle, Bundle.codec.parse kinText = .ok bundle ∧ bundle.profile.isSome = true ∧
        ∃ summary, (blank.perform {} (Operation.importBundle "v" bundle)).1 = .ok summary ∧
          blank.store.Gains "v" summary
            (blank.perform {} (Operation.importBundle "v" bundle)).2.1.store := by
  have hserving : blank.IsServing := isServing_drafted _ _
  have hshown : (Bundle.codec.parse kinText).toOption.map (fun bundle =>
      (bundle.check.isOk, bundle.profile.isSome)) = some (true, true) := by
    decide +kernel
  obtain ⟨bundle, hparse, hfacts⟩ := Option.map_eq_some_iff.mp hshown
  rw [Outcome.toOption_eq_some] at hparse
  obtain ⟨hok, hprofile⟩ := Prod.mk.inj hfacts
  have hanswers := answersImport hserving isReachable_blank Ids.tally_injective
    (fun place _ => not_mem_definitionIds_blank _) hparse {} "v"
  obtain ⟨summary, hsummary⟩ := hanswers.succeeds.mpr (canImport_blank (check_of_isOk hok))
  exact ⟨hserving, isReachable_blank, Ids.tally_injective,
    fun place => not_mem_definitionIds_blank _, bundle, hparse, hprofile, summary, hsummary,
    hanswers.gains summary hsummary⟩

/-! ### A draft that does not read -/

/-- A draft of a given time, in an empty blueprint. -/
def waiting (createdAt : Timestamp) : World where
  store := ((({} : Store).run (.saveBlueprint (.new "b" "Novel" .epoch))).2.run
    (.insertVersion (.draft "v" "b" 1 createdAt))).2
  ids := .tally
  clock := fun _ => .epoch

theorem row?_waiting (createdAt : Timestamp) :
    (waiting createdAt).store.row? "v" = some (Version.draft "v" "b" 1 createdAt).toRow :=
  rfl

theorem isReachable_waiting (createdAt : Timestamp) : (waiting createdAt).store.IsReachable := by
  refine .run (.run .empty _ ?_) _ ?_ <;> simp [Store.Call.writes, Write.IsNormal]

theorem not_mem_definitionIds_waiting (createdAt : Timestamp) (id : String) :
    id ∉ (waiting createdAt).store.definitionIds := by
  have hnone : (waiting createdAt).store.definitionIds = [] := rfl
  rw [hnone]
  exact List.not_mem_nil

theorem version?_waiting {createdAt : Timestamp} {failure : Failure}
    (hread : readTime .createdAt createdAt.storedText = .error failure) :
    (waiting createdAt).store.version? "v" = .error failure := by
  have hversion : (Version.draft "v" "b" 1 createdAt).toRow.toVersion = .error failure := by
    simp only [VersionRow.toVersion, Version.toRow, Version.draft, readOptional, Option.map_none,
      hread]
    rfl
  rw [Store.version?_of_row? (row?_waiting createdAt), hversion]
  rfl

/-- A time that is in the year 10000 once its offset is taken off. -/
def farOff : Timestamp :=
  (Timestamp.ofText? "9999-12-31T23:59:59-01:00").get (by decide +kernel)

theorem readTime_farOff : readTime .createdAt farOff.storedText =
    .error (.other (.invalidTime .createdAt "+10000-01-01T00:59:59+00:00")) := by
  have htext : farOff.storedText = "+10000-01-01T00:59:59+00:00" := by decide +kernel
  have hnone : Timestamp.ofStoredText? "+10000-01-01T00:59:59+00:00" = none := by decide +kernel
  rw [htext, readTime, hnone]

theorem parse_emptyText : (Bundle.codec.parse "\x7b\x7d").toOption.map (fun bundle =>
    (bundle.check.isOk, bundle.profile.isNone)) = some (true, true) := by
  decide +kernel

/-- An empty bundle is not imported into a draft of that time. -/
theorem not_imports_farOff :
    (waiting farOff).IsServing ∧ (waiting farOff).store.IsReachable ∧
      Function.Injective (waiting farOff).ids ∧
      (∀ place, (waiting farOff).ids place ∉ (waiting farOff).store.definitionIds) ∧
      (∃ row, (waiting farOff).store.row? "v" = some row ∧ row.status = .draft) ∧
      ∃ bundle, Bundle.codec.parse "\x7b\x7d" = .ok bundle ∧ bundle.kinds.Nodup ∧
        (∀ type ∈ bundle.entityTypes, ∀ parent ∈ type.parent, parent ∈ bundle.kinds) ∧
        bundle.profile = none ∧
        ((waiting farOff).perform {} (Operation.importBundle "v" bundle)).1 =
          .error (.other (.invalidTime .createdAt "+10000-01-01T00:59:59+00:00")) := by
  have hserving : (waiting farOff).IsServing := ⟨⟨rfl, rfl⟩, rfl, rfl⟩
  obtain ⟨bundle, hparse, hfacts⟩ := Option.map_eq_some_iff.mp parse_emptyText
  rw [Outcome.toOption_eq_some] at hparse
  obtain ⟨hcheck, hprofile⟩ := Prod.mk.inj hfacts
  have hsense := Bundle.check_eq_ok.mp (check_of_isOk hcheck)
  have himport : (waiting farOff).store.toImport
      (fun position => (waiting farOff).ids ((waiting farOff).idsTaken + position)) "v" bundle =
        .error (.other (.invalidTime .createdAt "+10000-01-01T00:59:59+00:00")) := by
    rw [Store.toImport, Store.readVersion, version?_waiting readTime_farOff]
    rfl
  exact ⟨hserving, isReachable_waiting farOff, Ids.tally_injective,
    fun _ => not_mem_definitionIds_waiting farOff _, ⟨_, row?_waiting farOff, rfl⟩, bundle, hparse,
    hsense.1, hsense.2, Option.isNone_iff_eq_none.mp hprofile,
    (perform_importBundle_of_error hserving himport).1⟩

end World

end KnowledgeSchema
