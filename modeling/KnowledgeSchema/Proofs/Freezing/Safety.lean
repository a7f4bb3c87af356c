import KnowledgeSchema.Proofs.Freezing.Tending

/-!
# Frozen definitions

A published, deprecated or archived version is to keep its definitions for good. An import looks at
the status once, before it writes, so the version may leave draft in between. In every run that is
the only way in which the definitions change after all.

Imports and forks write definitions under ids that were given out to them, and no other call writes
any. A fork writes into the version that it inserts, so not into one that was there before. What
an import writes into is a version that it found a draft, without another look at it.
-/

namespace KnowledgeSchema

variable {ids : Ids} {versionId : String} {scene : Scene} {caller : Caller}

/-! ### Single requests -/

theorem Command.definitionPart_run {command : Command} {call : Store.Call} {limit : Option Nat}
    (hmay : command.MayChange (.store call limit))
    (hfork : ∀ sourceId, command ≠ .forkDraft sourceId)
    (himport : ∀ target bundle, command ≠ .importBundle target bundle) (store : Store) :
    (store.run call).2.definitionPart = store.definitionPart := by
  have hcommit : ∀ (write : Write) (after : Store),
      (store.write write = .ok after → after.definitionPart = store.definitionPart) →
      store.writeAll [write] = .ok after → after.definitionPart = store.definitionPart := by
    intro write after hpart hwrite
    obtain ⟨between, hfirst, hrest⟩ := Store.writeAll_cons.mp hwrite
    cases hrest
    exact hpart hfirst
  cases command with
  | createBlueprint name description tags isSystem =>
    cases call with
    | saveBlueprint blueprint =>
      rcases store.commit_eq_or [.blueprint blueprint] with hsame | hwrite
      · exact congrArg Store.definitionPart hsame
      · refine hcommit _ _ (fun hfirst => ?_) hwrite
        cases hfirst
        rfl
    | _ => exact hmay.elim
  | createDraft blueprintId =>
    cases call with
    | insertVersion version =>
      rcases store.commit_eq_or [.version version] with hsame | hwrite
      · exact congrArg Store.definitionPart hsame
      · refine hcommit _ _ (fun hfirst => ?_) hwrite
        obtain ⟨-, -, hafter⟩ := Store.insertVersion_eq_ok hfirst
        rw [hafter]
        rfl
    | _ => exact hmay.elim
  | transition target next =>
    cases call with
    | updateStatus => rfl
    | _ => exact hmay.elim
  | transitionAndEvict target next =>
    cases call with
    | updateStatus => rfl
    | _ => exact hmay.elim
  | forkDraft sourceId => exact absurd rfl (hfork sourceId)
  | importBundle target bundle => exact absurd rfl (himport target bundle)
  | _ => exact hmay.elim

namespace Scene.IsTended

theorem mayMake {r : Request} (htended : scene.IsTended ids versionId)
    (hinjective : Function.Injective ids) (hmay : caller.command.MayMake r)
    (hfork : ∀ sourceId, caller.command ≠ .forkDraft sourceId)
    (himport : ∀ target bundle, caller.command ≠ .importBundle target bundle) :
    (scene.exchange caller r).2.IsTended ids versionId := by
  rcases hmay with hquiet | hmay
  · exact htended.quiet hinjective hquiet
  · refine htended.spare hinjective ?_ fun ⟨⟨bundle, hcommand⟩, _⟩ =>
      absurd hcommand (himport _ bundle)
    cases r with
    | store call limit =>
      rcases exchange_store htended.issue.undisturbed caller call limit with
        ⟨-, hafter⟩ | ⟨-, hafter⟩
      · rw [Scene.store, hafter]
        exact Command.definitionPart_run hmay hfork himport _
      · rw [Scene.store, hafter]
    | _ => rfl

/-- Definitions that are written for one version under ids of the call. -/
theorem writes {call : Store.Call} {limit : Option Nat} {own : List String} {target : String}
    (htended : scene.IsTended ids versionId) (hinjective : Function.Injective ids)
    (hreserved : scene.HasReserved caller.task own target)
    (hconfined : Store.IsConfined own target scene.store (scene.store.run call).2)
    (hfrozen : target = versionId →
      HasLeftDraft versionId (scene.journal ++ [scene.next caller (.store call limit)]) →
      (scene.store.run call).2 ≠ scene.store →
        (scene.next caller (.store call limit)).Imports versionId ∧
          ∃ read ∈ scene.journal, read.caller = caller ∧ read.FindsDraft versionId)
    (heffective : (scene.next caller (.store call limit)).Imports versionId →
      (scene.store.run call).2 ≠ scene.store →
        (scene.store.run call).2.rowsOf versionId ≠ scene.store.rowsOf versionId) :
    (scene.exchange caller (.store call limit)).2.IsTended ids versionId ∧
      (scene.exchange caller (.store call limit)).2.HasReserved caller.task own target := by
  obtain ⟨howned, hbefore⟩ := hreserved
  have hafter : (scene.exchange caller (.store call limit)).2.store = (scene.store.run call).2 ∨
      (scene.exchange caller (.store call limit)).2.store = scene.store :=
    (exchange_store htended.issue.undisturbed caller call limit).imp
      (fun heffect => congrArg World.store heffect.2) fun hnone => congrArg World.store hnone.2
  have hwrites : Store.IsConfined own target scene.store
      (scene.exchange caller (.store call limit)).2.store := by
    rcases hafter with hafter | hafter
    · rw [hafter]
      exact hconfined
    · exact hbefore.isConfined_congr (congrArg Store.definitionPart hafter)
  refine ⟨htended.exchange hinjective ?_ ?_ ?_, fun id hid => handedTo_subset (howned hid),
    hwrites.reserved⟩
  · exact hwrites.adds.mono fun id hid => handedTo_subset (howned hid)
  · intro hleft halters
    by_cases htarget : target = versionId
    · refine hfrozen htarget hleft fun hsame => halters ?_
      have hstore : (scene.exchange caller (.store call limit)).2.store = scene.store :=
        hafter.elim (·.trans hsame) id
      exact congrArg (Store.rowsOf · versionId) hstore
    · exact absurd (hwrites.others versionId (Ne.symm htarget)) halters
  · intro himports hchanged
    rcases hafter with hafter | hafter
    · rw [Exchange.Alters]
      change (scene.exchange caller (.store call limit)).2.store.rowsOf versionId ≠ _
      rw [hafter]
      exact heffective himports (hafter ▸ hchanged)
    · exact absurd hafter hchanged

end Scene.IsTended

/-! ### Programs -/

section Programs

variable {α : Type}

theorem tends_over {outcome : Except Failure α} :
    (tendingPact ids versionId).Upholds caller (fun _ _ => True) (.done outcome) scene :=
  Pact.upholds_done (Pact.stable_ofTask _ _ fun _ => True) trivial fun _ _ _ => trivial

theorem tends_quietRequest {r : Request} {next : r.Answer → Program (Except Failure α)}
    {assertion : Scene → Prop} (hinjective : Function.Injective ids) (hquiet : r.IsQuiet)
    (hstable : (tendingPact ids versionId).Stable caller.task assertion)
    (hassertion : assertion scene)
    (hnext : ∀ later, later.IsTended ids versionId → assertion later →
      (tendingPact ids versionId).Upholds caller (fun _ _ => True)
        (next (later.exchange caller r).1) (later.exchange caller r).2) :
    (tendingPact ids versionId).Upholds caller (fun _ _ => True) (.request r next) scene :=
  Pact.upholds_request hstable hassertion fun later hlater hthere =>
    ⟨trivial, hlater.quiet hinjective hquiet, hnext later hlater hthere⟩

theorem tends_quietly {β : Type} {operation : Operation α} {next : α → Operation β}
    (hinjective : Function.Injective ids) (hquiet : operation.Every Request.IsQuiet)
    (hnext : ∀ value scene,
      (tendingPact ids versionId).Upholds caller (fun _ _ => True) (next value).run scene) :
    (tendingPact ids versionId).Upholds caller (fun _ _ => True) (operation >>= next).run
      scene := by
  rw [Operation.run_bind]
  refine Pact.Upholds.bind (Pact.upholds_of_every (Pact.stable_ofTask _ _ fun _ => True) ?_ ?_
    (Operation.every_iff.mp hquiet) trivial)
  · intro scene r htended _ hquiet
    exact ⟨trivial, htended.quiet hinjective hquiet, trivial⟩
  · intro outcome scene _ _
    cases outcome with
    | ok value => exact hnext value scene
    | error failure => exact tends_over

theorem Scene.IsTended.hasUnused (htended : scene.IsTended ids versionId) (caller : Caller)
    (count : Nat) :
    (scene.exchange caller (.freshIds count)).2.HasUnused caller.task
      ((scene.exchange caller (.freshIds count)).1.upTo count) := by
  refine ⟨?_, fun id hid hthere => ?_⟩
  · rw [handedTo_exchange_self]
    exact List.subset_append_right _ _
  · have hhanded : id ∈ (scene.next caller (.freshIds count)).handed := hid
    obtain ⟨place, hplace, -, rfl⟩ := mem_handed hhanded
    rw [htended.issue.source] at hthere
    exact htended.unissued place hplace hthere

theorem tends_forkDraft (hinjective : Function.Injective ids) {sourceId : String}
    (hcommand : ∀ bundle, caller.command ≠ .importBundle versionId bundle) :
    (tendingPact ids versionId).Upholds caller (fun _ _ => True) (Operation.forkDraft sourceId).run
      scene := by
  refine tends_quietly hinjective (Operation.quiet_callWithin rfl) fun source? scene => ?_
  cases source? with
  | none => exact tends_over
  | some source =>
    apply tends_quietly hinjective (Operation.every_freshId trivial)
    intro id scene
    apply tends_quietly hinjective (Operation.every_now trivial)
    intro now scene
    refine tends_quietly hinjective (Operation.quiet_readContent none source.id)
      fun content scene => ?_
    rw [Operation.run_freshIds_bind]
    refine tends_quietRequest hinjective trivial (Pact.stable_ofTask _ _ fun _ => True) trivial
      fun later htended _ => ?_
    obtain ⟨howned, hunused⟩ := htended.hasUnused caller content.idCount
    generalize (later.exchange caller (.freshIds content.idCount)).1 = answer at howned hunused ⊢
    have hwithin := content.isWithin_copy answer id
    have hevery : Operation.Every (fun r => r.IsQuiet ∨ ∃ version : Version, version.id = id ∧
        r = .store (.insertVersionWith version (content.copy answer id)) none)
        (Operation.createVersion (.draft id source.blueprintId 0 now) (some source.id)
          (some (content.copy answer id))) :=
      Operation.every_createVersion (fun _ => Or.inl) fun number =>
        Operation.every_attempt (Or.inr ⟨_, rfl, rfl⟩)
    refine Pact.upholds_of_every (stable_hasReserved id) ?_ (fun _ _ _ _ => trivial)
      (Operation.every_iff.mp hevery) ⟨howned, Store.isReserved_of_unused id hunused⟩
    rintro scene r htended hreserved (hquiet | ⟨version, hid, rfl⟩)
    · refine ⟨trivial, htended.quiet hinjective hquiet, ?_⟩
      have hstore := Scene.store_exchange_of_quiet htended.issue.undisturbed caller hquiet
      exact ⟨fun id hid => Scene.handedTo_subset (hreserved.1 hid), hstore ▸ hreserved.2⟩
    · refine ⟨trivial, htended.writes hinjective hreserved
        (hreserved.2.isConfined_insertVersionWith hwithin) ?_ ?_⟩
      · rintro rfl hleft hchanged
        rw [← hid] at hleft
        rcases scene.store.run_insertVersionWith version (content.copy answer _) with
          hsame | ⟨-, hfree, -⟩
        · exact absurd hsame hchanged
        · rw [htended.isTaken hleft] at hfree
          cases hfree
      · rintro ⟨⟨bundle, himports⟩, -⟩
        exact absurd himports (hcommand bundle)

def FoundDraft (caller : Caller) (target : String) (own : List Exchange) : Prop :=
  ∃ read ∈ own, read.caller = caller ∧ read.FindsDraft target

theorem foundDraft_concat {target : String} {own : List Exchange} {e : Exchange}
    (hfound : FoundDraft caller target own) : FoundDraft caller target (own ++ [e]) := by
  obtain ⟨read, hread, hfinds⟩ := hfound
  exact ⟨read, List.mem_append_left _ hread, hfinds⟩

/-- The write of an import, whatever has become of the version since. -/
theorem tends_saveBundle {bundle : Bundle} {answer : Ids} {target : String}
    {limit : Option Nat} {next : Except Failure Unit → Program (Except Failure α)}
    (hinjective : Function.Injective ids)
    (hcommand : caller.command = .importBundle target bundle)
    (hfound : FoundDraft caller target (scene.ofTask caller.task))
    (hunused : scene.HasUnused caller.task (answer.upTo bundle.idCount))
    (hnext : ∀ outcome scene,
      (tendingPact ids versionId).Upholds caller (fun _ _ => True) (next outcome) scene) :
    (tendingPact ids versionId).Upholds caller (fun _ _ => True)
      (.request (.store (.saveAll (bundle.definitions answer target)) limit) next) scene := by
  have hwithin := bundle.isWithin_definitions answer target
  refine Pact.upholds_request ((Pact.stable_ofTask _ _ (FoundDraft caller target)).and
    stable_hasUnused) ⟨hfound, hunused⟩ ?_
  rintro scene htended ⟨⟨read, hread, hfinds⟩, howned, hunused⟩
  have hreserved := Store.isReserved_of_unused target hunused
  refine ⟨trivial, (htended.writes hinjective ⟨howned, hreserved⟩
    (hreserved.isConfined_saveAll hwithin) ?_ ?_).1, hnext _ _⟩
  · rintro rfl - -
    exact ⟨⟨⟨bundle, hcommand⟩, _, _, rfl⟩, read, List.mem_of_mem_filter hread, hfinds⟩
  · rintro ⟨⟨_, hsame⟩, -⟩ hchanged
    obtain ⟨rfl, -⟩ := Command.importBundle.inj (hcommand.symm.trans hsame)
    rcases scene.store.commit_eq_or (Store.Call.saveAll (bundle.definitions answer target)).writes
      with hsame | hwrite
    · exact absurd hsame hchanged
    · refine Store.rowsOf_writeAll_ne hunused hwithin hwrite fun hnone => hchanged ?_
      change (scene.store.commit ((bundle.definitions answer target).definitions.map _)).2 = _
      rw [hnone]
      rfl

theorem tends_writeBundle (hinjective : Function.Injective ids) {target : String}
    {bundle : Bundle} (hcommand : caller.command = .importBundle target bundle)
    (hfound : FoundDraft caller target (scene.ofTask caller.task)) :
    (tendingPact ids versionId).Upholds caller (fun _ _ => True)
      (do
        let ids ← Operation.freshIds bundle.idCount
        let set ← bundle.resolve ids target
        Operation.call (.saveAll set)
        return ImportSummary.of set : Operation ImportSummary).run scene := by
  rw [Operation.run_freshIds_bind]
  refine tends_quietRequest hinjective trivial
    (Pact.stable_ofTask _ _ (FoundDraft caller target)) hfound fun later htended hfound => ?_
  have hunused := htended.hasUnused caller bundle.idCount
  generalize (later.exchange caller (.freshIds bundle.idCount)).1 = answer at hunused ⊢
  rw [Operation.run_lift_bind, Bundle.resolve]
  cases bundle.check with
  | error failure => exact tends_over
  | ok =>
    refine tends_saveBundle hinjective hcommand ?_ hunused fun outcome scene => ?_
    · rw [Scene.ofTask_exchange_self]
      exact foundDraft_concat hfound
    · cases outcome with
      | ok => exact tends_over
      | error failure => exact tends_over

theorem tends_importBundle (hinjective : Function.Injective ids) {target : String}
    {bundle : Bundle} (hcommand : caller.command = .importBundle target bundle) :
    (tendingPact ids versionId).Upholds caller (fun _ _ => True)
      (Operation.importBundle target bundle).run scene := by
  rw [Operation.importBundle, Operation.getVersion, bind_assoc, Operation.run_call_bind]
  refine tends_quietRequest hinjective rfl (Pact.stable_ofTask _ _ fun _ => True) trivial
    fun scene htended _ => ?_
  rcases Scene.exchange_store htended.issue.undisturbed caller (.getVersion target) none with
    ⟨hanswer, -⟩ | ⟨hanswer, -⟩
  · rw [hanswer]
    change (tendingPact ids versionId).Upholds _ _
      (Operation.proceed _ (scene.store.version? target)) _
    cases hread : scene.store.version? target with
    | error failure => exact tends_over
    | ok version? =>
      cases version? with
      | none => exact tends_over
      | some version =>
        obtain ⟨row, hrow, hversion⟩ := Store.version?_eq_some hread
        obtain ⟨hid, -, -, hstatus⟩ := VersionRow.eq_of_toVersion hversion
        rw [Store.row?_id hrow] at hid
        simp only [Operation.proceed, pure_bind, Operation.run_lift_bind, Version.ensureEditable]
        split_ifs with heditable
        · have hdraft : row.status = .draft := by
            rw [← hstatus]
            cases hcase : version.status with
            | draft => rfl
            | _ => simp [hcase, Status.isEditable] at heditable
          have hfound : FoundDraft caller target ((scene.exchange caller
              (.store (.getVersion target) none)).2.ofTask caller.task) := by
            rw [Scene.ofTask_exchange_self]
            exact ⟨_, List.mem_append_right _ (List.mem_singleton_self _), rfl, rfl, row, hrow,
              hdraft⟩
          subst hid
          exact tends_writeBundle hinjective hcommand hfound
        · exact tends_over
  · rw [hanswer]
    exact tends_over

end Programs

/-! ### Definitions that are kept -/

/-- No definition of the version changed since it left draft. -/
def IsFrozen (versionId : String) (journal : List Exchange) : Prop :=
  Throughout (fun earlier e => HasLeftDraft versionId (earlier ++ [e]) → ¬e.Alters versionId)
    journal

/-- An import found the version a draft, the version left draft, and then the import wrote. -/
def IsOvertaken (versionId : String) (journal : List Exchange) : Prop :=
  ∃ earlier write later, journal = earlier ++ write :: later ∧
    (∃ read ∈ earlier, read.caller = write.caller ∧ read.FindsDraft versionId) ∧
    HasLeftDraft versionId (earlier ++ [write]) ∧
    write.Imports versionId ∧ write.after.store ≠ write.before.store

theorem tends_reply {α : Type} {ids : Ids} {versionId : String} {caller : Caller} {scene : Scene}
    {operation : Operation α} (reply : α → Reply)
    (hupholds : (tendingPact ids versionId).Upholds caller (fun _ _ => True) operation.run scene) :
    (tendingPact ids versionId).Upholds caller (fun _ _ => True) (reply <$> operation).run
      scene := by
  rw [Operation.run_map]
  refine Pact.Upholds.bind (hupholds.mono fun outcome scene _ _ => ?_)
  cases outcome with
  | ok value => exact tends_over
  | error failure => exact tends_over

theorem tends_unwriting {ids : Ids} {versionId : String} {caller : Caller} {scene : Scene}
    (hinjective : Function.Injective ids) (hfork : ∀ sourceId, caller.command ≠ .forkDraft sourceId)
    (himport : ∀ target bundle, caller.command ≠ .importBundle target bundle) :
    (tendingPact ids versionId).Upholds caller (fun _ _ => True) caller.command.operation.run
      scene := by
  refine Pact.upholds_of_every (Pact.stable_ofTask _ _ fun _ => True) ?_ (fun _ _ _ _ => trivial)
    (Operation.every_iff.mp caller.command.every_mayMake) trivial
  exact fun scene r htended _ hmay =>
    ⟨trivial, htended.mayMake hinjective hmay hfork himport, trivial⟩

theorem begins_tending {ids : Ids} (hinjective : Function.Injective ids) (versionId : String) :
    (tendingPact ids versionId).Begins fun _ _ _ => True := by
  rintro ⟨task, agent, command⟩ scene - -
  cases command with
  | forkDraft sourceId => exact tends_reply .version (tends_forkDraft hinjective (by simp))
  | importBundle target bundle => exact tends_reply .summary (tends_importBundle hinjective rfl)
  | _ => exact tends_unwriting hinjective (by simp) (by simp)

/-- In every run the definitions of a version stay the same from the time on when it left draft,
unless it did so between the two requests of an import that writes something. -/
theorem System.isFrozen_iff (store : Store) (ids : Ids) (clock : Nat → Timestamp)
    (capacity : Nat → Nat) (versionId : String) (hinjective : Function.Injective ids)
    (hunused : ∀ place, ids place ∉ store.definitionIds) (actions : List Action) :
    IsFrozen versionId ((start store ids clock capacity).run actions).journal ↔
      ¬IsOvertaken versionId ((start store ids clock capacity).run actions).journal := by
  have htended : (start store ids clock capacity).scene.IsTended ids versionId :=
    ⟨⟨⟨rfl, rfl⟩, rfl, fun _ _ hid => (by cases hid), fun _ _ _ hid => (by cases hid)⟩,
      fun place _ => hunused place, fun _ he => (by cases he), fun _ he => (by cases he),
      throughout_nil, fun _ he => (by cases he)⟩
  have hbegins := begins_tending hinjective versionId
  have hkept := Pact.kept_run hbegins (Pact.kept_start htended) actions
  generalize (start store ids clock capacity).run actions = system at hkept
  constructor
  · rintro hfrozen ⟨earlier, write, later, hjournal, -, hleft, himports, hchanged⟩
    have hwrite : write ∈ system.journal := hjournal ▸ by simp
    exact hfrozen earlier write later hjournal hleft
      (hkept.holds.effective write hwrite himports hchanged)
  · intro hfree earlier write later hjournal hleft halters
    obtain ⟨himports, hfound⟩ := hkept.holds.frozen earlier write later hjournal hleft halters
    refine hfree ⟨earlier, write, later, hjournal, hfound, hleft, himports, fun hsame => ?_⟩
    exact halters (congrArg (Store.rowsOf · versionId) hsame)

/-! ### A race -/

namespace System

def oneType : Bundle where
  entityTypes := [⟨.event, none, none, none, false, []⟩]
  relationships := []
  views := []
  maps := []
  profile := none

/-- A draft is created, an import finds it, another call publishes it, and the import goes on. -/
def race : System :=
  fresh.run <|
    [.begin 0 (.createBlueprint "Novel" none [] false), .begin 0 (.createDraft "x"),
      .begin 0 (.importBundle "xx" oneType), .begin 1 (.transitionAndEvict "xx" .published)] ++
      List.replicate 5 (.advance 0) ++ List.replicate 7 (.advance 1) ++ [.advance 2] ++
      List.replicate 5 (.advance 3) ++ List.replicate 2 (.advance 2)

theorem isFrozen_iff_race :
    Function.Injective Ids.tally ∧ (∀ place, Ids.tally place ∉ ({} : Store).definitionIds) ∧
      (IsFrozen "xx" race.journal ↔ ¬IsOvertaken "xx" race.journal) :=
  ⟨Ids.tally_injective, fun _ => List.not_mem_nil,
    isFrozen_iff {} .tally _ _ "xx" Ids.tally_injective (fun _ => List.not_mem_nil) _⟩

/-- Without the condition the definitions may change: the version is published, and then it gets an
entity type. -/
theorem not_isFrozen_race : ¬IsFrozen "xx" race.journal := by
  have hlast : (race.journal.drop 19).map (fun e =>
      ((e.before.store.row? "xx").map (·.status),
        (e.before.store.rowsOf "xx").entityTypes.length,
        (e.after.store.rowsOf "xx").entityTypes.length)) = [(some .published, 0, 1)] := by
    decide +kernel
  generalize race.journal = journal at hlast
  obtain ⟨write, hwrite, heq⟩ := List.map_eq_singleton_iff.mp hlast
  obtain ⟨hpublished, hbefore, hafter⟩ : (write.before.store.row? "xx").map (·.status) =
      some .published ∧ (write.before.store.rowsOf "xx").entityTypes.length = 0 ∧
        (write.after.store.rowsOf "xx").entityTypes.length = 1 := by
    simpa only [Prod.mk.injEq] using heq
  have hjournal : journal = journal.take 19 ++ write :: [] := by
    rw [← hwrite, List.take_append_drop]
  have hleft : HasLeftDraft "xx" (journal.take 19 ++ [write]) := by
    obtain ⟨row, hrow, hstatus⟩ := Option.map_eq_some_iff.mp hpublished
    exact ⟨write, List.mem_append_right _ (List.mem_singleton_self _), row, hrow, by simp [hstatus]⟩
  intro hfrozen
  apply hfrozen _ write [] hjournal hleft
  intro hsame
  rw [hsame, hbefore] at hafter
  cases hafter

end System

end KnowledgeSchema
