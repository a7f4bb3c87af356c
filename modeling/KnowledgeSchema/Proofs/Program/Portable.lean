import KnowledgeSchema.Proofs.Program.Terms
import KnowledgeSchema.Proofs.Store.Portable

/-!
# Services on portable definitions

Bundles that are read from texts stand for portable definitions, a fork copies what it has read, and no
other call writes definitions. So a store that began empty has only ever been given portable ones, and
what is compiled from it is made of portable ones, even while other calls are under way.
-/

namespace KnowledgeSchema

variable {depth : Nat}

/-- Only portable definitions are written, and only portable ones are read. -/
def portableTerms (depth : Nat) : Terms where
  allows
    | .store call _ => ∀ write ∈ call.writes, write.IsPortable depth
    | _ => True
  grants
    | .store call _, outcome => ∀ result, outcome = .ok result → call.AnswersPortable depth result
    | _, _ => True

/-! ### Worlds -/

namespace World

variable {world : World} {call : Store.Call}

theorem portable_callStore (hstore : world.store.IsPortable depth)
    (hallows : ∀ write ∈ call.writes, write.IsPortable depth) :
    (∀ result, (world.callStore call).1 = .ok result → call.AnswersPortable depth result) ∧
      (world.callStore call).2.store.IsPortable depth := by
  rw [callStore]
  by_cases htakes : (!world.takes call) = true
  · rw [if_pos htakes]
    exact ⟨fun _ hresult => (by cases hresult), hstore⟩
  · rw [if_neg htakes]
    exact ⟨fun result hresult => hstore.answers call hresult, hstore.run hallows⟩

theorem portable_updateStatus (hstore : world.store.IsPortable depth) (id : String)
    (expected status : Status) (publishedAt : Option Timestamp) :
    (world.updateStatus id expected status publishedAt).2.store.IsPortable depth := by
  have hcall : ∀ {world : World} (other : Status), world.store.IsPortable depth →
      (world.callStore (.updateStatus id expected other publishedAt)).2.store.IsPortable depth :=
    fun other hstore => (portable_callStore hstore (List.forall_mem_nil _)).2
  rw [updateStatus]
  rcases world.faults.races with _ | ⟨_ | other, races⟩
  · exact hcall status hstore
  · exact hstore
  · have hmoved := @hcall { world with faults := { world.faults with races } } other hstore
    dsimp only
    split
    next heq =>
      rw [heq] at hmoved
      exact hmoved
    next heq =>
      rw [heq] at hmoved
      exact hcall status hmoved

theorem portable_call (hstore : world.store.IsPortable depth)
    (hallows : ∀ write ∈ call.writes, write.IsPortable depth) :
    (∀ result, (world.call call).1 = .ok result → call.AnswersPortable depth result) ∧
      (world.call call).2.store.IsPortable depth := by
  cases call with
  | insertVersion version =>
    refine ⟨fun _ _ => trivial, ?_⟩
    rw [World.call, World.insertVersion]
    split
    · exact (portable_callStore hstore hallows).2
    · exact hstore
  | insertVersionWith version set =>
    refine ⟨fun _ _ => trivial, ?_⟩
    rw [World.call, World.insertVersion]
    split
    · exact (portable_callStore hstore hallows).2
    · exact hstore
  | updateStatus id expected status publishedAt =>
    exact ⟨fun _ _ => trivial, portable_updateStatus hstore id expected status publishedAt⟩
  | _ => exact portable_callStore hstore hallows

end World

theorem hold_portableTerms :
    (portableTerms depth).Hold fun world => world.store.IsPortable depth := by
  intro r world agent hallows hstore
  cases r with
  | store call limit => exact World.portable_call hstore hallows
  | _ => exact ⟨trivial, hstore⟩

/-! ### Requests -/

theorem Request.IsQuiet.portable {r : Request} (hquiet : r.IsQuiet) :
    (portableTerms depth).allows r := by
  cases r with
  | store call limit =>
    change ∀ write ∈ call.writes, write.IsPortable depth
    rw [Store.Call.writes_of_isChange hquiet]
    exact List.forall_mem_nil _
  | _ => trivial

/-- Calls other than forks and imports write no definition. -/
theorem Command.MayMake.portable {command : Command} {r : Request} (hmake : command.MayMake r)
    (hfork : ∀ sourceId, command ≠ .forkDraft sourceId)
    (himport : ∀ versionId bundle, command ≠ .importBundle versionId bundle) :
    (portableTerms depth).allows r := by
  rcases hmake with hquiet | hchange
  · exact hquiet.portable
  · cases r with
    | store call limit =>
      cases command with
      | createBlueprint =>
        cases call with
        | saveBlueprint blueprint => exact List.forall_mem_singleton.mpr trivial
        | _ => exact hchange.elim
      | createDraft =>
        cases call with
        | insertVersion version => exact List.forall_mem_singleton.mpr trivial
        | _ => exact hchange.elim
      | transition | transitionAndEvict =>
        cases call with
        | updateStatus => exact List.forall_mem_nil _
        | _ => exact hchange.elim
      | forkDraft sourceId => exact absurd rfl (hfork sourceId)
      | importBundle versionId bundle => exact absurd rfl (himport versionId bundle)
      | _ => exact hchange.elim
    | _ => trivial

namespace Operation

/-! ### Operations that read -/

theorem meets_reading {limit : Option Nat} {call : Store.Call} (hcall : call.isChange = false) :
    (callWithin limit call).Meets (portableTerms depth) (call.AnswersPortable depth) :=
  (meets_callWithin (@Request.IsQuiet.portable _ (.store call limit) hcall)).mono
    fun result hgrants => hgrants result rfl

theorem meets_readContent (limit : Option Nat) (versionId : String) :
    (readContent limit versionId).Meets (portableTerms depth) fun content =>
      content.IsPortable depth := by
  have htypes : ∀ type : EntityType, type.kind.IsNormal →
      (withFields limit type).Meets (portableTerms depth) fun item =>
        item.1.kind.IsNormal ∧ ∀ field ∈ item.2, field.IsPortable depth := fun type hkind =>
    (meets_reading rfl).bind fun fields hfields => meets_pure ⟨hkind, hfields⟩
  have hrelationships : ∀ type : RelationshipType, type.source.IsNormal ∧ type.target.IsNormal →
      (withAttributes limit type).Meets (portableTerms depth) fun item =>
        (item.1.source.IsNormal ∧ item.1.target.IsNormal) ∧
          ∀ attr ∈ item.2, attr.dataType.IsNormal := fun type hends =>
    (meets_reading rfl).bind fun attributes hattributes => meets_pure ⟨hends, hattributes⟩
  have hprofiles : ∀ profile : ExtractionProfile, profile.IsPortable →
      (withLists limit profile).Meets (portableTerms depth) fun read =>
        read.definition.IsPortable ∧ ∀ mapping ∈ read.labelMappings, mapping.kind.IsNormal :=
    fun profile hprofile => (meets_reading rfl).bind fun mappings hmappings =>
      (meets_reading rfl).bind fun _ _ => meets_pure ⟨hprofile, hmappings⟩
  refine (meets_reading rfl).bind fun types hkinds => ?_
  refine (meets_mapM fun type htype => htypes type (hkinds type htype)).bind fun items hitems => ?_
  refine (meets_reading rfl).bind fun relationshipTypes hends => ?_
  refine (meets_mapM fun type htype => hrelationships type (hends type htype)).bind
    fun relationships hrelated => ?_
  refine (meets_reading rfl).bind fun views hviews => (meets_reading rfl).bind fun maps hmaps => ?_
  refine (meets_reading rfl).bind fun profile? hprofile => ?_
  refine (meets_mapM_option fun profile hmem => hprofiles profile (hprofile profile hmem)).bind
    fun profile hread => ?_
  exact meets_pure
    { kinds := fun item hitem => (hitems item hitem).1
      fields := fun item hitem => (hitems item hitem).2
      sources := fun item hitem => (hrelated item hitem).1.1
      targets := fun item hitem => (hrelated item hitem).1.2
      dataTypes := fun item hitem => (hrelated item hitem).2
      views := hviews
      maps := hmaps
      profile := fun profile hmem => (hread profile hmem).1
      mappings := fun profile hmem => (hread profile hmem).2 }

/-- What a version is compiled to. -/
theorem meets_compile (maxDepth : UInt64) (limit : Option Nat) (versionId : String) :
    (compile maxDepth limit versionId).Meets (portableTerms depth) fun artifact =>
      ∃ (content : Content) (blueprint : Blueprint) (version : Version),
        content.IsPortable depth ∧ artifact = content.assemble blueprint version maxDepth := by
  refine (meets_reading rfl).bind fun version? _ => ?_
  cases version? with
  | none => exact meets_throw _
  | some version =>
    refine (meets_reading rfl).bind fun blueprint? _ => ?_
    cases blueprint? with
    | none => exact meets_throw _
    | some blueprint =>
      exact (meets_readContent limit version.id).bind fun content hcontent =>
        meets_pure ⟨content, blueprint, version, hcontent, rfl⟩

/-! ### Operations that write definitions -/

theorem Every.meets_quiet {α : Type} {operation : Operation α}
    (hquiet : operation.Every Request.IsQuiet) :
    operation.Meets (portableTerms depth) fun _ => True :=
  (hquiet.mono fun _ => Request.IsQuiet.portable).meets

theorem meets_forkDraft (sourceId : String) :
    (forkDraft sourceId).Meets (portableTerms depth) fun _ => True := by
  refine (meets_reading rfl).bind fun source? _ => ?_
  cases source? with
  | none => exact meets_throw _
  | some source =>
    refine (Every.meets_quiet (every_freshId trivial)).bind fun id _ => ?_
    refine (Every.meets_quiet (every_now trivial)).bind fun now _ => ?_
    refine (meets_readContent none source.id).bind fun content hcontent => ?_
    refine (Every.meets_quiet (every_freshIds trivial)).bind fun ids _ => ?_
    refine Every.meets (every_createVersion (fun _ => Request.IsQuiet.portable) fun number => ?_)
    refine every_attempt (List.forall_mem_cons.mpr ⟨trivial, List.forall_mem_map.mpr ?_⟩)
    exact hcontent.copy ids id

theorem meets_importBundle (versionId : String) {bundle : Bundle}
    (hportable : bundle.IsPortable depth) :
    (importBundle versionId bundle).Meets (portableTerms depth) fun _ => True := by
  refine (Every.meets_quiet (query_getVersion versionId).isQuiet).bind fun version _ => ?_
  refine (meets_lift _).bind fun _ _ => ?_
  refine (Every.meets_quiet (every_freshIds trivial)).bind fun ids _ => ?_
  refine (meets_lift _).bind fun set hset => ?_
  obtain ⟨-, rfl⟩ := Bundle.resolve_eq_ok.mp hset
  have hallows : (portableTerms depth).allows
      (.store (.saveAll (bundle.definitions ids version.id)) none) :=
    List.forall_mem_map.mpr (hportable.definitions ids version.id)
  exact (meets_callWithin hallows).bind fun _ _ => meets_pure trivial

end Operation

/-- Whether the bundles that a command imports, if any, are portable. -/
def Command.IsPortable (depth : Nat) : Command → Prop
  | importBundle _ bundle => bundle.IsPortable depth
  | _ => True

theorem Command.IsPortable.meets {command : Command} (hportable : command.IsPortable depth) :
    command.operation.Meets (portableTerms depth) fun _ => True := by
  cases command with
  | forkDraft sourceId => exact (Operation.meets_forkDraft sourceId).map fun _ _ => trivial
  | importBundle versionId bundle =>
    exact (Operation.meets_importBundle versionId hportable).map fun _ _ => trivial
  | _ =>
    refine Operation.Every.meets ((Command.every_mayMake _).mono fun r hmake => hmake.portable ?_ ?_)
    · exact fun _ hsame => nomatch hsame
    · exact fun _ _ hsame => nomatch hsame

/-- Whatever calls begin on an empty store, it is given portable definitions as long as the bundles
that are imported are portable. -/
theorem System.portable_run {actions : List Action}
    (hactions : ∀ agent command, Action.begin agent command ∈ actions → command.IsPortable depth)
    (ids : Ids) (clock : Nat → Timestamp) (capacity : Nat → Nat) :
    ((start {} ids clock capacity).run actions).store.IsPortable depth := by
  have hstart : (start {} ids clock capacity).Meets (portableTerms depth)
      fun world => world.store.IsPortable depth :=
    ⟨Store.isPortable_empty, List.forall_mem_nil _⟩
  exact (hstart.run hold_portableTerms fun agent command hmem =>
    (hactions agent command hmem).meets).world

end KnowledgeSchema
