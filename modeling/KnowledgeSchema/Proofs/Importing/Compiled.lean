import KnowledgeSchema.Proofs.Compiling.Artifact
import KnowledgeSchema.Proofs.Importing.Inherited
import KnowledgeSchema.Proofs.Importing.Outcome

/-!
# Imported bundles compile to what they mean

A bundle that is imported into an empty draft is written as a whole, and the draft then compiles to
what the bundle means. Its JSON is written and read on the way, so this takes JSON whose numbers are
read as they are written.

The artifact of what is kept of a bundle says what the bundle means: the lists are those of the
bundle up to their order, and a type has the fields that following parent kinds gives it.
-/

namespace KnowledgeSchema

/-! ### What a resolved bundle compiles to -/

def Outline.sense (type : Outline) : TypeSense where
  kind := type.definition.kind
  displayName := type.definition.displayName
  description := type.definition.description
  isAbstract := type.definition.isAbstract
  fields := type.fields.map Field.declaration

theorem Artifact.senses_outlines (artifact : Artifact) :
    artifact.outlines.map (·.sense) = artifact.entityTypes.map (·.sense) := by
  rw [outlines, List.map_map]
  exact map_zipIdx_congr fun _ _ => rfl

namespace Bundle

variable {bundle : Bundle} {ids : Ids} {versionId : String} {maxDepth : UInt64}
  {blueprint : Blueprint} {version : Version}

section Kept

variable (hkinds : bundle.kinds.Nodup)
  (hparents : ∀ type ∈ bundle.entityTypes, ∀ parent ∈ type.parent, parent ∈ bundle.kinds)
  (hids : Function.Injective ids)
  (hset : (bundle.definitions ids versionId).kept.IsOf versionId)
include hkinds hparents hids hset

theorem embodies_arranged :
    ((bundle.definitions ids versionId).kept.arranged.hierarchy maxDepth).Embodies bundle
      (bundle.embodied ids versionId) := by
  have htypes : (bundle.definitions ids versionId).kept.entityTypes =
      bundle.entityTypes.map (bundle.embodied ids versionId) := resolvedTypes_eq hkinds hparents
  have hmem : ∀ type ∈ bundle.entityTypes, bundle.embodied ids versionId type ∈
      (bundle.definitions ids versionId).kept.entityTypes := by
    rw [htypes]
    exact fun type htype => List.mem_map_of_mem htype
  refine ⟨fun first hfirst second hsecond => ?apart, fun type htype => hset.knows (hmem type htype),
    fun type htype => ?parent, fun type htype => ?own⟩
  case apart =>
    constructor
    · intro hsame
      rw [typeId_injective hkinds hids first hfirst second hsecond hsame]
    · exact congrArg (bundle.typeId ids)
  case parent =>
    rw [hset.parent?_eq (hmem type htype), parent?]
    change (type.parent.map (bundle.typeId ids)).bind _ = _
    cases hnamed : type.parent with
    | none => rfl
    | some kind =>
      obtain ⟨parent, hparent, rfl⟩ := List.mem_map.mp (hparents type htype kind hnamed)
      rw [Option.map_some, Option.bind_some, Option.bind_some, typeOf?_of_mem hkinds hparent]
      exact hset.knows (hmem parent hparent)
  case own =>
    have hfields : ((bundle.definitions ids versionId).kept.arranged.hierarchy maxDepth).own
        (bundle.typeId ids type.kind) =
          (bundle.definitions ids versionId).kept.fieldsIn (bundle.typeId ids type.kind) :=
      DefinitionSet.fieldsOf_arranged (hmem type htype)
    rw [← declarations_resolvedFields hkinds hids htype]
    exact (List.Perm.of_eq hfields).trans (Store.ordered_perm _ _) |>.map _

theorem types_assembled
    (hnames : ∀ type ∈ bundle.entityTypes, (type.members.map (·.name)).Nodup) :
    (((bundle.definitions ids versionId).kept.arranged.assemble blueprint version
        maxDepth).entityTypes.map (·.sense)).Perm
      (bundle.entityTypes.map (bundle.typeSense maxDepth)) := by
  have hembodies := @embodies_arranged bundle ids versionId maxDepth hkinds hparents hids hset
  have houtlines := congrArg (List.map Outline.sense)
    (@Content.outlines_assemble _ blueprint version maxDepth hset.nodup_types)
  rw [Artifact.senses_outlines, DefinitionSet.types_arranged, List.map_map] at houtlines
  rw [houtlines]
  refine ((Store.ordered_perm _ _).map _).trans (.of_eq ?_)
  have htypes : (bundle.definitions ids versionId).kept.entityTypes =
      bundle.entityTypes.map (bundle.embodied ids versionId) := resolvedTypes_eq hkinds hparents
  rw [htypes, List.map_map]
  refine List.map_congr_left fun type htype => ?_
  have hfields := hembodies.effective hnames htype
  simp only [Function.comp_apply, Hierarchy.outline, Outline.sense, typeSense]
  rw [hfields]
  rfl

end Kept

theorem relationships_assembled (hids : Function.Injective ids) :
    (((bundle.definitions ids versionId).kept.arranged.assemble blueprint version
        maxDepth).relationshipTypes.map (·.sense)).Perm
      (bundle.relationships.map (·.sense)) := by
  rw [DefinitionSet.relationshipTypes_arranged, List.map_map]
  refine ((Store.ordered_perm _ _).map _).trans (.of_eq ?_)
  change (bundle.resolvedRelationships ids versionId).map _ = _
  rw [resolvedRelationships, List.map_map]
  refine map_withOffsets_congr fun placed hplaced => ?_
  have hattributes := attributes_resolvedAttributes hids hplaced
  have hown : ((bundle.definitions ids versionId).kept.attributesIn (ids placed.1)).Perm
      ((bundle.resolvedAttributes ids).filter (·.relationshipTypeId == ids placed.1)) :=
    Store.ordered_perm _ _
  have hsense : ((((bundle.definitions ids versionId).kept.attributesIn (ids placed.1)).map
      fun attr => (attr.name, attr.dataType, attr.isRequired) : List _) :
        Multiset (String × DataType × Bool)) =
      placed.2.attributes.map fun attr => (attr.name, attr.dataType, attr.isRequired) :=
    Multiset.coe_eq_coe.mpr ((hown.map _).trans (.of_eq hattributes))
  simp only [Function.comp_apply, EffectiveRelationship.sense, BundledRelationship.sense]
  rw [← hsense]
  rfl

/-- Children that all belong to one owner are all that it has. -/
theorem ordered_owned_perm {ρ : Type} {owner : ρ → String} {wanted : String} {children : List ρ}
    (order : ρ → ρ → Ordering) (howned : ∀ child ∈ children, owner child = wanted) :
    (Store.ordered order (children.filter (owner · == wanted))).Perm children := by
  have hall : children.filter (owner · == wanted) = children :=
    List.filter_eq_self.mpr fun child hchild => beq_iff_eq.mpr (howned child hchild)
  rw [hall]
  exact Store.ordered_perm _ _

section Profile

variable {profile : BundledProfile} (hprofile : bundle.profile = some profile)
include hprofile

theorem mappingsIn_kept :
    (((bundle.definitions ids versionId).kept.mappingsIn (ids bundle.profileStart)).map
        fun mapping => (mapping.label, mapping.kind, mapping.priority)).Perm
      (profile.mappings.map fun mapping => (mapping.label, mapping.kind, mapping.priority)) := by
  have hmappings : (bundle.definitions ids versionId).kept.labelMappings =
      profile.mappings.zipIdx.map fun placed =>
        ⟨ids (bundle.profileStart + 1 + placed.2), ids bundle.profileStart, placed.1.label,
          placed.1.kind, placed.1.priority⟩ := by
    change bundle.resolvedMappings ids = _
    rw [resolvedMappings, hprofile, Option.toList_some, List.flatMap_singleton]
  rw [DefinitionSet.mappingsIn, hmappings]
  refine ((ordered_owned_perm _ ?_).map _).trans (.of_eq ?_)
  · exact List.forall_mem_map.mpr fun _ _ => rfl
  · rw [List.map_map]
    exact map_zipIdx_congr fun _ _ => rfl

theorem entriesIn_kept :
    (((bundle.definitions ids versionId).kept.entriesIn (ids bundle.profileStart)).map
        fun entry => (entry.term, entry.caseSensitive)).Perm
      (profile.ignored.map fun term => (term.term, term.caseSensitive)) := by
  have hentries : (bundle.definitions ids versionId).kept.ignoreEntries =
      profile.ignored.zipIdx.map fun placed =>
        ⟨ids (bundle.profileStart + 1 + profile.mappings.length + placed.2),
          ids bundle.profileStart, placed.1.term, placed.1.caseSensitive⟩ := by
    change bundle.resolvedTerms ids = _
    rw [resolvedTerms, hprofile, Option.toList_some, List.flatMap_singleton]
  rw [DefinitionSet.entriesIn, hentries]
  refine ((ordered_owned_perm _ ?_).map _).trans (.of_eq ?_)
  · exact List.forall_mem_map.mpr fun _ _ => rfl
  · rw [List.map_map]
    exact map_zipIdx_congr fun _ _ => rfl

end Profile

theorem profile_assembled :
    ((bundle.definitions ids versionId).kept.arranged.assemble blueprint version
        maxDepth).profile.map (·.sense) = bundle.profile.map (·.sense) := by
  change ((bundle.definitions ids versionId).kept.arranged.profile).map _ = _
  rw [DefinitionSet.arranged, DefinitionSet.kept, definitions, Option.map_map, Option.map_map,
    Option.map_map]
  refine Option.map_congr fun profile hprofile => ?_
  have hmappings := Multiset.coe_eq_coe.mpr (@mappingsIn_kept bundle ids versionId profile hprofile)
  have hentries := Multiset.coe_eq_coe.mpr (@entriesIn_kept bundle ids versionId profile hprofile)
  rw [BundledProfile.sense, ← hmappings, ← hentries]
  rfl

/-- What is kept of a bundle compiles to what the bundle means. -/
theorem isMeaningOf_assemble (hcheck : bundle.check = .ok ()) (hids : Function.Injective ids)
    (hnames : ∀ type ∈ bundle.entityTypes, (type.members.map (·.name)).Nodup)
    (hset : (bundle.definitions ids versionId).kept.IsOf versionId) :
    bundle.IsMeaningOf maxDepth
      ((bundle.definitions ids versionId).kept.arranged.assemble blueprint version maxDepth) := by
  obtain ⟨hkinds, hparents⟩ := check_eq_ok.mp hcheck
  refine ⟨?types, ?relationships, ?views, ?maps, profile_assembled, ?endpoints⟩
  case types =>
    exact Multiset.coe_eq_coe.mpr (types_assembled hkinds hparents hids hset hnames)
  case relationships => exact Multiset.coe_eq_coe.mpr (relationships_assembled hids)
  case views =>
    refine Multiset.coe_eq_coe.mpr (((Store.ordered_perm _ _).map _).trans (.of_eq ?_))
    change (bundle.resolvedViews ids versionId).map _ = _
    rw [resolvedViews, List.map_map]
    exact map_zipIdx_congr fun _ _ => rfl
  case maps =>
    refine Multiset.coe_eq_coe.mpr (((Store.ordered_perm _ _).map _).trans (.of_eq ?_))
    change (bundle.resolvedMaps ids versionId).map _ = _
    rw [resolvedMaps, List.map_map]
    exact map_zipIdx_congr fun _ _ => rfl
  case endpoints =>
    have hknown : ∀ kind, kind ∈ (bundle.definitions ids versionId).kept.arranged.types.map
        (·.kind) ↔ kind ∈ bundle.kinds := by
      intro kind
      have hperm := (Store.ordered_perm (Store.byKey (·.kind.text) (·.id))
        (bundle.definitions ids versionId).kept.entityTypes).map (·.kind)
      rw [DefinitionSet.types_arranged, DefinitionSet.orderedTypes, hperm.mem_iff]
      change kind ∈ (bundle.resolvedTypes ids versionId).map (·.kind) ↔ _
      rw [resolvedTypes_eq hkinds hparents, List.map_map]
      rfl
    rw [Content.unknownEndpoints_assemble, DefinitionSet.relationshipTypes_arranged]
    simp only [hknown]
    rw [DefinitionSet.arranged, List.flatMap_map, List.flatMap_map]

end Bundle

/-! ### What an import compiles to -/

namespace Store

variable {store : Store} {versionId : String}

theorem IsBare.profiles_any (hbare : store.IsBare versionId) :
    store.profiles.any (·.versionId == versionId) = false := by
  have hnone : (store.rowsOf versionId).profiles = [] := by rw [hbare]; rfl
  refine List.any_eq_false.mpr fun row hrow howner => ?_
  exact List.filter_eq_nil_iff.mp hnone row hrow howner

variable {bundle : Bundle} {ids : Ids}

/-- The definitions of a bundle are written into an empty version and kept for it. -/
theorem IsConsistent.exists_imported (hstore : store.IsConsistent) {version : Version}
    (hversion : store.version? versionId = .ok (some version)) (hbare : store.IsBare versionId)
    (hids : Function.Injective ids) (hfresh : ∀ place, ids place ∉ store.definitionIds)
    {text : String} (hparse : Bundle.codec.parse text = .ok bundle)
    (hjson : ∀ json ∈ bundle.jsons, Codec.free.parse json.text = .ok json) :
    ∃ after, store.writeAll ((bundle.definitions ids versionId).definitions.map .definition) =
        .ok after ∧ after = store.extended (bundle.definitions ids versionId).rows ∧
      after.Holds versionId (bundle.definitions ids versionId).kept := by
  have hnodup := bundle.nodup_definitions hids versionId
  have howned := bundle.isOwned_definitions ids versionId
  have hnew := @new_definitions versionId bundle ids _ hfresh
  have hwrite := (@writeAll_set_of_new store _ _ hnodup hnew).mpr
    ⟨admits_definitions howned (hasVersion_of_version? hversion)
      (Bundle.isNumber_definitions hparse ids versionId) fun _ => hbare.profiles_any, rfl⟩
  obtain ⟨hkept, hrows, hconsistent⟩ := hstore.rowsOf_written howned hnodup hnew hwrite
  rw [hbare.append] at hrows
  refine ⟨_, hwrite, hkept, hconsistent, ?_,
    Bundle.isReadable_kept (Bundle.isNormal_of_parse hparse) hjson⟩
  rw [hrows, DefinitionSet.rows_kept]

end Store

namespace World

variable {world : World} {agent : Agent} {versionId : String} {bundle : Bundle}

/-- An import that is written leaves the store that it wrote. -/
theorem perform_importBundle (hserving : world.IsServing) {version : Version}
    (hversion : world.store.version? versionId = .ok (some version))
    (hdraft : version.status = .draft) (hcheck : bundle.check = .ok ()) {after : Store}
    (hwrite : world.store.writeAll ((bundle.definitions
      (fun position => world.ids (world.idsTaken + position)) versionId).definitions.map
        .definition) = .ok after) :
    world.perform agent (Operation.importBundle versionId bundle) =
      (.ok (.of (bundle.definitions (fun position => world.ids (world.idsTaken + position))
          versionId)),
        { world with store := after, idsTaken := world.idsTaken + bundle.idCount }, agent) := by
  have himport : world.store.toImport (fun position => world.ids (world.idsTaken + position))
      versionId bundle = .ok (bundle.definitions
        (fun position => world.ids (world.idsTaken + position)) versionId) := by
    rw [Store.toImport_of_draft hversion hdraft]
    exact Bundle.resolve_eq_ok.mpr ⟨hcheck, rfl⟩
  have hsaved : world.store.run (.saveAll (bundle.definitions
      (fun position => world.ids (world.idsTaken + position)) versionId)) = (.ok (), after) := by
    rw [Store.run, Store.commit, Store.Call.writes, hwrite]
  rw [perform_importBundle_of_ok hserving himport, hsaved]
  rfl

/-- A bundle is written into a version, which then compiles to what the bundle means. -/
def ImportsMeaning (world : World) (agent : Agent) (versionId : String) (bundle : Bundle) : Prop :=
  ∃ summary later after,
    world.perform agent (Operation.importBundle versionId bundle) = (.ok summary, later, after) ∧
      ∀ maxDepth limit, ∃ artifact,
        (later.perform after (Operation.compile maxDepth limit versionId)).1 = .ok artifact ∧
          bundle.IsMeaningOf maxDepth artifact

theorem importsMeaning (hserving : world.IsServing) (hreachable : world.store.IsReachable)
    (hinjective : Function.Injective world.ids)
    (hfresh : ∀ place, world.idsTaken ≤ place → world.ids place ∉ world.store.definitionIds)
    {text : String} (hparse : Bundle.codec.parse text = .ok bundle)
    (hcheck : bundle.check = .ok ())
    (hnames : ∀ type ∈ bundle.entityTypes, (type.members.map (·.name)).Nodup)
    (hjson : ∀ json ∈ bundle.jsons, Codec.free.parse json.text = .ok json)
    {version : Version} {blueprint : Blueprint}
    (hversion : world.store.version? versionId = .ok (some version))
    (hblueprint : world.store.blueprint? version.blueprintId = .ok (some blueprint))
    (hdraft : version.status = .draft) (hbare : world.store.IsBare versionId) :
    world.ImportsMeaning agent versionId bundle := by
  have hids : Function.Injective fun position => world.ids (world.idsTaken + position) :=
    fun _ _ hsame => Nat.add_left_cancel (hinjective hsame)
  obtain ⟨store, hwrite, hkept, hholds⟩ := hreachable.isConsistent.exists_imported hversion hbare
    hids (fun place => hfresh _ (Nat.le_add_right _ _)) hparse hjson
  have hlater : ({ world with store, idsTaken := world.idsTaken + bundle.idCount } : World).IsServing :=
    ⟨hserving.undisturbed, hserving.isOpen, hserving.isWritable⟩
  refine ⟨_, _, _, perform_importBundle hserving hversion hdraft hcheck hwrite,
    fun maxDepth limit => ?_⟩
  have hcompile := @yields_compile _ agent hlater maxDepth limit versionId
  rw [Yields, hholds.compiled (by rw [hkept]; exact hversion) (by rw [hkept]; exact hblueprint)]
    at hcompile
  exact ⟨_, congrArg Prod.fst hcompile,
    Bundle.isMeaningOf_assemble hcheck hids hnames hholds.isOf⟩

/-! ### Into an empty draft -/

theorem blueprint?_blank : blank.store.blueprint? "b" = .ok (some (.new "b" "Novel" .epoch)) := by
  have hrow : blank.store.blueprints.find? (·.id == "b") =
      some (Blueprint.new "b" "Novel" .epoch).toRow := rfl
  rw [Store.blueprint?, hrow, Option.mapM_some, Blueprint.toBlueprint_toRow rfl (by decide) (by decide)]
  rfl

theorem isBare_blank : blank.store.IsBare "v" := rfl

/-- A type that is its own parent, with one field, and a view. -/
def loopedText : String :=
  "\x7b\"entity_types\":[\x7b\"entity_kind\":\"EVENT\",\"parent\":\"EVENT\",\"fields\":" ++
    "[\x7b\"name\":\"name\",\"data_type\":\"text\"\x7d]\x7d]," ++
    "\"view_templates\":[\x7b\"name\":\"Chart\",\"config\":\x7b\"x\":5\x7d\x7d]\x7d"

def isPlain : Json → Bool
  | .obj [("x", .int 5)] => true
  | _ => false

theorem eq_plain_of_isPlain {json : Json} (hplain : isPlain json = true) : json = plain := by
  unfold isPlain at hplain
  split at hplain
  · rfl
  · cases hplain

theorem importsMeaning_looped :
    ∃ bundle, Bundle.codec.parse loopedText = .ok bundle ∧ blank.ImportsMeaning {} "v" bundle := by
  have hshown : (Bundle.codec.parse loopedText).toOption.map (fun bundle =>
      (bundle.check.isOk, bundle.entityTypes.map (·.members.map (·.name)),
        bundle.jsons.map isPlain)) = some (true, [["name"]], [true]) := by decide +kernel
  obtain ⟨bundle, hparse, hfacts⟩ := Option.map_eq_some_iff.mp hshown
  rw [Outcome.toOption_eq_some] at hparse
  simp only [Prod.mk.injEq] at hfacts
  obtain ⟨hok, hmembers, hplain⟩ := hfacts
  have hnames : ∀ type ∈ bundle.entityTypes, (type.members.map (·.name)).Nodup := by
    intro type htype
    have hmem := List.mem_map_of_mem (f := fun type : BundledType => type.members.map (·.name)) htype
    rw [hmembers, List.mem_singleton] at hmem
    rw [hmem]
    exact List.nodup_singleton _
  have hjson : ∀ json ∈ bundle.jsons, Codec.free.parse json.text = .ok json := by
    intro json hmem
    have hmem := List.mem_map_of_mem (f := isPlain) hmem
    rw [hplain, List.mem_singleton] at hmem
    rw [eq_plain_of_isPlain hmem]
    rfl
  exact ⟨bundle, hparse, importsMeaning (isServing_drafted _ _) isReachable_blank
    Ids.tally_injective (fun place _ => not_mem_definitionIds_blank _) hparse (check_of_isOk hok)
    hnames hjson version?_blank blueprint?_blank rfl isBare_blank⟩

/-- A view with a number that is read as the next smaller one once it was written. -/
def skewedText : String :=
  "\x7b\"view_templates\":[\x7b\"name\":\"Chart\",\"config\":\x7b\"x\":5.600e60\x7d\x7d]\x7d"

/-- A draft may compile to a view with another number than the bundle has. -/
theorem not_importsMeaning_skewed :
    blank.IsServing ∧ blank.store.IsReachable ∧ Function.Injective blank.ids ∧
      (∀ place, blank.ids place ∉ blank.store.definitionIds) ∧
      (∃ version blueprint, blank.store.version? "v" = .ok (some version) ∧
        blank.store.blueprint? version.blueprintId = .ok (some blueprint) ∧
          version.status = .draft) ∧
      blank.store.IsBare "v" ∧
      ∃ bundle, Bundle.codec.parse skewedText = .ok bundle ∧ bundle.check = .ok () ∧
        (∀ type ∈ bundle.entityTypes, (type.members.map (·.name)).Nodup) ∧
          ¬blank.ImportsMeaning {} "v" bundle := by
  have hshown : (Bundle.codec.parse skewedText).toOption.map (fun bundle =>
      (bundle.check.isOk, bundle.entityTypes.length, bundle.views.map (·.config.text),
        (((blank.perform {} (Operation.importBundle "v" bundle)).2.1.store.content
          "v").toOption.map (·.viewTemplates.map (·.config.text))))) =
      some (true, 0, ["\x7b\"x\":5.6e+60\x7d"],
        some ["\x7b\"x\":5.5999999999999996e+60\x7d"]) := by
    decide +kernel
  obtain ⟨bundle, hparse, hfacts⟩ := Option.map_eq_some_iff.mp hshown
  rw [Outcome.toOption_eq_some] at hparse
  simp only [Prod.mk.injEq] at hfacts
  obtain ⟨hok, hnone, hviews, hread⟩ := hfacts
  have hserving : blank.IsServing := isServing_drafted _ _
  refine ⟨hserving, isReachable_blank, Ids.tally_injective,
    fun place => not_mem_definitionIds_blank _,
    ⟨_, _, version?_blank, blueprint?_blank, rfl⟩, isBare_blank, bundle, hparse, check_of_isOk hok,
    fun type htype => ?_, ?_⟩
  · rw [List.length_eq_zero_iff.mp hnone] at htype
    cases htype
  rintro ⟨summary, later, after, himport, hmeaning⟩
  obtain ⟨artifact, hartifact, hmeaning⟩ := hmeaning 10 none
  have hlater : later.IsServing := by
    have hkept := hserving.perform {} (Operation.importBundle "v" bundle)
    rwa [himport] at hkept
  rw [yields_compile hlater] at hartifact
  obtain ⟨version, blueprint, content, -, -, hcontent, rfl⟩ := Store.compiled_eq_ok hartifact
  rw [himport] at hread
  obtain ⟨found, hfound, hkept⟩ := Option.map_eq_some_iff.mp hread
  cases (Outcome.toOption_eq_some.mp hfound).symm.trans hcontent
  have hsame := (Multiset.coe_eq_coe.mp hmeaning.viewTemplates).map (·.2.2.text)
  rw [List.map_map, List.map_map] at hsame
  have hnumbers : ["\x7b\"x\":5.5999999999999996e+60\x7d"].Perm ["\x7b\"x\":5.6e+60\x7d"] :=
    hkept ▸ hviews ▸ hsame
  exact absurd (List.singleton_perm_singleton.mp hnumbers) (by decide)

end World

end KnowledgeSchema
