import KnowledgeSchema.Proofs.Forking.DeepCopy
import KnowledgeSchema.Proofs.Forking.Meaning

/-!
# Forks compile to the same

A fork compiles to what its source compiles to, under the new ids. This takes what a copy takes, that
JSON is read as it is written, and that no two fields of a type and a name share the last position:
ids, which a fork does not keep, would decide between them.
-/

namespace KnowledgeSchema

namespace Store

variable {before after : Store} {source fork : Version} {ρ : Renaming} {set : DefinitionSet}

theorem Holds.fieldsAreDecided {store : Store} {versionId : String}
    (hholds : store.Holds versionId set)
    (hdecided : FieldsAreDecided FieldRow.entityTypeId FieldRow.name FieldRow.order
      (store.rowsOf versionId).fields) :
    FieldsAreDecided Field.entityTypeId Field.name Field.order set.fields := by
  have hperm := hholds.rows.fields
  have hmem : ∀ field ∈ set.fields, field.toRow ∈ (store.rowsOf versionId).fields := fun field hfield =>
    hperm.mem_iff.mpr (List.mem_map_of_mem hfield)
  have hread : ∀ field ∈ set.fields, field.toRow.toDefinition = .ok field := fun field hfield =>
    hholds.readable (.field field) (by simp [DefinitionSet.definitions, hfield])
  intro first hfirst second hsecond howner hname horder
  rcases hdecided _ (hmem first hfirst) _ (hmem second hsecond) howner hname horder with
    hsame | ⟨row, hrow, hrest⟩
  · have hfound := hread first hfirst
    rw [hsame, hread second hsecond] at hfound
    exact Or.inl (Except.ok.inj hfound).symm
  · obtain ⟨third, hthird, rfl⟩ := List.mem_map.mp (hperm.mem_iff.mp hrow)
    exact Or.inr ⟨third, hthird, hrest⟩

namespace IsFork

variable (hfork : before.IsFork after source fork ρ)
include hfork

theorem separates {place : String → Prop} (hholds : before.Holds source.id set)
    (hnew : ∀ table, ∀ id ∈ (before.rowsOf source.id).idsIn table, place (ρ table id))
    (hparents : ∀ row ∈ (before.rowsOf source.id).entityTypes, ∀ parentId ∈ row.parentId,
      ¬place parentId) :
    ρ.Separates set := by
  have hmem : ∀ type ∈ set.entityTypes, type.id ∈ (before.rowsOf source.id).idsIn .entityTypes := by
    intro type htype
    rw [(hholds.rows.idsIn .entityTypes).mem_iff]
    exact List.mem_map_of_mem (List.mem_map_of_mem (List.mem_map_of_mem htype))
  refine ⟨fun type htype other hother hsame => ?types, fun type htype child hchild parentId hparentId
    hsame => ?parents, fun type htype other hother hsame => ?relationships⟩
  case types => exact hfork.injective .entityTypes (hmem other hother) (hmem type htype) hsame
  case parents =>
    by_cases hknown : parentId ∈ (before.rowsOf source.id).idsIn .entityTypes
    · exact hfork.injective .entityTypes hknown (hmem type htype) hsame
    · have hplace := hnew .entityTypes type.id (hmem type htype)
      rw [← hsame, hfork.parents parentId hknown] at hplace
      have hrow : child.toRow ∈ (before.rowsOf source.id).entityTypes :=
        hholds.rows.entityTypes.mem_iff.mpr (List.mem_map_of_mem hchild)
      exact absurd hplace (hparents _ hrow parentId hparentId)
  case relationships =>
    have hrelationship : ∀ type ∈ set.relationshipTypes,
        type.id ∈ (before.rowsOf source.id).idsIn .relationshipTypes := by
      intro type htype
      rw [(hholds.rows.idsIn .relationshipTypes).mem_iff]
      exact List.mem_map_of_mem (List.mem_map_of_mem (List.mem_map_of_mem htype))
    exact hfork.injective .relationshipTypes (hrelationship other hother) (hrelationship type htype)
      hsame

theorem version? (hreadable : fork.IsReadable) : after.version? fork.id = .ok (some fork) := by
  have hnone : before.versions.find? (·.id == fork.id) = none := by
    refine List.find?_eq_none.mpr fun row hrow hid => hfork.isNew ?_
    exact List.mem_map.mpr ⟨row, hrow, beq_iff_eq.mp hid⟩
  have hrow : after.versions.find? (·.id == fork.id) = some fork.toRow := by
    rw [hfork.kept]
    change (before.versions ++ [fork.toRow]).find? _ = _
    rw [List.find?_append, hnone, Option.none_or]
    exact List.find?_cons_of_pos (beq_self_eq_true fork.id)
  rw [Store.version?, hrow, Option.mapM_some, Version.toVersion_toRow hreadable]
  rfl

theorem blueprint? (blueprintId : String) :
    after.blueprint? blueprintId = before.blueprint? blueprintId := by
  rw [hfork.kept]
  rfl

end IsFork

end Store

namespace World

variable {world : World} {agent : Agent} {sourceId : String} {fork : Version}

/-- A fork compiles to the artifact of its source under new ids, however many ancestors a type may
inherit from. -/
def ForkCompilesAlike (world : World) (agent : Agent) (sourceId : String) (fork : Version) : Prop :=
  let (_, later, after) := world.perform agent (Operation.forkDraft sourceId)
  ∃ (source : Version) (ρ : Renaming), world.store.version? sourceId = .ok (some source) ∧
    world.store.IsFork later.store source fork ρ ∧
    ∀ maxDepth limit, ∃ artifact copy,
      (world.perform agent (Operation.compile maxDepth limit sourceId)).1 = .ok artifact ∧
      (later.perform after (Operation.compile maxDepth limit fork.id)).1 = .ok copy ∧
      artifact.diagnostics = artifact.reported maxDepth ∧
      copy.diagnostics = copy.reported maxDepth ∧ artifact.Mirrors ρ fork.id copy

theorem forkCompilesAlike (hserving : world.IsServing) (hreachable : world.store.IsReachable)
    (hinjective : Function.Injective world.ids)
    (hfresh : ∀ place, world.idsTaken ≤ place → world.ids place ∉ world.store.definitionIds)
    (hparents : ∀ place, world.idsTaken ≤ place → ∀ row ∈ (world.store.rowsOf sourceId).entityTypes,
      row.parentId ≠ some (world.ids place))
    (hsteady : (world.store.rowsOf sourceId).IsSteady)
    (hdecided : FieldsAreDecided FieldRow.entityTypeId FieldRow.name FieldRow.order
      (world.store.rowsOf sourceId).fields)
    (hfork : (world.perform agent (Operation.forkDraft sourceId)).1 = .ok fork)
    (hreadable : fork.IsReadable) : world.ForkCompilesAlike agent sourceId fork := by
  obtain ⟨later, after, hperform⟩ : ∃ later after,
      world.perform agent (Operation.forkDraft sourceId) = (.ok fork, later, after) :=
    ⟨_, _, Prod.ext hfork rfl⟩
  obtain ⟨source, blueprint, content, ρ, hsource, hblueprint, -, -, hholds, hisFork, hcopied, hlater,
    hplaces⟩ := forked hserving hreachable hinjective hfresh hsteady hperform
  have hid : source.id = sourceId := Store.id_of_version? hsource
  have hseparates : ρ.Separates content.definitions := by
    refine @Store.IsFork.separates _ _ _ _ _ _ hisFork
      (fun id => ∃ place, world.idsTaken ≤ place ∧ id = world.ids place) (hid ▸ hholds)
      (hid ▸ hplaces) ?_
    rintro row hrow parentId hparentId ⟨place, hplace, rfl⟩
    exact hparents place hplace row (hid ▸ hrow) hparentId
  have hcopiedBlueprint : later.store.blueprint? fork.blueprintId = .ok (some blueprint) := by
    rw [hisFork.blueprint, hisFork.blueprint?, hblueprint]
  rw [ForkCompilesAlike, hperform]
  refine ⟨source, ρ, hsource, hisFork, fun maxDepth limit => ?_⟩
  have hcompile := @yields_compile world agent hserving maxDepth limit sourceId
  have hcompileFork := @yields_compile later after hlater maxDepth limit fork.id
  rw [Yields, hholds.compiled hsource hblueprint] at hcompile
  rw [Yields, hcopied.compiled (hisFork.version? hreadable) hcopiedBlueprint] at hcompileFork
  exact ⟨_, _, congrArg Prod.fst hcompile, congrArg Prod.fst hcompileFork,
    hholds.isOf.diagnostics_arranged, hcopied.isOf.diagnostics_arranged,
    DefinitionSet.mirrors_assemble hholds.isOf hcopied.isOf hseparates
      (hholds.fieldsAreDecided hdecided)⟩

/-! ### Forks that are made -/

/-- What a fork is like that was made in a year which can be read. -/
theorem exists_fork (hserving : world.IsServing) {id : String} {year : Int}
    (hyear : 0 ≤ year ∧ year ≤ 9999)
    (hshown : (world.perform agent (Operation.forkDraft sourceId)).1.toOption.map (fun fork =>
      (fork.id, fork.createdAt.date.year, fork.publishedAt.isSome)) = some (id, year, false)) :
    ∃ (fork : Version) (later : World) (after : Agent),
      world.perform agent (Operation.forkDraft sourceId) = (.ok fork, later, after) ∧
      fork.id = id ∧ fork.IsReadable ∧ later.IsServing := by
  obtain ⟨fork, hfork, hfacts⟩ := Option.map_eq_some_iff.mp hshown
  rw [Outcome.toOption_eq_some] at hfork
  simp only [Prod.mk.injEq] at hfacts
  obtain ⟨hid, rfl, hpublished⟩ := hfacts
  refine ⟨fork, _, _, Prod.ext hfork rfl, hid, ⟨hyear, fun time htime => ?_⟩, hserving.perform _ _⟩
  rw [Option.mem_def.mp htime] at hpublished
  cases hpublished

theorem parentId_charted (config : Json) (place : Nat) :
    ∀ row ∈ ((charted config).store.rowsOf "v").entityTypes, row.parentId ≠ some (Ids.tally place) := by
  have hparentIds : ((charted config).store.rowsOf "v").entityTypes.map (·.parentId) =
      [some "t"] := rfl
  intro row hrow hparent
  have hmem := List.mem_map_of_mem (f := EntityTypeRow.parentId) hrow
  rw [hparentIds, List.mem_singleton, hparent] at hmem
  have hid : Ids.tally place = "t" := Option.some.inj hmem
  apply tally_not_mem (definitionIds_charted config) place
  rw [definitionIds_charted, hid]
  exact List.mem_cons_self

theorem fieldsAreDecided_charted (config : Json) :
    FieldsAreDecided FieldRow.entityTypeId FieldRow.name FieldRow.order
      ((charted config).store.rowsOf "v").fields := by
  have hids : ((charted config).store.rowsOf "v").fields.map (·.id) = ["f"] := rfl
  have hsole : ((charted config).store.rowsOf "v").fields.length = 1 := by
    have hlength := congrArg List.length hids
    rwa [List.length_map] at hlength
  obtain ⟨field, hfield⟩ := List.length_eq_one_iff.mp hsole
  intro first hfirst second hsecond _ _ _
  rw [hfield, List.mem_singleton] at hfirst hsecond
  exact Or.inl (hfirst.trans hsecond.symm)

theorem forkCompilesAlike_plain : ∃ fork : Version,
    ((charted plain).perform {} (Operation.forkDraft "v")).1 = .ok fork ∧ fork.IsReadable ∧
      (charted plain).ForkCompilesAlike {} "v" fork := by
  have hserving : (charted plain).IsServing := isServing_drafted _ _
  obtain ⟨fork, later, after, hperform, -, hreadable, -⟩ :=
    @exists_fork _ {} "v" hserving "x" 1970 (by decide) (by decide +kernel)
  have hfork : ((charted plain).perform {} (Operation.forkDraft "v")).1 = .ok fork :=
    congrArg Prod.fst hperform
  exact ⟨fork, hfork, hreadable, forkCompilesAlike hserving
    (isReachable_charted isRegular_plain) Ids.tally_injective
    (fun place _ => tally_not_mem (definitionIds_charted _) place)
    (fun place _ => parentId_charted plain place) isSteady_plain (fieldsAreDecided_charted plain)
    hfork hreadable⟩

theorem not_forkCompilesAlike {later : World} {after : Agent} {maxDepth : UInt64} {limit : Option Nat}
    {artifact copy : Artifact}
    (hperform : world.perform agent (Operation.forkDraft sourceId) = (.ok fork, later, after))
    (hcompile : (world.perform agent (Operation.compile maxDepth limit sourceId)).1 = .ok artifact)
    (hcopy : (later.perform after (Operation.compile maxDepth limit fork.id)).1 = .ok copy)
    (hdiffers : ∀ ρ : Renaming, ¬artifact.Mirrors ρ fork.id copy) :
    ¬world.ForkCompilesAlike agent sourceId fork := by
  rw [ForkCompilesAlike, hperform]
  rintro ⟨source, ρ, -, -, halike⟩
  obtain ⟨found, copied, hfound, hcopied, -, -, hmirrors⟩ := halike maxDepth limit
  cases hcompile.symm.trans hfound
  cases hcopy.symm.trans hcopied
  exact hdiffers ρ hmirrors

/-- The view of a fork may compile to another number than the view that it is a copy of. -/
theorem not_forkCompilesAlike_skewed :
    (charted skewed).IsServing ∧ (charted skewed).store.IsReachable ∧
      Function.Injective (charted skewed).ids ∧
      (∀ place, (charted skewed).ids place ∉ (charted skewed).store.definitionIds) ∧
      (∀ place, ∀ row ∈ ((charted skewed).store.rowsOf "v").entityTypes,
        row.parentId ≠ some ((charted skewed).ids place)) ∧
      FieldsAreDecided FieldRow.entityTypeId FieldRow.name FieldRow.order
        ((charted skewed).store.rowsOf "v").fields ∧
      ∃ (fork : Version) (later : World) (after : Agent) (artifact copy : Artifact),
        (charted skewed).perform {} (Operation.forkDraft "v") = (.ok fork, later, after) ∧
        fork.IsReadable ∧
        ((charted skewed).perform {} (Operation.compile 10 none "v")).1 = .ok artifact ∧
        (later.perform after (Operation.compile 10 none fork.id)).1 = .ok copy ∧
        (∀ ρ : Renaming, ¬artifact.Mirrors ρ fork.id copy) ∧
        ¬(charted skewed).ForkCompilesAlike {} "v" fork := by
  have hread : ((charted skewed).store.compiled 10 "v").toOption.map (fun artifact =>
      artifact.viewTemplates.map (·.config.text)) =
        some ["\x7b\"x\":5.5999999999999996e+60\x7d"] := by
    decide +kernel
  have hcopied : (((charted skewed).perform {} (Operation.forkDraft "v")).2.1.store.compiled 10
      "x").toOption.map (fun copy => copy.viewTemplates.map (·.config.text)) =
        some ["\x7b\"x\":5.6e+60\x7d"] := by
    decide +kernel
  have hserving : (charted skewed).IsServing := isServing_drafted _ _
  obtain ⟨fork, later, after, hperform, hid, hreadable, hlater⟩ :=
    @exists_fork _ {} "v" hserving "x" 1970 (by decide) (by decide +kernel)
  rw [hperform, ← hid] at hcopied
  obtain ⟨artifact, hartifact, hviews⟩ := Option.map_eq_some_iff.mp hread
  obtain ⟨copy, hcopy, hcopies⟩ := Option.map_eq_some_iff.mp hcopied
  rw [Outcome.toOption_eq_some] at hartifact hcopy
  have hcompile : ((charted skewed).perform {} (Operation.compile 10 none "v")).1 =
      .ok artifact := by
    rw [yields_compile hserving]
    exact hartifact
  have hcompileFork : (later.perform after (Operation.compile 10 none fork.id)).1 = .ok copy := by
    rw [yields_compile hlater]
    exact hcopy
  have hdiffers : ∀ ρ : Renaming, ¬artifact.Mirrors ρ fork.id copy := by
    intro ρ hmirrors
    have hsame := hmirrors.viewTemplates.perm_map (g := fun view => view.config.text) fun _ => rfl
    rw [hviews, hcopies] at hsame
    exact absurd (List.singleton_perm_singleton.mp hsame) (by decide)
  exact ⟨hserving, isReachable_charted isRegular_skewed, Ids.tally_injective,
    tally_not_mem (definitionIds_charted skewed), parentId_charted skewed,
    fieldsAreDecided_charted skewed, fork, later, after, artifact, copy, hperform,
    hreadable, hcompile, hcompileFork, hdiffers,
    not_forkCompilesAlike hperform hcompile hcompileFork hdiffers⟩

end World

end KnowledgeSchema
