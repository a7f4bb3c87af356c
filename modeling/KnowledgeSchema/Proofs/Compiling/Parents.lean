import KnowledgeSchema.Proofs.Artifact.Navigation
import KnowledgeSchema.Proofs.Compiling.Answers

/-!
# Parents by position and by lineage

An artifact tells the parent of a type twice, by a position among its types and as the first id of
the lineage. The position is found by the id alone, but nothing is inherited from a type of another
version. So the two agree on every type but those that stand below a type of another version.
-/

namespace KnowledgeSchema

namespace Hierarchy

variable {hierarchy : Hierarchy} {target : EntityType}

/-- The lineage of a type starts at its parent, another type of its version. -/
theorem head?_lineageOf_eq_some (hnodup : (hierarchy.types.map (·.id)).Nodup)
    (htarget : target ∈ hierarchy.types) (hdepth : 1 ≤ hierarchy.maxDepth) {id : String} :
    (hierarchy.lineageOf target.id).head? = some id ↔
      ∃ parent ∈ hierarchy.types, target.HasParent parent ∧ parent.id ≠ target.id ∧
        parent.id = id := by
  have hknown : hierarchy.type? target.id = some target := knows_of_nodup hnodup htarget
  obtain ⟨bound, hbound⟩ : ∃ bound, hierarchy.maxDepth.toNat = bound + 1 :=
    Nat.exists_eq_succ_of_ne_zero (Nat.pos_iff_ne_zero.mp (UInt64.le_iff_toNat_le.mp hdepth))
  have hhead : (hierarchy.lineageOf target.id).head? =
      ((hierarchy.parent? target).filter (·.id != target.id)).map (·.id) := by
    rw [lineageOf, hknown]
    dsimp only
    rw [ancestors, hbound, ancestorsFrom]
    cases hierarchy.parent? target with
    | none => rfl
    | some parent =>
      have hsame : [target].any (·.id == parent.id) = !(parent.id != target.id) := by
        rw [List.any_cons, List.any_nil, Bool.or_false, bne, Bool.not_not, Bool.beq_comm]
      dsimp only
      rw [hsame, Option.filter_some]
      cases parent.id != target.id <;> rfl
  rw [hhead, Option.map_eq_some_iff]
  simp only [Option.filter_eq_some_iff, parent?_eq_some hnodup, bne_iff_ne]
  constructor
  · rintro ⟨parent, ⟨⟨hparent, hhas⟩, hother⟩, hid⟩
    exact ⟨parent, hparent, hhas, hother, hid⟩
  · rintro ⟨parent, hparent, hhas, hother, hid⟩
    exact ⟨parent, ⟨⟨hparent, hhas⟩, hother⟩, hid⟩

end Hierarchy

namespace Artifact

variable {artifact : Artifact} {type : EffectiveType}

/-- Whether position and lineage agree on the parent of a type: there is a position exactly when
there is a lineage, which then starts at the type in that position. -/
def AgreesOnParent (artifact : Artifact) (type : EffectiveType) : Prop :=
  (type.parent.isSome = true ↔ type.lineage ≠ []) ∧
    ∀ place, type.parent = some place →
      ∃ parent, artifact.entityTypes[place]? = some parent ∧ type.lineage.head? = some parent.id

/-- The position of a parent is that of another type with the id that is named. -/
theorem parent_eq_some (hbuilt : artifact.rebuildNavigation = artifact)
    (hnodup : (artifact.entityTypes.map (·.id)).Nodup) (htype : type ∈ artifact.entityTypes)
    {place : Nat} :
    type.parent = some place ↔ ∃ parent, artifact.entityTypes[place]? = some parent ∧
      type.definition.parentId = some parent.id ∧ parent.id ≠ type.id := by
  obtain ⟨position, hposition⟩ := List.mem_iff_getElem?.mp htype
  have hparent : type.parent = parentPosition? artifact.entityTypes position type := by
    have hsame := artifact.getElem?_rebuildNavigation position
    rw [hbuilt, hposition, Option.map_some] at hsame
    exact congrArg EffectiveType.parent (Option.some.inj hsame)
  rw [hparent]
  constructor
  · intro hplace
    obtain ⟨parentId, -, hfound⟩ := Option.bind_eq_some_iff.mp hplace
    obtain ⟨parent, hat, -⟩ := Option.map_eq_some_iff.mp
      ((lastPosition?_eq_some hnodup).mp (Option.filter_eq_some_iff.mp hfound).1)
    exact ⟨parent, hat, (parentPosition?_eq_some hnodup hposition hat).mp hplace⟩
  · rintro ⟨parent, hat, hnamed⟩
    exact (parentPosition?_eq_some hnodup hposition hat).mpr hnamed

end Artifact

namespace Content

variable {content : Content} {blueprint : Blueprint} {version : Version} {maxDepth : UInt64}

theorem exists_getElem?_assemble {parent : EntityType} (hparent : parent ∈ content.types) :
    ∃ (place : Nat) (shown : EffectiveType),
      (content.assemble blueprint version maxDepth).entityTypes[place]? = some shown ∧
        shown.definition = parent := by
  rw [← @definitions_assemble content blueprint version maxDepth] at hparent
  obtain ⟨shown, hshown, rfl⟩ := List.mem_map.mp hparent
  obtain ⟨place, hplace⟩ := List.mem_iff_getElem?.mp hshown
  exact ⟨place, shown, hplace, rfl⟩

/-- A lineage starts at the parent, and only where that is of the same version. -/
theorem head?_lineage_assemble (hnodup : (content.types.map (·.id)).Nodup) (hdepth : 1 ≤ maxDepth)
    {type : EffectiveType}
    (htype : type ∈ (content.assemble blueprint version maxDepth).entityTypes) {id : String} :
    type.lineage.head? = some id ↔
      ∃ parent ∈ content.types, type.definition.HasParent parent ∧ parent.id ≠ type.id ∧
        parent.id = id := by
  have hlisted : type.definition ∈ content.types :=
    @definitions_assemble content blueprint version maxDepth ▸ List.mem_map_of_mem htype
  have hpair : (type.definition, type.lineage) ∈ content.types.map
      fun type => (type, (content.hierarchy maxDepth).lineageOf type.id) :=
    @lineages_assemble content blueprint version maxDepth hnodup ▸ List.mem_map_of_mem htype
  obtain ⟨target, -, hpair⟩ := List.mem_map.mp hpair
  obtain ⟨rfl, hlineage⟩ := Prod.mk.inj hpair
  rw [← hlineage]
  exact @Hierarchy.head?_lineageOf_eq_some (content.hierarchy maxDepth) _ hnodup hlisted hdepth id

/-- Position and lineage agree on the parent of a type unless that is of another version. -/
theorem agreesOnParent_assemble (hnodup : (content.types.map (·.id)).Nodup) (hdepth : 1 ≤ maxDepth)
    {type : EffectiveType}
    (htype : type ∈ (content.assemble blueprint version maxDepth).entityTypes) :
    (content.assemble blueprint version maxDepth).AgreesOnParent type ↔
      ∀ parent ∈ content.types, type.definition.parentId = some parent.id →
        parent.versionId = type.definition.versionId := by
  have hdefinitions := @definitions_assemble content blueprint version maxDepth
  have hbuilt := content.rebuildNavigation_assemble blueprint version maxDepth
  have hplaced := @exists_getElem?_assemble content blueprint version maxDepth
  have hhead := @head?_lineage_assemble content blueprint version maxDepth hnodup hdepth type htype
  generalize content.assemble blueprint version maxDepth = artifact at *
  have hids : (artifact.entityTypes.map (·.id)).Nodup := by
    rw [← hdefinitions, List.map_map] at hnodup
    exact hnodup
  have hlisted : type.definition ∈ content.types := hdefinitions ▸ List.mem_map_of_mem htype
  constructor
  · rintro ⟨-, hagrees⟩ parent hparent hnamed
    by_cases hself : parent.id = type.id
    · rw [List.inj_on_of_nodup_map hnodup hparent hlisted hself]
    · obtain ⟨place, shown, hplace, rfl⟩ := hplaced hparent
      obtain ⟨found, hfound, hfirst⟩ := hagrees place
        ((Artifact.parent_eq_some hbuilt hids htype).mpr ⟨shown, hplace, hnamed, hself⟩)
      obtain ⟨other, hother, hhas, -, hid⟩ := hhead.mp hfirst
      rw [hplace, Option.some.injEq] at hfound
      rw [List.inj_on_of_nodup_map hnodup hparent hother (hfound ▸ hid.symm)]
      exact hhas.together
  · intro htogether
    have hfirst : ∀ place, type.parent = some place →
        ∃ parent, artifact.entityTypes[place]? = some parent ∧
          type.lineage.head? = some parent.id := by
      intro place hplace
      obtain ⟨parent, hat, hnamed, hother⟩ :=
        (Artifact.parent_eq_some hbuilt hids htype).mp hplace
      have hparent : parent.definition ∈ content.types :=
        hdefinitions ▸ List.mem_map_of_mem (List.mem_of_getElem? hat)
      exact ⟨parent, hat, hhead.mpr ⟨parent.definition, hparent,
        ⟨hnamed, htogether _ hparent hnamed⟩, hother, rfl⟩⟩
    refine ⟨⟨fun hsome => ?_, fun hlineage => ?_⟩, hfirst⟩
    · obtain ⟨place, hplace⟩ := Option.isSome_iff_exists.mp hsome
      obtain ⟨parent, -, hstart⟩ := hfirst place hplace
      rintro hnil
      rw [hnil] at hstart
      cases hstart
    · obtain ⟨id, hid⟩ := Option.isSome_iff_exists.mp (List.isSome_head?.mpr hlineage)
      obtain ⟨parent, hparent, hhas, hother, -⟩ := hhead.mp hid
      obtain ⟨place, shown, hplace, rfl⟩ := hplaced hparent
      rw [(Artifact.parent_eq_some hbuilt hids htype).mpr ⟨shown, hplace, hhas.named, hother⟩]
      rfl

end Content

namespace Store.Answers

variable {σ : Type} {handle : (r : Request) → StateM σ r.Answer} {answers : Store.Answers}
  {version : Version} {blueprint : Blueprint} {versionId : String}

/-- Whatever types a store lists for a version, told apart by their ids: in the artifact, position
and lineage agree on the parent of a type exactly when no type of another version is named as it. -/
theorem compile_agreesOnParent (hanswers : answers.AreGivenBy handle)
    (hversion : answers (.getVersion versionId) = some version)
    (hblueprint : answers (.getBlueprint version.blueprintId) = some blueprint)
    (hnodup : ((answers (.listEntityTypes version.id)).map (·.id)).Nodup)
    (maxDepth : UInt64) (hdepth : 1 ≤ maxDepth) (limit : Option Nat) :
    ∃ artifact, Operation.ComesTo handle (Operation.compile maxDepth limit versionId) artifact ∧
      artifact.entityTypes.map (·.definition) = answers (.listEntityTypes version.id) ∧
      ∀ type ∈ artifact.entityTypes, artifact.AgreesOnParent type ↔
        ∀ parent ∈ answers (.listEntityTypes version.id),
          type.definition.parentId = some parent.id →
            parent.versionId = type.definition.versionId := by
  have htypes := types_content answers version.id
  refine ⟨_, hanswers.compile hversion hblueprint, ?_, fun type htype => ?_⟩
  · rw [Content.definitions_assemble, htypes]
  · rw [Content.agreesOnParent_assemble (by rwa [htypes]) hdepth htype, htypes]

theorem compile_agreesOnParent_muddled :
    Script.muddled.answers.AreGivenBy
        (fun r => (pure (Script.muddled.handle .tally .epoch r) : StateM Unit r.Answer)) ∧
      ((Script.muddled.answers (.listEntityTypes "v")).map (·.id)).Nodup ∧
      ∃ artifact, Operation.ComesTo
          (fun r => (pure (Script.muddled.handle .tally .epoch r) : StateM Unit r.Answer))
          (Operation.compile defaultMaxDepth none "v") artifact ∧
        artifact.entityTypes.map (·.definition) =
          Script.muddled.answers (.listEntityTypes "v") ∧
        ∀ type ∈ artifact.entityTypes, artifact.AgreesOnParent type ↔
          ∀ parent ∈ Script.muddled.answers (.listEntityTypes "v"),
            type.definition.parentId = some parent.id →
              parent.versionId = type.definition.versionId := by
  have hgiven := @Script.areGivenBy Script.muddled (fun _ => rfl) (fun _ => rfl) .tally .epoch
  have hversion : Script.muddled.answers (.getVersion "v") = some (.draft "v" "b" 1 .epoch) := rfl
  have hblueprint : Script.muddled.answers (.getBlueprint "b") =
      some (.new "b" "Novel" .epoch) := rfl
  have hnodup : ((Script.muddled.answers (.listEntityTypes "v")).map (·.id)).Nodup := by decide
  exact ⟨hgiven, hnodup, compile_agreesOnParent hgiven hversion hblueprint hnodup defaultMaxDepth
    (by decide) none⟩

/-- A type below one of another version has a position for its parent but no lineage. -/
theorem not_agreesOnParent_muddled :
    ((Script.muddled.answers (.listEntityTypes "v")).map (·.id)).Nodup ∧ 1 ≤ defaultMaxDepth ∧
      ∃ artifact, Operation.ComesTo
          (fun r => (pure (Script.muddled.handle .tally .epoch r) : StateM Unit r.Answer))
          (Operation.compile defaultMaxDepth none "v") artifact ∧
        ∃ type ∈ artifact.entityTypes, type.id = "t" ∧ ¬artifact.AgreesOnParent type := by
  have hgiven := @Script.areGivenBy Script.muddled (fun _ => rfl) (fun _ => rfl) .tally .epoch
  have hnodup : ((Script.muddled.answers.content "v").types.map (·.id)).Nodup := by decide
  have htypes : (Script.muddled.answers.content "v").types =
      [{ EntityType.new "t" "v" .event with parentId := some "u" }, .new "u" "w" .item] := rfl
  refine ⟨hnodup, by decide, _, hgiven.compile rfl rfl, ?_⟩
  have hfirst : { EntityType.new "t" "v" .event with parentId := some "u" } ∈
      ((Script.muddled.answers.content "v").assemble (.new "b" "Novel" .epoch)
        (.draft "v" "b" 1 .epoch) defaultMaxDepth).entityTypes.map (·.definition) := by
    rw [Content.definitions_assemble, htypes]
    exact List.mem_cons_self
  obtain ⟨type, htype, hdefinition⟩ := List.mem_map.mp hfirst
  refine ⟨type, htype, congrArg EntityType.id hdefinition, fun hagrees => ?_⟩
  have hparent : EntityType.new "u" "w" .item ∈ (Script.muddled.answers.content "v").types := by
    rw [htypes]
    exact List.mem_cons_of_mem _ List.mem_cons_self
  have htogether := (Content.agreesOnParent_assemble hnodup (by decide) htype).mp hagrees _ hparent
    (congrArg EntityType.parentId hdefinition)
  rw [hdefinition] at htogether
  exact absurd htogether (by decide)

end Store.Answers

end KnowledgeSchema
