import KnowledgeSchema.Proofs.Inheritance.Alarms

/-!
# Chains of parents

Whether the ancestors of types are in order, said of the types alone: every parent that is named is
there, no chain of parents comes back to a type on it, and none is too long. That is the case exactly
when no type has an alarm, and then the lineage of each is all of its ancestors.
-/

namespace KnowledgeSchema

/-- Whether a type names another one of its version as its parent. -/
structure EntityType.HasParent (child parent : EntityType) : Prop where
  named : child.parentId = some parent.id
  together : parent.versionId = child.versionId

/-- Types of a list, each of them with its parent after it. -/
structure IsParentChain (types chain : List EntityType) : Prop where
  linked : chain.IsChain EntityType.HasParent
  listed : ∀ type ∈ chain, type ∈ types

/-- Types whose ancestors are in order, none of them with more than `maxDepth`. -/
structure AreRooted (types : List EntityType) (maxDepth : UInt64) : Prop where
  parents : ∀ type ∈ types, ∀ parentId, type.parentId = some parentId →
    ∃ parent ∈ types, parent.id = parentId ∧ parent.versionId = type.versionId
  unrepeated : ∀ chain, IsParentChain types chain → (chain.map (·.id)).Nodup
  shallow : ∀ type ancestors, IsParentChain types (type :: ancestors) →
    ancestors.length ≤ maxDepth.toNat

/-- The ids of all ancestors of a type of a list, nearest first, the last one without a parent. -/
def IsFullLineage (types : List EntityType) (type : EntityType) (lineage : List String) : Prop :=
  ∃ ancestors, IsParentChain types (type :: ancestors) ∧ ancestors.map (·.id) = lineage ∧
    (ancestors.getLastD type).parentId = none

namespace IsParentChain

variable {types : List EntityType} {type parent : EntityType} {chain : List EntityType}

theorem singleton (htype : type ∈ types) : IsParentChain types [type] :=
  ⟨.singleton type, by simpa using htype⟩

theorem cons (htype : type ∈ types) (hparent : type.HasParent parent)
    (hchain : IsParentChain types (parent :: chain)) : IsParentChain types (type :: parent :: chain) :=
  ⟨List.isChain_cons_cons.mpr ⟨hparent, hchain.linked⟩, fun other hother => by
    rcases List.mem_cons.mp hother with rfl | hother
    · exact htype
    · exact hchain.listed other hother⟩

theorem tail (hchain : IsParentChain types (type :: chain)) : IsParentChain types chain :=
  ⟨hchain.linked.of_cons, fun other hother => hchain.listed other (List.mem_cons_of_mem _ hother)⟩

theorem hasParent (hchain : IsParentChain types (type :: parent :: chain)) : type.HasParent parent :=
  (List.isChain_cons_cons.mp hchain.linked).1

end IsParentChain

namespace Hierarchy

variable {hierarchy : Hierarchy} {type : EntityType} {above : List EntityType}

theorem parent?_eq_some (hnodup : (hierarchy.types.map (·.id)).Nodup) {child parent : EntityType} :
    hierarchy.parent? child = some parent ↔ parent ∈ hierarchy.types ∧ child.HasParent parent := by
  constructor
  · intro hparent
    refine ⟨mem_types_of_parent? hparent, ?_⟩
    simp only [parent?, Option.bind_eq_some_iff, Option.filter_eq_some_iff] at hparent
    obtain ⟨parentId, hnamed, hfound, htogether⟩ := hparent
    rw [← id_of_type? hfound] at hnamed
    exact ⟨hnamed, beq_iff_eq.mp htogether⟩
  · rintro ⟨hmem, hnamed, htogether⟩
    rw [parent?, hnamed, Option.bind_some, knows_of_nodup hnodup hmem]
    exact Option.filter_eq_some_iff.mpr ⟨rfl, beq_iff_eq.mpr htogether⟩

theorem parent?_eq_none_of_root (hroot : type.parentId = none) : hierarchy.parent? type = none := by
  rw [parent?, hroot, Option.bind_none]

/-- Every type on a path has the ancestors of the first one among its own. -/
theorem IsPath.exists_ascent {first : EntityType} {rest beyond : List EntityType}
    (hpath : hierarchy.IsPath (first :: rest)) (hascent : hierarchy.Ascent first beyond)
    (hmem : type ∈ first :: rest) :
    ∃ above, hierarchy.Ascent type above ∧ above.length ≤ rest.length + beyond.length := by
  induction rest generalizing first beyond with
  | nil =>
    rw [List.mem_singleton.mp hmem]
    exact ⟨beyond, hascent, Nat.le_add_left _ _⟩
  | cons child rest ih =>
    rcases List.mem_cons.mp hmem with rfl | hmem
    · exact ⟨beyond, hascent, Nat.le_add_left _ _⟩
    · obtain ⟨above, habove, hlength⟩ := ih hpath.tail (.step hpath.parent hascent) hmem
      refine ⟨above, habove, hlength.trans ?_⟩
      simp only [List.length_cons]
      omega

/-! ### Ancestors up to a root -/

/-- All ancestors of a type, the last one without a parent. -/
def AscentToRoot (hierarchy : Hierarchy) (type : EntityType) (above : List EntityType) : Prop :=
  hierarchy.Ascent type above ∧ (above.getLastD type).parentId = none

theorem AscentToRoot.step {parent : EntityType} (hparent : hierarchy.parent? type = some parent)
    (habove : hierarchy.AscentToRoot parent above) :
    hierarchy.AscentToRoot type (parent :: above) :=
  ⟨.step hparent habove.1, by rw [List.getLastD_cons]; exact habove.2⟩

/-- A type has no alarm exactly when its ancestors end at a root within the bound. -/
theorem alarm?_eq_none (hknown : hierarchy.Knows type) :
    hierarchy.alarm? type = none ↔
      ∃ above, hierarchy.AscentToRoot type above ∧ above.length ≤ hierarchy.maxDepth.toNat := by
  constructor
  · intro halarm
    have hpath : hierarchy.IsPath [type] := ⟨.singleton _, by simpa using hknown⟩
    obtain ⟨below, hfinds⟩ := walkFrom_finds trusts_nil type [] hpath (Nat.zero_le _)
    have hcomplete : (hierarchy.walk [] type).ending.isComplete = true := by
      rw [alarm?] at halarm
      cases hending : (hierarchy.walk [] type).ending with
      | root | memoized id kept | dangling child parentId => rfl
      | cycle ids | tooDeep => rw [hending] at halarm; cases halarm
    obtain ⟨first, rest, beyond, hcons, hascent, -, hroom⟩ := hfinds.complete hcomplete
    have hmem : type ∈ first :: rest := by
      rw [← hcons, hfinds.path_eq]
      simp
    have hisPath := hfinds.isPath
    rw [hcons] at hisPath
    obtain ⟨above, habove, hlength⟩ := hisPath.exists_ascent hascent hmem
    have hroom' : above.length ≤ hierarchy.maxDepth.toNat := hlength.trans hroom
    refine ⟨above, ⟨habove, ?_⟩, hroom'⟩
    rwa [alarm?_of_ascent hknown habove hroom', EntityType.orphaned?, Option.map_eq_none_iff] at halarm
  · rintro ⟨above, ⟨habove, hroot⟩, hroom⟩
    rw [alarm?_of_ascent hknown habove hroom, EntityType.orphaned?, hroot, Option.map_none]

/-! ### Types in order -/

section

variable (hnodup : (hierarchy.types.map (·.id)).Nodup)
include hnodup

theorem Ascent.isParentChain (habove : hierarchy.Ascent type above)
    (htype : type ∈ hierarchy.types) : IsParentChain hierarchy.types (type :: above) := by
  induction habove with
  | top => exact .singleton htype
  | step hparent _ ih =>
    obtain ⟨hmem, hhas⟩ := (parent?_eq_some hnodup).mp hparent
    exact .cons htype hhas (ih hmem)

/-- A chain of parents is a part of the ancestors of its first type. -/
theorem Ascent.prefix_of_isParentChain {chain : List EntityType}
    (habove : hierarchy.Ascent type above) (hchain : IsParentChain hierarchy.types (type :: chain)) :
    chain <+: above := by
  induction chain generalizing type above with
  | nil => exact List.nil_prefix
  | cons parent chain ih =>
    have hparent : hierarchy.parent? type = some parent :=
      (parent?_eq_some hnodup).mpr ⟨hchain.tail.listed parent List.mem_cons_self, hchain.hasParent⟩
    cases habove with
    | top hnone => rw [hparent] at hnone; cases hnone
    | step hother hrest =>
      rw [hparent] at hother
      cases hother
      exact List.cons_prefix_cons.mpr ⟨rfl, ih hrest hchain.tail⟩

/-- Where parents that are named are there, ancestors come to an end when chains do. -/
theorem exists_ascentToRoot {bound : Nat} (htype : type ∈ hierarchy.types)
    (hparents : ∀ child ∈ hierarchy.types, ∀ parentId, child.parentId = some parentId →
      ∃ parent ∈ hierarchy.types, parent.id = parentId ∧ parent.versionId = child.versionId)
    (hbound : ∀ ancestors, IsParentChain hierarchy.types (type :: ancestors) →
      ancestors.length ≤ bound) :
    ∃ above, hierarchy.AscentToRoot type above := by
  induction bound generalizing type with
  | zero =>
    cases hparentId : type.parentId with
    | none => exact ⟨[], .top (parent?_eq_none_of_root hparentId), hparentId⟩
    | some parentId =>
      obtain ⟨parent, hmem, rfl, htogether⟩ := hparents type htype parentId hparentId
      have hlength := hbound [parent] (.cons htype ⟨hparentId, htogether⟩ (.singleton hmem))
      simp at hlength
  | succ bound ih =>
    cases hparentId : type.parentId with
    | none => exact ⟨[], .top (parent?_eq_none_of_root hparentId), hparentId⟩
    | some parentId =>
      obtain ⟨parent, hmem, rfl, htogether⟩ := hparents type htype parentId hparentId
      have hhas : type.HasParent parent := ⟨hparentId, htogether⟩
      obtain ⟨above, habove⟩ := ih hmem fun ancestors hchain =>
        Nat.succ_le_succ_iff.mp (hbound (parent :: ancestors) (.cons htype hhas hchain))
      exact ⟨parent :: above, habove.step ((parent?_eq_some hnodup).mpr ⟨hmem, hhas⟩)⟩

/-- No type has an alarm exactly when the ancestors of all are in order. -/
theorem alarms_eq_nil :
    hierarchy.types.filterMap hierarchy.alarm? = [] ↔
      AreRooted hierarchy.types hierarchy.maxDepth := by
  rw [List.filterMap_eq_nil_iff]
  constructor
  · intro hnone
    have hroots : ∀ type ∈ hierarchy.types, ∃ above, hierarchy.AscentToRoot type above ∧
        above.length ≤ hierarchy.maxDepth.toNat := fun type htype =>
      (alarm?_eq_none (knows_of_nodup hnodup htype)).mp (hnone type htype)
    refine ⟨fun type htype parentId hparentId => ?_, fun chain hchain => ?_,
      fun type ancestors hchain => ?_⟩
    · obtain ⟨above, ⟨habove, hroot⟩, -⟩ := hroots type htype
      cases habove with
      | top => rw [List.getLastD_nil, hparentId] at hroot; cases hroot
      | step hparent _ =>
        obtain ⟨hmem, hnamed, htogether⟩ := (parent?_eq_some hnodup).mp hparent
        rw [hparentId, Option.some.injEq] at hnamed
        exact ⟨_, hmem, hnamed.symm, htogether⟩
    · cases chain with
      | nil => exact List.nodup_nil
      | cons type ancestors =>
        have htype := hchain.listed type List.mem_cons_self
        obtain ⟨above, ⟨habove, -⟩, -⟩ := hroots type htype
        have hprefix := habove.prefix_of_isParentChain hnodup hchain
        exact (habove.nodup (knows_of_nodup hnodup htype)).sublist
          ((List.cons_prefix_cons.mpr ⟨rfl, hprefix⟩).sublist.map _)
    · obtain ⟨above, ⟨habove, -⟩, hroom⟩ := hroots type (hchain.listed type List.mem_cons_self)
      exact (habove.prefix_of_isParentChain hnodup hchain).length_le.trans hroom
  · intro hrooted type htype
    obtain ⟨above, habove⟩ := exists_ascentToRoot hnodup htype hrooted.parents
      (hrooted.shallow type)
    exact (alarm?_eq_none (knows_of_nodup hnodup htype)).mpr
      ⟨above, habove, hrooted.shallow type above (habove.1.isParentChain hnodup htype)⟩

/-- A type without an alarm has all of its ancestors in its lineage. -/
theorem isFullLineage_of_alarm?_eq_none (htype : type ∈ hierarchy.types)
    (halarm : hierarchy.alarm? type = none) :
    IsFullLineage hierarchy.types type (hierarchy.lineageOf type.id) := by
  have hknown := knows_of_nodup hnodup htype
  obtain ⟨above, ⟨habove, hroot⟩, hroom⟩ := (alarm?_eq_none hknown).mp halarm
  exact ⟨above, habove.isParentChain hnodup htype, (lineageOf_of_ascent hknown habove hroom).symm,
    hroot⟩

end

end Hierarchy

end KnowledgeSchema
