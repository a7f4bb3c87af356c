import Mathlib.Data.List.Induction
import Mathlib.Data.Multiset.MapFold
import KnowledgeSchema.Proofs.Artifact.Navigation
import KnowledgeSchema.Proofs.Inheritance.Alarms

/-!
# The parts of an artifact

What an artifact says about each of its entity types when the types are told apart by their ids: the
positions of parents and children in it are those of the types with these ids.
-/

namespace KnowledgeSchema

/-- An entity type of an artifact with the ids of its parent and of its children. -/
structure Outline where
  definition : EntityType
  fields : List Field
  lineage : List String
  parent : Option String
  children : Multiset String

namespace Artifact

def outlines (artifact : Artifact) : List Outline :=
  artifact.entityTypes.zipIdx.map fun (type, position) =>
    { definition := type.definition, fields := type.fields, lineage := type.lineage
      parent := (artifact.parentOf? position).map (·.id)
      children := (artifact.childrenOf position).map (·.id) }

end Artifact

/-! ### Positions of ids -/

section Positions

variable {types : List EffectiveType}

theorem lastPosition?_concat (id : String) (types : List EffectiveType) (type : EffectiveType) :
    lastPosition? id (types ++ [type]) =
      if type.id = id then some types.length else lastPosition? id types := by
  rw [lastPosition?, List.zipIdx_append, List.foldl_append]
  simp [lastPosition?]

theorem lastPosition?_eq_some (hnodup : (types.map (·.id)).Nodup) {id : String} {position : Nat} :
    lastPosition? id types = some position ↔ (types[position]?).map (·.id) = some id := by
  induction types using List.reverseRecOn generalizing position with
  | nil => simp [lastPosition?]
  | append_singleton types type ih =>
    rw [List.map_append, List.nodup_append] at hnodup
    obtain ⟨hfirst, -, hapart⟩ := hnodup
    rw [lastPosition?_concat]
    by_cases hid : type.id = id
    · rw [if_pos hid, Option.some.injEq]
      constructor
      · rintro rfl
        simp [hid]
      · intro hposition
        by_contra hother
        obtain ⟨found, hfound, hsame⟩ := Option.map_eq_some_iff.mp hposition
        have hlt : position < types.length := by
          have hbound := (List.getElem?_eq_some_iff.mp hfound).1
          rw [List.length_append, List.length_singleton] at hbound
          omega
        rw [List.getElem?_append_left hlt] at hfound
        exact hapart found.id (List.mem_map_of_mem (List.mem_of_getElem? hfound)) type.id
          (List.mem_singleton_self _) (hsame.trans hid.symm)
    · rw [if_neg hid, ih hfirst]
      by_cases hlt : position < types.length
      · rw [List.getElem?_append_left hlt]
      · rw [List.getElem?_eq_none (by omega), List.getElem?_append_right (by omega)]
        constructor
        · intro hnone
          cases hnone
        · intro hposition
          obtain ⟨found, hfound, hsame⟩ := Option.map_eq_some_iff.mp hposition
          rw [List.getElem?_singleton] at hfound
          split_ifs at hfound
          cases hfound
          exact absurd hsame hid

theorem position_unique (hnodup : (types.map (·.id)).Nodup) {first second : Nat}
    {type other : EffectiveType} (hfirst : types[first]? = some type)
    (hsecond : types[second]? = some other) (hid : type.id = other.id) : first = second := by
  have hposition := (lastPosition?_eq_some hnodup).mpr (congrArg (Option.map EffectiveType.id) hfirst)
  have hother := (lastPosition?_eq_some hnodup).mpr (congrArg (Option.map EffectiveType.id) hsecond)
  rw [hid] at hposition
  exact Option.some.inj (hposition.symm.trans hother)

theorem parentPosition?_eq_some (hnodup : (types.map (·.id)).Nodup) {position place : Nat}
    {type parent : EffectiveType} (htype : types[position]? = some type)
    (hparent : types[place]? = some parent) :
    parentPosition? types position type = some place ↔
      type.definition.parentId = some parent.id ∧ parent.id ≠ type.id := by
  rw [parentPosition?, Option.bind_eq_some_iff]
  constructor
  · rintro ⟨parentId, hparentId, hfound⟩
    obtain ⟨hplace, hother⟩ := Option.filter_eq_some_iff.mp hfound
    rw [lastPosition?_eq_some hnodup, hparent, Option.map_some, Option.some.injEq] at hplace
    subst hplace
    refine ⟨hparentId, fun hsame => ?_⟩
    exact (bne_iff_ne.mp hother) (position_unique hnodup hparent htype hsame)
  · rintro ⟨hparentId, hother⟩
    refine ⟨parent.id, hparentId, Option.filter_eq_some_iff.mpr ⟨?_, bne_iff_ne.mpr ?_⟩⟩
    · rw [lastPosition?_eq_some hnodup, hparent]
      rfl
    · rintro rfl
      rw [htype] at hparent
      cases hparent
      exact hother rfl

end Positions

/-! ### Parents and children by their ids -/

/-- The parent of a type among some types: another one of them. -/
def parentIn (types : List EntityType) (type : EntityType) : Option String :=
  type.parentId.filter fun id => id != type.id && types.any (·.id == id)

def childrenIn (types : List EntityType) (type : EntityType) : Multiset String :=
  (types.filter fun child => child.parentId == some type.id && child.id != type.id).map (·.id)

namespace Artifact

variable {artifact : Artifact}

theorem id_rebuildNavigation (artifact : Artifact) (position : Nat) :
    (artifact.rebuildNavigation.entityTypes[position]?).map (·.id) =
      (artifact.entityTypes[position]?).map (·.id) := by
  rw [getElem?_rebuildNavigation, Option.map_map]
  rfl

theorem parentOf?_rebuildNavigation (hnodup : (artifact.entityTypes.map (·.id)).Nodup)
    {position : Nat} {type : EffectiveType} (htype : artifact.entityTypes[position]? = some type) :
    (artifact.rebuildNavigation.parentOf? position).map (·.id) =
      parentIn (artifact.entityTypes.map (·.definition)) type.definition := by
  have hfound : (artifact.rebuildNavigation.parentOf? position).map (·.id) =
      (parentPosition? artifact.entityTypes position type).bind fun place =>
        (artifact.entityTypes[place]?).map (·.id) := by
    have hparent : artifact.rebuildNavigation.parentOf? position =
        (parentPosition? artifact.entityTypes position type).bind fun place =>
          artifact.rebuildNavigation.entityTypes[place]? := by
      rw [parentOf?, getElem?_rebuildNavigation, htype]
      rfl
    rw [hparent, Option.map_bind]
    exact congrArg _ (funext fun place => id_rebuildNavigation artifact place)
  rw [hfound, parentIn]
  ext id
  simp only [Option.bind_eq_some_iff, Option.map_eq_some_iff,
    Option.filter_eq_some_iff, Bool.and_eq_true, bne_iff_ne, List.any_eq_true, beq_iff_eq,
    List.mem_map]
  constructor
  · rintro ⟨place, hplace, parent, hparent, rfl⟩
    obtain ⟨hparentId, hother⟩ := (parentPosition?_eq_some hnodup htype hparent).mp hplace
    exact ⟨hparentId, hother, parent.definition, ⟨parent, List.mem_of_getElem? hparent, rfl⟩, rfl⟩
  · rintro ⟨hparentId, hother, -, ⟨parent, hmem, rfl⟩, rfl⟩
    obtain ⟨place, hparent⟩ := List.mem_iff_getElem?.mp hmem
    exact ⟨place, (parentPosition?_eq_some hnodup htype hparent).mpr ⟨hparentId, hother⟩, parent,
      hparent, rfl⟩

theorem childrenOf_rebuildNavigation (hnodup : (artifact.entityTypes.map (·.id)).Nodup)
    {position : Nat} {type : EffectiveType} (htype : artifact.entityTypes[position]? = some type) :
    (artifact.rebuildNavigation.childrenOf position).map (·.id) =
      (artifact.entityTypes.filter fun child =>
        child.definition.parentId == some type.id && child.id != type.id).map (·.id) := by
  have hplaced : ∀ placed ∈ artifact.entityTypes.zipIdx,
      artifact.entityTypes[placed.2]? = some placed.1 := fun placed hmem =>
    List.mem_zipIdx_iff_getElem?.mp hmem
  have hids : ∀ placed ∈ artifact.entityTypes.zipIdx.filter fun placed =>
      parentPosition? artifact.entityTypes placed.2 placed.1 == some position,
        (artifact.rebuildNavigation.entityTypes[placed.2]?).map (·.id) = some placed.1.id := by
    intro placed hmem
    rw [id_rebuildNavigation, hplaced placed (List.mem_of_mem_filter hmem)]
    rfl
  calc
    (artifact.rebuildNavigation.childrenOf position).map (·.id) =
        (artifact.entityTypes.zipIdx.filter fun placed =>
          parentPosition? artifact.entityTypes placed.2 placed.1 == some position).filterMap
            fun placed => (artifact.rebuildNavigation.entityTypes[placed.2]?).map (·.id) := by
      rw [childrenOf, getElem?_rebuildNavigation, htype, Option.map_some]
      simp only [childPositions, parents, List.zipIdx_map, zipIdx_zipIdx, List.map_map,
        List.filter_map, List.filterMap_map, List.map_filterMap]
      rfl
    _ = (artifact.entityTypes.zipIdx.filter fun placed =>
          parentPosition? artifact.entityTypes placed.2 placed.1 == some position).map (·.1.id) := by
      rw [List.filterMap_congr hids, ← List.filterMap_eq_map]
      rfl
    _ = (artifact.entityTypes.zipIdx.filter fun placed =>
          placed.1.definition.parentId == some type.id && placed.1.id != type.id).map (·.1.id) := by
      refine congrArg _ (List.filter_congr fun placed hmem => Bool.eq_iff_iff.mpr ?_)
      rw [beq_iff_eq, parentPosition?_eq_some hnodup (hplaced placed hmem) htype, Bool.and_eq_true,
        beq_iff_eq, bne_iff_ne, ne_comm]
    _ = (artifact.entityTypes.filter fun child =>
          child.definition.parentId == some type.id && child.id != type.id).map (·.id) := by
      conv_rhs => rw [← List.zipIdx_map_fst 0 artifact.entityTypes, List.filter_map, List.map_map]
      rfl

/-- What an artifact says about its types, told by their ids. -/
theorem outlines_rebuildNavigation (hnodup : (artifact.entityTypes.map (·.id)).Nodup) :
    artifact.rebuildNavigation.outlines = artifact.entityTypes.map fun type =>
      { definition := type.definition, fields := type.fields, lineage := type.lineage
        parent := parentIn (artifact.entityTypes.map (·.definition)) type.definition
        children := childrenIn (artifact.entityTypes.map (·.definition)) type.definition } := by
  apply List.ext_getElem?
  intro position
  rw [outlines, List.getElem?_map, List.getElem?_zipIdx, getElem?_rebuildNavigation,
    List.getElem?_map]
  cases htype : artifact.entityTypes[position]? with
  | none => rfl
  | some type =>
    have hchildren : (artifact.rebuildNavigation.childrenOf position).map (·.id) =
        ((artifact.entityTypes.map (·.definition)).filter fun child =>
          child.parentId == some type.id && child.id != type.id).map (·.id) := by
      rw [childrenOf_rebuildNavigation hnodup htype, List.filter_map, List.map_map]
      rfl
    simp only [Option.map_some, Nat.zero_add, parentOf?_rebuildNavigation hnodup htype, hchildren]
    rfl

end Artifact

/-! ### An assembled artifact -/

/-- A type among the types of a hierarchy. -/
def Hierarchy.outline (hierarchy : Hierarchy) (type : EntityType) : Outline where
  definition := type
  fields := (hierarchy.effective type.id).fields
  lineage := (hierarchy.effective type.id).lineage
  parent := parentIn hierarchy.types type
  children := childrenIn hierarchy.types type

namespace Content

variable {content : Content} {blueprint : Blueprint} {version : Version} {maxDepth : UInt64}

theorem outlines_assemble (hnodup : (content.types.map (·.id)).Nodup) :
    (content.assemble blueprint version maxDepth).outlines =
      content.types.map (content.hierarchy maxDepth).outline := by
  obtain ⟨htypes, -⟩ := @resolveTypes_eq (content.hierarchy maxDepth) content.types
    fun type hmem => Hierarchy.knows_of_nodup hnodup hmem
  generalize hartifact : content.assemble blueprint version maxDepth = artifact
  obtain ⟨plain, hplain, hrebuilt⟩ : ∃ plain : Artifact,
      plain.entityTypes = content.types.map (fun type =>
        { definition := type,
          fields := ((content.hierarchy maxDepth).effective type.id).fields,
          lineage := ((content.hierarchy maxDepth).effective type.id).lineage }) ∧
      artifact = plain.rebuildNavigation.fingerprinted := ⟨_, htypes, hartifact.symm⟩
  have hdefinitions : plain.entityTypes.map (·.definition) = content.types := by
    rw [hplain, List.map_map]
    exact List.map_id _
  have hids : (plain.entityTypes.map (·.id)).Nodup := by
    rw [hplain, List.map_map]
    exact hnodup
  have houtlines : artifact.outlines = plain.rebuildNavigation.outlines := by
    rw [hrebuilt]
    rfl
  rw [houtlines, Artifact.outlines_rebuildNavigation hids, hdefinitions, hplain, List.map_map]
  rfl

theorem definitions_resolveTypes {hierarchy : Hierarchy} (resolver : Resolver)
    (types : List EntityType) :
    (resolveTypes hierarchy resolver types).1.map (·.definition) = types := by
  induction types generalizing resolver with
  | nil => rfl
  | cons type rest ih => exact congrArg (type :: ·) (ih _)

/-- There is one type in the artifact for each type, in their order. -/
theorem definitions_assemble :
    (content.assemble blueprint version maxDepth).entityTypes.map (·.definition) =
      content.types := by
  refine Eq.trans ?_ (@definitions_resolveTypes (content.hierarchy maxDepth) {}
    content.types)
  generalize hartifact : content.assemble blueprint version maxDepth = artifact
  obtain ⟨plain, hplain, hrebuilt⟩ : ∃ plain : Artifact,
      plain.entityTypes = (resolveTypes (content.hierarchy maxDepth) {} content.types).1 ∧
      artifact = plain.rebuildNavigation.fingerprinted := ⟨_, rfl, hartifact.symm⟩
  have hsame := congrArg (List.map EffectiveType.definition)
    plain.detached_entityTypes_rebuildNavigation
  rw [List.map_map, List.map_map] at hsame
  rw [hrebuilt, ← hplain]
  exact hsame

theorem lineages_assemble (hnodup : (content.types.map (·.id)).Nodup) :
    (content.assemble blueprint version maxDepth).entityTypes.map
        (fun type => (type.definition, type.lineage)) =
      content.types.map fun type => (type, (content.hierarchy maxDepth).lineageOf type.id) := by
  have houtlines := congrArg (List.map fun outline : Outline => (outline.definition, outline.lineage))
    (@outlines_assemble content blueprint version maxDepth hnodup)
  rw [List.map_map] at houtlines
  refine Eq.trans ?_ houtlines
  rw [Artifact.outlines, List.map_map]
  conv_lhs => rw [← List.zipIdx_map_fst 0 (Artifact.entityTypes _), List.map_map]
  rfl

theorem diagnostics_assemble (hnodup : (content.types.map (·.id)).Nodup) :
    (content.assemble blueprint version maxDepth).diagnostics =
      (content.types.filterMap (content.hierarchy maxDepth).alarm?).eraseDups ++
        content.relationships.flatMap fun relationship =>
          relationshipWarnings (content.types.map (·.kind)) relationship.1 relationship.2 := by
  obtain ⟨-, hwarnings⟩ := @resolveTypes_eq (content.hierarchy maxDepth) content.types
    fun type hmem => Hierarchy.knows_of_nodup hnodup hmem
  rw [← hwarnings]
  rfl

end Content

end KnowledgeSchema
