import Mathlib.Data.List.Nodup
import KnowledgeSchema.Proofs.Compiling.Parents

/-!
# Parents and children by position

However the positions in an artifact were before, working them out again leaves an index in which the
parents and the children tell the same: every type with a parent stands in the list of exactly that
parent, and the lists are in order.
-/

namespace KnowledgeSchema

namespace Artifact

variable {artifact : Artifact} {position place : Nat} {type child : EffectiveType}

/-- The positions of parents and children follow the ids, and the two tell the same. -/
structure IsIndexed (artifact : Artifact) : Prop where
  parent_lt : ∀ type ∈ artifact.entityTypes, ∀ place ∈ type.parent,
    place < artifact.entityTypes.length
  child_lt : ∀ type ∈ artifact.entityTypes, ∀ place ∈ type.children,
    place < artifact.entityTypes.length
  /-- The parent is another type, the one whose id is named. -/
  parent_iff : ∀ (position : Nat) (type : EffectiveType),
    artifact.entityTypes[position]? = some type → ∀ place, type.parent = some place ↔
      place ≠ position ∧ ∃ parent, artifact.entityTypes[place]? = some parent ∧
        type.definition.parentId = some parent.id
  ascending : ∀ type ∈ artifact.entityTypes, type.children.Pairwise (· < ·)
  mem_children : ∀ (position : Nat) (type : EffectiveType),
    artifact.entityTypes[position]? = some type → ∀ place, place ∈ type.children ↔
      ∃ child, artifact.entityTypes[place]? = some child ∧ child.parent = some position
  inverse : ∀ (position place : Nat) (type child : EffectiveType),
    artifact.entityTypes[position]? = some type → artifact.entityTypes[place]? = some child →
      (artifact.parentOf? place = some type ↔ child ∈ artifact.childrenOf position)
  listed_once : ∀ (place : Nat) (child : EffectiveType),
    artifact.entityTypes[place]? = some child → child.parent.isSome = true →
      ∃! position : Nat, ∃ type : EffectiveType,
        artifact.entityTypes[position]? = some type ∧ place ∈ type.children

/-! ### What is worked out -/

theorem mem_childPositions :
    place ∈ childPositions artifact.parents position ↔
      artifact.parents[place]? = some (some position) := by
  simp [childPositions, List.mem_zipIdx_iff_getElem?]

theorem ascending_childPositions (artifact : Artifact) (position : Nat) :
    (childPositions artifact.parents position).Pairwise (· < ·) := by
  have hsublist : (childPositions artifact.parents position).Sublist
      (artifact.parents.zipIdx.map (·.2)) :=
    List.filter_sublist.map _
  rw [List.zipIdx_map_snd] at hsublist
  exact List.Pairwise.sublist hsublist List.pairwise_lt_range'

/-! ### Artifacts that are worked out -/

section Rebuilt

variable (hbuilt : artifact.rebuildNavigation = artifact)
include hbuilt

theorem parent_of_rebuilt (htype : artifact.entityTypes[position]? = some type) :
    type.parent = parentPosition? artifact.entityTypes position type := by
  have hsame := artifact.getElem?_rebuildNavigation position
  rw [hbuilt, htype, Option.map_some] at hsame
  exact congrArg EffectiveType.parent (Option.some.inj hsame)

theorem children_of_rebuilt (htype : artifact.entityTypes[position]? = some type) :
    type.children = childPositions artifact.parents position := by
  have hsame := artifact.getElem?_rebuildNavigation position
  rw [hbuilt, htype, Option.map_some] at hsame
  exact congrArg EffectiveType.children (Option.some.inj hsame)

/-- A type is a child of the type at a position when it has that position for its parent. -/
theorem mem_children_of_rebuilt (htype : artifact.entityTypes[position]? = some type) :
    place ∈ type.children ↔
      ∃ child, artifact.entityTypes[place]? = some child ∧ child.parent = some position := by
  rw [children_of_rebuilt hbuilt htype, mem_childPositions, getElem?_parents, Option.map_eq_some_iff]
  refine exists_congr fun child => and_congr_right fun hchild => ?_
  rw [parent_of_rebuilt hbuilt hchild]

variable (hnodup : (artifact.entityTypes.map (·.id)).Nodup)
include hnodup

theorem parent_iff_of_rebuilt (htype : artifact.entityTypes[position]? = some type) :
    type.parent = some place ↔ place ≠ position ∧
      ∃ parent, artifact.entityTypes[place]? = some parent ∧
        type.definition.parentId = some parent.id := by
  rw [parent_eq_some hbuilt hnodup (List.mem_of_getElem? htype)]
  constructor
  · rintro ⟨parent, hparent, hnamed, hother⟩
    refine ⟨?_, parent, hparent, hnamed⟩
    rintro rfl
    exact hother (congrArg EffectiveType.id (Option.some.inj (hparent.symm.trans htype)))
  · rintro ⟨hother, parent, hparent, hnamed⟩
    exact ⟨parent, hparent, hnamed, fun hid => hother (position_unique hnodup hparent htype hid)⟩

theorem inverse_of_rebuilt (htype : artifact.entityTypes[position]? = some type)
    (hchild : artifact.entityTypes[place]? = some child) :
    artifact.parentOf? place = some type ↔ child ∈ artifact.childrenOf position := by
  have hparent : artifact.parentOf? place = some type ↔ child.parent = some position := by
    have hfound : artifact.parentOf? place = child.parent.bind (artifact.entityTypes[·]?) := by
      rw [parentOf?, hchild]
      rfl
    rw [hfound, Option.bind_eq_some_iff]
    refine ⟨?_, fun hparent => ⟨position, hparent, htype⟩⟩
    rintro ⟨found, hfound, hsame⟩
    rw [hfound, position_unique hnodup hsame htype rfl]
  have hlisted : child ∈ artifact.childrenOf position ↔ place ∈ type.children := by
    rw [childrenOf, htype]
    refine List.mem_filterMap.trans ⟨?_, fun hplace => ⟨place, hplace, hchild⟩⟩
    rintro ⟨found, hfound, hsame⟩
    rwa [position_unique hnodup hsame hchild rfl] at hfound
  rw [hparent, hlisted, mem_children_of_rebuilt hbuilt htype]
  constructor
  · exact fun hsome => ⟨child, hchild, hsome⟩
  · rintro ⟨found, hfound, hsome⟩
    rwa [Option.some.inj (hchild.symm.trans hfound)]

theorem isIndexed_of_rebuilt : artifact.IsIndexed where
  parent_lt type htype place hplace := by
    obtain ⟨position, hposition⟩ := List.mem_iff_getElem?.mp htype
    obtain ⟨-, parent, hparent, -⟩ := (parent_iff_of_rebuilt hbuilt hnodup hposition).mp hplace
    exact (List.getElem?_eq_some_iff.mp hparent).1
  child_lt type htype place hplace := by
    obtain ⟨position, hposition⟩ := List.mem_iff_getElem?.mp htype
    obtain ⟨child, hchild, -⟩ := (mem_children_of_rebuilt hbuilt hposition).mp hplace
    exact (List.getElem?_eq_some_iff.mp hchild).1
  parent_iff _ _ htype _ := parent_iff_of_rebuilt hbuilt hnodup htype
  ascending type htype := by
    obtain ⟨position, hposition⟩ := List.mem_iff_getElem?.mp htype
    rw [children_of_rebuilt hbuilt hposition]
    exact artifact.ascending_childPositions position
  mem_children _ _ htype _ := mem_children_of_rebuilt hbuilt htype
  inverse _ _ _ _ htype hchild := inverse_of_rebuilt hbuilt hnodup htype hchild
  listed_once place child hchild hsome := by
    obtain ⟨position, hparent⟩ := Option.isSome_iff_exists.mp hsome
    obtain ⟨-, parent, htype, -⟩ := (parent_iff_of_rebuilt hbuilt hnodup hchild).mp hparent
    refine ⟨position, ⟨parent, htype, ?_⟩, ?_⟩
    · exact (mem_children_of_rebuilt hbuilt htype).mpr ⟨child, hchild, hparent⟩
    · rintro other ⟨type, hother, hplace⟩
      obtain ⟨found, hfound, hsame⟩ := (mem_children_of_rebuilt hbuilt hother).mp hplace
      rw [← Option.some.inj (hchild.symm.trans hfound), hparent] at hsame
      exact (Option.some.inj hsame).symm

end Rebuilt

theorem ids_rebuildNavigation (artifact : Artifact) :
    artifact.rebuildNavigation.entityTypes.map (·.id) = artifact.entityTypes.map (·.id) := by
  have hdetached := congrArg (fun artifact : Artifact => artifact.entityTypes.map (·.id))
    artifact.detached_rebuildNavigation
  simpa only [detached, List.map_map, Function.comp_def, EffectiveType.detached,
    EffectiveType.id] using hdetached

/-- Working out the positions gives an index, whatever was there before, changes nothing else, and
comes to the same when it is done again. -/
theorem isIndexed_rebuildNavigation (artifact : Artifact)
    (hnodup : (artifact.entityTypes.map (·.id)).Nodup) :
    artifact.rebuildNavigation.IsIndexed ∧
      artifact.rebuildNavigation.detached = artifact.detached ∧
      artifact.rebuildNavigation.rebuildNavigation = artifact.rebuildNavigation := by
  have hbuilt := artifact.rebuildNavigation_rebuildNavigation
  refine ⟨isIndexed_of_rebuilt hbuilt ?_, artifact.detached_rebuildNavigation, hbuilt⟩
  rwa [ids_rebuildNavigation]

/-- A type below itself, two below each other, one below the second of them and one below none that
is there, with positions that are all wrong. -/
def tangled : Artifact where
  blueprint := .new "a" "Novel" .epoch
  version := .draft "b" "a" 1 .epoch
  entityTypes :=
    [("c", "c"), ("d", "e"), ("e", "d"), ("f", "e"), ("g", "h")].map fun (id, parentId) =>
      { definition := { EntityType.new id "b" .event with parentId := some parentId }
        fields := []
        lineage := []
        parent := some 7
        children := [9, 0, 0] }
  relationshipTypes := []
  viewTemplates := []
  mapsOfContent := []
  profile := none
  fingerprint := ""
  diagnostics := []

example : tangled.rebuildNavigation.entityTypes.map (fun type => (type.parent, type.children)) =
    [(none, []), (some 2, [2]), (some 1, [1, 3]), (some 2, []), (none, [])] := by
  decide

theorem isIndexed_rebuildNavigation_tangled :
    (tangled.entityTypes.map (·.id)).Nodup ∧ tangled.rebuildNavigation.IsIndexed ∧
      tangled.rebuildNavigation.detached = tangled.detached ∧
      tangled.rebuildNavigation.rebuildNavigation = tangled.rebuildNavigation := by
  have hnodup : (tangled.entityTypes.map (·.id)).Nodup := by decide
  exact ⟨hnodup, tangled.isIndexed_rebuildNavigation hnodup⟩

end Artifact

end KnowledgeSchema
