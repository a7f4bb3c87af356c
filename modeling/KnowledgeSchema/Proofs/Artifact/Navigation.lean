import Mathlib.Data.List.Induction
import KnowledgeSchema.Operation.Compile

/-!
# Navigation and documents

The positions of parents and children follow from the rest of an artifact. A document leaves them out,
so what it says, and the digest of it, is the same for all artifacts that differ in nothing else, and
they are the same artifact once the positions are worked out again.
-/

namespace KnowledgeSchema

/-! ### The loop -/

theorem lastPosition?_detached (id : String) (types : List EffectiveType) :
    lastPosition? id (types.map EffectiveType.detached) = lastPosition? id types := by
  rw [lastPosition?, List.zipIdx_map, List.foldl_map]
  rfl

theorem parentPosition?_detached (types : List EffectiveType) (position : Nat)
    (type : EffectiveType) :
    parentPosition? (types.map EffectiveType.detached) position type.detached =
      parentPosition? types position type :=
  congrArg (type.definition.parentId.bind ·) <| funext fun parentId =>
    congrArg (Option.filter _) (lastPosition?_detached parentId types)

namespace Artifact

/-- What linking one child does to the type at a position. -/
theorem getElem?_link (types : List EffectiveType) (child : Nat) (parent : Option Nat)
    (position : Nat) :
    (link types child parent)[position]? = types[position]?.map fun type =>
      { type with
        parent := if child = position then parent.or type.parent else type.parent
        children := if parent = some position then type.children ++ [child] else type.children } := by
  cases parent with
  | none => simp [link]
  | some parent =>
    rw [link, List.getElem?_modify, List.getElem?_modify]
    cases types[position]? with
    | none => rfl
    | some type =>
      by_cases hchild : child = position
      · by_cases hparent : parent = position <;> simp [hchild, hparent]
      · by_cases hparent : parent = position <;> simp [hchild, hparent]

/-- The positions of the parents of all types. -/
def parents (artifact : Artifact) : List (Option Nat) :=
  artifact.entityTypes.zipIdx.map fun (type, position) =>
    parentPosition? artifact.entityTypes position type

theorem getElem?_parents (artifact : Artifact) (position : Nat) :
    artifact.parents[position]? =
      artifact.entityTypes[position]?.map (parentPosition? artifact.entityTypes position) := by
  rw [parents, List.getElem?_map, List.getElem?_zipIdx, Option.map_map, Nat.zero_add]
  rfl

/-- The positions of the types whose parent is at a position. -/
def childPositions (parents : List (Option Nat)) (position : Nat) : List Nat :=
  (parents.zipIdx.filter fun (parent, _) => parent == some position).map (·.2)

theorem childPositions_concat (parents : List (Option Nat)) (parent : Option Nat)
    (position : Nat) :
    childPositions (parents ++ [parent]) position =
      if parent = some position then childPositions parents position ++ [parents.length]
        else childPositions parents position := by
  rw [childPositions, List.zipIdx_append, List.filter_append, List.map_append]
  by_cases hchild : parent = some position <;> simp [childPositions, hchild]

theorem getElem?_concat_join (parents : List (Option Nat)) (parent : Option Nat)
    (position : Nat) :
    (parents ++ [parent])[position]?.join =
      if parents.length = position then parent else parents[position]?.join := by
  by_cases hlast : parents.length = position
  · simp [← hlast]
  · rw [if_neg hlast, List.getElem?_append]
    split_ifs with hlt
    · rfl
    · rw [List.getElem?_eq_none (by simp; omega), List.getElem?_eq_none (by omega)]

/-- After as many turns of the loop as there are parents, the types whose turn has come have theirs,
and every type lists those of them that are its children. -/
theorem getElem?_foldl_link (types : List EffectiveType) (parents : List (Option Nat))
    (position : Nat) :
    (parents.zipIdx.foldl (fun linked (parent, child) => link linked child parent)
        (types.map EffectiveType.detached))[position]? =
      types[position]?.map fun type =>
        { type with
          parent := parents[position]?.join
          children := childPositions parents position } := by
  induction parents using List.reverseRecOn with
  | nil => exact List.getElem?_map
  | append_singleton parents parent ih =>
    have hturns : (parents ++ [parent]).zipIdx = parents.zipIdx ++ [(parent, parents.length)] := by
      rw [List.zipIdx_append, Nat.zero_add, List.zipIdx_singleton]
    rw [hturns, List.foldl_append, List.foldl_cons, List.foldl_nil, getElem?_link, ih,
      Option.map_map, getElem?_concat_join, childPositions_concat]
    refine congrFun (congrArg _ (funext fun type => ?_)) _
    by_cases hlast : parents.length = position
    · simp [← hlast]
    · simp [hlast]

theorem zipIdx_zipIdx {α : Type} (items : List α) :
    items.zipIdx.zipIdx = items.zipIdx.map fun placed => (placed, placed.2) := by
  apply List.ext_getElem?
  intro position
  rw [List.getElem?_zipIdx, List.getElem?_map, List.getElem?_zipIdx]
  cases items[position]? with
  | none => rfl
  | some item => simp

/-- What the loop comes to, type by type. -/
theorem getElem?_rebuildNavigation (artifact : Artifact) (position : Nat) :
    artifact.rebuildNavigation.entityTypes[position]? =
      artifact.entityTypes[position]?.map fun type =>
        { type with
          parent := parentPosition? artifact.entityTypes position type
          children := childPositions artifact.parents position } := by
  have hloop : artifact.rebuildNavigation.entityTypes =
      artifact.parents.zipIdx.foldl (fun linked (parent, child) => link linked child parent)
        (artifact.entityTypes.map EffectiveType.detached) := by
    rw [parents, List.zipIdx_map, zipIdx_zipIdx, List.map_map, List.foldl_map]
    rfl
  rw [hloop, getElem?_foldl_link, getElem?_parents]
  cases artifact.entityTypes[position]? with
  | none => rfl
  | some type => rfl

/-- The positions are all that the loop sets. -/
theorem detached_entityTypes_rebuildNavigation (artifact : Artifact) :
    artifact.rebuildNavigation.entityTypes.map EffectiveType.detached =
      artifact.entityTypes.map EffectiveType.detached := by
  apply List.ext_getElem?
  intro position
  rw [List.getElem?_map, getElem?_rebuildNavigation, Option.map_map, List.getElem?_map]
  rfl

/-- The artifact as it is read from a document. -/
def detached (artifact : Artifact) : Artifact :=
  { artifact with entityTypes := artifact.entityTypes.map EffectiveType.detached }

theorem parents_detached (artifact : Artifact) : artifact.detached.parents = artifact.parents := by
  apply List.ext_getElem?
  intro position
  rw [getElem?_parents, getElem?_parents, detached, List.getElem?_map, Option.map_map]
  exact congrFun (congrArg _ (funext fun type =>
    parentPosition?_detached artifact.entityTypes position type)) _

/-- What is worked out again does not depend on the positions that were there. -/
theorem rebuildNavigation_detached (artifact : Artifact) :
    artifact.detached.rebuildNavigation = artifact.rebuildNavigation := by
  have htypes : artifact.detached.rebuildNavigation.entityTypes =
      artifact.rebuildNavigation.entityTypes := by
    apply List.ext_getElem?
    intro position
    rw [getElem?_rebuildNavigation, getElem?_rebuildNavigation, parents_detached, detached,
      List.getElem?_map, Option.map_map]
    refine congrFun (congrArg _ (funext fun type => ?_)) _
    rw [← parentPosition?_detached artifact.entityTypes position type]
    rfl
  exact congrArg (fun types => { artifact with entityTypes := types }) htypes

theorem detached_rebuildNavigation (artifact : Artifact) :
    artifact.rebuildNavigation.detached = artifact.detached :=
  congrArg (fun types => { artifact with entityTypes := types })
    artifact.detached_entityTypes_rebuildNavigation

theorem rebuildNavigation_rebuildNavigation (artifact : Artifact) :
    artifact.rebuildNavigation.rebuildNavigation = artifact.rebuildNavigation := by
  rw [← rebuildNavigation_detached, detached_rebuildNavigation, rebuildNavigation_detached]

/-! ### Documents and fingerprints -/

theorem fields_encode_detached (artifact : Artifact) :
    fields.encode artifact.detached = fields.encode artifact := by
  have htypes : (Codec.list EffectiveType.codec).encode
      (artifact.entityTypes.map EffectiveType.detached) =
        (Codec.list EffectiveType.codec).encode artifact.entityTypes :=
    congrArg Json.arr List.map_map
  simp only [fields, Fields.encode, detached, htypes]

theorem encode_detached (artifact : Artifact) :
    codec.encode artifact.detached = codec.encode artifact :=
  congrArg Json.obj artifact.fields_encode_detached

theorem isVerified_detached (artifact : Artifact) :
    artifact.detached.isVerified = artifact.isVerified := by
  have hcontent : artifact.detached.content = artifact.content := by
    rw [content, content, fields_encode_detached]
  rw [isVerified, computeFingerprint, contentBytes, hcontent]
  rfl

theorem isVerified_rebuildNavigation (artifact : Artifact) :
    artifact.rebuildNavigation.isVerified = artifact.isVerified := by
  rw [← isVerified_detached, detached_rebuildNavigation, isVerified_detached]

theorem isVerified_fingerprinted (artifact : Artifact) : artifact.fingerprinted.isVerified = true :=
  beq_self_eq_true artifact.computeFingerprint

theorem rebuildNavigation_fingerprinted (artifact : Artifact) :
    artifact.fingerprinted.rebuildNavigation =
      { artifact.rebuildNavigation with fingerprint := artifact.computeFingerprint } :=
  rfl

end Artifact

/-! ### Assembled artifacts -/

namespace Content

variable (content : Content) (blueprint : Blueprint) (version : Version) (maxDepth : UInt64)

theorem isVerified_assemble :
    (content.assemble blueprint version maxDepth).isVerified = true :=
  Artifact.isVerified_fingerprinted _

/-- An assembled artifact has the positions that follow from the rest of it. -/
theorem rebuildNavigation_assemble :
    (content.assemble blueprint version maxDepth).rebuildNavigation =
      content.assemble blueprint version maxDepth := by
  obtain ⟨plain, hplain⟩ : ∃ plain : Artifact,
      content.assemble blueprint version maxDepth = plain.rebuildNavigation.fingerprinted := ⟨_, rfl⟩
  rw [hplain, Artifact.rebuildNavigation_fingerprinted, Artifact.rebuildNavigation_rebuildNavigation]
  rfl

end Content

end KnowledgeSchema
