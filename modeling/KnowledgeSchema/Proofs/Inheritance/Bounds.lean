import Mathlib.Data.List.Chain
import Mathlib.Data.List.Perm.Subperm
import KnowledgeSchema.Proofs.Inheritance.Anomalies

/-!
# How far a walk goes

A walk has no count of its own. It takes one turn for every type that it comes to, and it comes to
no id twice, so it ends after as many turns as there are types, or one more than there may be
ancestors. What a memo adds behind the walk are the ancestors that would have followed: none of them
was passed, and the bound has room for them all.
-/

namespace KnowledgeSchema

/-- The types walked, the first one first. -/
def Walk.chain (walk : Walk) : List EntityType :=
  walk.path.reverse

namespace Hierarchy

variable {hierarchy : Hierarchy} {memo : Memo} {target current : EntityType}
  {path : List EntityType}

/-! ### Turns -/

/-- One turn of a walk: it ends, or goes on with the parent of the type that it has come to. -/
def turn (hierarchy : Hierarchy) (memo : Memo) (current : EntityType) (path : List EntityType) :
    Walk ⊕ EntityType :=
  match current.parentId with
  | none => .inl ⟨path, .root⟩
  | some parentId =>
    match hierarchy.parent? current with
    | none => .inl ⟨path, .dangling current parentId⟩
    | some parent =>
      if path.any (·.id == parent.id) then .inl ⟨path, .cycle (cycleIds path parent)⟩
      else
        match hierarchy.reuse? memo path.length parent.id with
        | some kept => .inl ⟨path, .memoized parent.id kept⟩
        | none => if hierarchy.maxDepth.toNat < path.length then .inl ⟨path, .tooDeep⟩ else .inr parent

/-- A walk that is given up if it does not end within so many turns. -/
def walkFor (hierarchy : Hierarchy) (memo : Memo) : Nat → EntityType → List EntityType → Option Walk
  | 0, _, _ => none
  | turns + 1, current, path =>
    match hierarchy.turn memo current path with
    | .inl walk => some walk
    | .inr parent => hierarchy.walkFor memo turns parent (parent :: path)

/-- A walk is one turn after another. -/
theorem walkFrom_eq_turn (memo : Memo) (current : EntityType) (path : List EntityType) :
    (∃ ending, hierarchy.turn memo current path = .inl ⟨path, ending⟩ ∧
        hierarchy.walkFrom memo current path = ⟨path, ending⟩) ∨
      ∃ parent, hierarchy.turn memo current path = .inr parent ∧
        hierarchy.walkFrom memo current path = hierarchy.walkFrom memo parent (parent :: path) := by
  rw [walkFrom_eq, turn]
  cases current.parentId with
  | none => exact Or.inl ⟨_, rfl, rfl⟩
  | some parentId =>
    cases hierarchy.parent? current with
    | none => exact Or.inl ⟨_, rfl, rfl⟩
    | some parent =>
      dsimp only
      by_cases hon : path.any (·.id == parent.id) = true
      · rw [if_pos hon, if_pos hon]
        exact Or.inl ⟨_, rfl, rfl⟩
      · rw [if_neg hon, if_neg hon]
        cases hierarchy.reuse? memo path.length parent.id with
        | some kept => exact Or.inl ⟨_, rfl, rfl⟩
        | none =>
          dsimp only
          split_ifs
          · exact Or.inl ⟨_, rfl, rfl⟩
          · exact Or.inr ⟨parent, rfl, rfl⟩

theorem length_le_walkFrom (memo : Memo) (current : EntityType) (path : List EntityType) :
    path.length ≤ (hierarchy.walkFrom memo current path).path.length := by
  fun_induction hierarchy.walkFrom memo current path with
  | case1 | case2 | case3 | case4 | case5 => exact Nat.le_refl _
  | case6 current path parentId _ parent _ _ _ _ _ ih => exact (Nat.le_succ _).trans ih

/-- A walk takes one turn for every type that it adds to the path, and one more in which it ends. -/
theorem walkFor_eq (memo : Memo) (turns : Nat) (current : EntityType) (path : List EntityType) :
    hierarchy.walkFor memo turns current path =
      if (hierarchy.walkFrom memo current path).path.length < path.length + turns then
        some (hierarchy.walkFrom memo current path)
      else none := by
  induction turns generalizing current path with
  | zero => exact (if_neg (Nat.not_lt.mpr (length_le_walkFrom memo current path))).symm
  | succ turns ih =>
    rw [walkFor]
    rcases hierarchy.walkFrom_eq_turn memo current path with
      ⟨ending, hturn, hwalk⟩ | ⟨parent, hturn, hwalk⟩
    · rw [hturn, hwalk]
      exact (if_pos (by simp)).symm
    · rw [hturn, hwalk]
      dsimp only
      rw [ih, List.length_cons, Nat.add_right_comm, Nat.add_assoc]

theorem walk_of_walkFor {turns : Nat} {walk : Walk}
    (hwalk : hierarchy.walkFor memo turns target [target] = some walk) :
    hierarchy.walk memo target = walk := by
  rw [walkFor_eq] at hwalk
  split_ifs at hwalk
  exact Option.some.inj hwalk

/-- What a walk up from a type with a memo comes to, and the lineage that is made of it. -/
structure IsBoundedWalk (hierarchy : Hierarchy) (memo : Memo) (target : EntityType) (walk : Walk)
    (lineage : List String) : Prop where
  /-- The walk ends in as many turns as there are types on the chain. -/
  turns : ∀ turns, hierarchy.walkFor memo turns target [target] =
    if walk.chain.length ≤ turns then some walk else none
  starts : walk.chain.head? = some target
  distinct : (walk.chain.map (·.id)).Nodup
  parents : walk.chain.IsChain fun child parent =>
    hierarchy.type? parent.id = some parent ∧ child.HasParent parent
  length : walk.chain.length ≤ min hierarchy.types.length (hierarchy.maxDepth.toNat + 1)
  /-- The lineage is the chain above the type, and behind it what comes from the memo. -/
  joined : lineage = walk.chain.tail.map (·.id) ++ walk.ending.base.lineage
  unrepeated : lineage.Nodup
  proper : target.id ∉ lineage
  bounded : lineage.length ≤ hierarchy.maxDepth.toNat

/-! ### Chains -/

theorem hasParent_of_parent? {child parent : EntityType}
    (hparent : hierarchy.parent? child = some parent) : child.HasParent parent := by
  simp only [parent?, Option.bind_eq_some_iff, Option.filter_eq_some_iff] at hparent
  obtain ⟨parentId, hnamed, hfound, htogether⟩ := hparent
  exact ⟨id_of_type? hfound ▸ hnamed, beq_iff_eq.mp htogether⟩

theorem Knows.mem_types {type : EntityType} (hknown : hierarchy.Knows type) :
    type ∈ hierarchy.types :=
  List.mem_reverse.mp (List.mem_of_find?_eq_some hknown)

theorem IsPath.isChain_reverse (hpath : hierarchy.IsPath path) :
    path.reverse.IsChain fun child parent =>
      hierarchy.type? parent.id = some parent ∧ child.HasParent parent :=
  List.isChain_reverse.mpr <| hpath.1.imp fun _ _ hparent =>
    ⟨type?_of_parent? hparent, hasParent_of_parent? hparent⟩

/-- Types that are told apart by their ids are no more than there are. -/
theorem length_le_of_nodup (hknown : ∀ type ∈ path, hierarchy.Knows type)
    (hnodup : (path.map (·.id)).Nodup) : path.length ≤ hierarchy.types.length := by
  have hsubset : path.map (·.id) ⊆ hierarchy.types.map (·.id) :=
    List.map_subset _ fun type htype => (hknown type htype).mem_types
  simpa using (List.subperm_of_subset hnodup hsubset).length_le

/-- With a memo that is sound, a walk and what the memo adds behind it are the whole chain of a
type. -/
theorem Trusts.isBoundedWalk (htrusts : hierarchy.Trusts memo) (hknown : hierarchy.Knows target) :
    hierarchy.IsBoundedWalk memo target (hierarchy.walk memo target)
      (hierarchy.lineageOf target.id) := by
  have hturns := fun turns => hierarchy.walkFor_eq memo turns target [target]
  have hpath : hierarchy.IsPath [target] := ⟨.singleton _, by simpa using hknown⟩
  obtain ⟨above, hfinds⟩ := walkFrom_finds htrusts target [] hpath (Nat.zero_le _)
  have hlineage : hierarchy.lineageOf target.id = (hierarchy.ancestors target).map (·.id) := by
    rw [lineageOf, hknown]
  rw [hlineage]
  change ∀ turns, _ = if (hierarchy.walk memo target).path.length < _ then
    some (hierarchy.walk memo target) else none at hturns
  change hierarchy.WalkFinds target [] (hierarchy.walk memo target) above at hfinds
  generalize hierarchy.walk memo target = walk at hturns hfinds
  have hchain : walk.chain = target :: above := by
    rw [Walk.chain, hfinds.path_eq, List.reverse_append, List.reverse_reverse]
    rfl
  have hancestors : (hierarchy.ancestors target).map (·.id) =
      walk.chain.tail.map (·.id) ++ walk.ending.base.lineage := by
    rw [hchain]
    exact hfinds.ancestors
  have hnodup := hierarchy.nodup_chain target
  rw [chain, List.map_cons, List.nodup_cons] at hnodup
  have hdistinct : (walk.chain.map (·.id)).Nodup := by
    rw [hchain, List.map_cons, List.nodup_cons]
    rw [hancestors, hchain, List.tail_cons] at hnodup
    exact ⟨fun hmem => hnodup.1 (List.mem_append_left _ hmem), hnodup.2.of_append_left⟩
  have hbounded := hierarchy.length_ancestors_le target
  rw [← List.length_map (f := (·.id))] at hbounded
  constructor
  · intro turns
    rw [hturns, List.length_singleton, Nat.add_comm, Walk.chain, List.length_reverse]
    exact if_congr Nat.lt_succ_iff rfl rfl
  · rw [hchain]
    rfl
  · exact hdistinct
  · exact hfinds.isPath.isChain_reverse
  · refine le_min (length_le_of_nodup (fun type htype => ?_) hdistinct) ?_
    · exact hfinds.isPath.2 type (List.mem_reverse.mp htype)
    · rw [hancestors, hchain, List.length_append, List.length_map] at hbounded
      rw [hchain, List.length_cons]
      exact Nat.succ_le_succ ((Nat.le_add_right _ _).trans hbounded)
  · exact hancestors
  · exact hnodup.2
  · exact hnodup.1
  · exact hbounded

end Hierarchy

namespace Resolver

/-- Whatever a resolver was asked before, a walk from any type ends, and what is made of it repeats no
type and stays within the bound. -/
theorem isBoundedWalk_resolve (hierarchy : Hierarchy) (earlier : List String) {id : String}
    {target : EntityType} (hfound : hierarchy.type? id = some target) :
    let resolver := (resolveAll hierarchy {} earlier).2
    hierarchy.IsBoundedWalk resolver.memo target (hierarchy.walk resolver.memo target)
      (resolver.resolve hierarchy id).1.lineage := by
  intro resolver
  have htrusts : hierarchy.Trusts resolver.memo :=
    (resolveAll_of_trusts Hierarchy.trusts_nil earlier).2
  have hlineage : (resolver.resolve hierarchy id).1.lineage = hierarchy.lineageOf target.id := by
    rw [resolve_after, Hierarchy.id_of_type? hfound]
    rfl
  rw [hlineage]
  exact htrusts.isBoundedWalk (Hierarchy.knows_of_type? hfound)

/-! ### A cycle and a line -/

/-- Two types that are each other's parents, one below them, and three in a line. -/
def knotted : Hierarchy where
  types :=
    [{ EntityType.new "x" "v" .item with parentId := some "y" },
      { EntityType.new "y" "v" .item with parentId := some "x" },
      { EntityType.new "z" "v" .item with parentId := some "x" }] ++ line.types
  own := line.own
  maxDepth := 2

theorem isBoundedWalk_resolve_knotted :
    knotted.type? "c" = some { EntityType.new "c" "v" .item with parentId := some "b" } ∧
      let resolver := (resolveAll knotted {} ["z", "b"]).2
      knotted.IsBoundedWalk resolver.memo
        { EntityType.new "c" "v" .item with parentId := some "b" }
        (knotted.walk resolver.memo { EntityType.new "c" "v" .item with parentId := some "b" })
        (resolver.resolve knotted "c").1.lineage :=
  ⟨rfl, isBoundedWalk_resolve knotted ["z", "b"] rfl⟩

end Resolver

end KnowledgeSchema
