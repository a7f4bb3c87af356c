import KnowledgeSchema.Proofs.Inheritance.Alarms

/-!
# Inheritance under other ids

Ids only tell types apart. In a hierarchy with other ids a type has the same ancestors, inherits the
same fields and has the same things out of order, all under the other ids.
-/

namespace KnowledgeSchema

/-- What is out of order with the ancestors of a type, under other ids. -/
def Warning.relabeled (ids : String → String) : Warning → Warning
  | danglingParent entityTypeId parentId => danglingParent (ids entityTypeId) (ids parentId)
  | depthExceeded entityTypeId maxDepth => depthExceeded (ids entityTypeId) maxDepth
  | inheritanceCycle entityTypeId cycle => inheritanceCycle (ids entityTypeId) (cycle.map ids)
  | warning => warning

namespace Hierarchy

/-- A hierarchy has the types of another one, under other ids. -/
structure Relabels (source target : Hierarchy) (types : EntityType → EntityType)
    (ids : String → String) : Prop where
  depth : target.maxDepth = source.maxDepth
  id : ∀ type, (types type).id = ids type.id
  parentId : ∀ type, (types type).parentId = type.parentId.map ids
  injective : ∀ first ∈ source.types, ∀ second ∈ source.types,
    ids first.id = ids second.id → first.id = second.id
  parent : ∀ type ∈ source.types, target.parent? (types type) = (source.parent? type).map types

/-- A hierarchy has the types and the fields of another one, under other ids. -/
structure Renames (source target : Hierarchy) (types : EntityType → EntityType)
    (fields : Field → Field) (ids : String → String) : Prop extends
    Relabels source target types ids where
  known : ∀ type ∈ source.types, target.type? (ids type.id) = some (types type)
  own : ∀ type ∈ source.types, ∀ name, (target.own (ids type.id)).findRev? (·.name == name) =
    ((source.own type.id).findRev? (·.name == name)).map fields
  name : ∀ field, (fields field).name = field.name
  order : ∀ field, (fields field).order = field.order

variable {source target : Hierarchy} {types : EntityType → EntityType} {fields : Field → Field}
  {ids : String → String} {type parent : EntityType} {path : List EntityType}

theorem dropWhile_congr {α : Type} {items : List α} {p q : α → Bool}
    (hsame : ∀ item ∈ items, p item = q item) : items.dropWhile p = items.dropWhile q := by
  induction items with
  | nil => rfl
  | cons item rest ih =>
    rw [List.dropWhile_cons, List.dropWhile_cons, hsame item List.mem_cons_self,
      ih fun other hother => hsame other (List.mem_cons_of_mem _ hother)]

theorem mem_ancestorsFrom {bound : Nat} {ancestor : EntityType}
    (hancestor : ancestor ∈ source.ancestorsFrom bound path type) : ancestor ∈ source.types := by
  induction bound generalizing type path with
  | zero => cases hancestor
  | succ bound ih =>
    simp only [Hierarchy.ancestorsFrom] at hancestor
    cases hfound : source.parent? type with
    | none => simp [hfound] at hancestor
    | some parent =>
      simp only [hfound] at hancestor
      split_ifs at hancestor with honPath
      · cases hancestor
      · rcases List.mem_cons.mp hancestor with rfl | hrest
        · exact mem_types_of_parent? hfound
        · exact ih hrest

namespace Relabels

variable (hrelabels : source.Relabels target types ids)
include hrelabels

theorem beq_id (hpath : path ⊆ source.types) (hparent : parent ∈ source.types) :
    ∀ type ∈ path, ((types type).id == (types parent).id) = (type.id == parent.id) := by
  intro type htype
  rw [hrelabels.id, hrelabels.id, Bool.eq_iff_iff, beq_iff_eq, beq_iff_eq]
  exact ⟨hrelabels.injective type (hpath htype) parent hparent, congrArg ids⟩

theorem any_id (hpath : path ⊆ source.types) (hparent : parent ∈ source.types) :
    (path.map types).any (·.id == (types parent).id) = path.any (·.id == parent.id) := by
  rw [List.any_map, Bool.eq_iff_iff, List.any_eq_true, List.any_eq_true]
  refine exists_congr fun type => and_congr_right fun htype => ?_
  rw [Function.comp_apply, hrelabels.beq_id hpath hparent type htype]

/-! ### Ancestors -/

theorem ancestorsFrom {bound : Nat} (htype : type ∈ source.types) (hpath : path ⊆ source.types) :
    target.ancestorsFrom bound (path.map types) (types type) =
      (source.ancestorsFrom bound path type).map types := by
  induction bound generalizing type path with
  | zero => rfl
  | succ bound ih =>
    simp only [Hierarchy.ancestorsFrom, hrelabels.parent type htype]
    cases hfound : source.parent? type with
    | none => rfl
    | some parent =>
      have hparent := mem_types_of_parent? hfound
      simp only [Option.map_some, hrelabels.any_id hpath hparent]
      by_cases honPath : path.any (·.id == parent.id) = true
      · rw [if_pos honPath, if_pos honPath]
        rfl
      · rw [if_neg honPath, if_neg honPath, List.map_cons,
          ← ih hparent (List.cons_subset.mpr ⟨hparent, hpath⟩)]
        rfl

theorem ids_map (items : List EntityType) :
    (items.map types).map (·.id) = (items.map (·.id)).map ids := by
  rw [List.map_map, List.map_map]
  exact List.map_congr_left fun type _ => hrelabels.id type

/-! ### Warnings -/

theorem cycleIds (hpath : path ⊆ source.types) (hparent : parent ∈ source.types) :
    cycleIds (path.map types) (types parent) = (Hierarchy.cycleIds path parent).map ids := by
  have hreverse : path.reverse ⊆ source.types := fun type htype => hpath (List.mem_reverse.mp htype)
  have hdrop : (path.reverse.map types).dropWhile (·.id != (types parent).id) =
      (path.reverse.dropWhile (·.id != parent.id)).map types := by
    rw [List.dropWhile_map]
    refine congrArg _ (dropWhile_congr fun type htype => ?_)
    exact congrArg (!·) (hrelabels.beq_id hreverse hparent type htype)
  rw [Hierarchy.cycleIds, Hierarchy.cycleIds, ← List.map_reverse, hdrop, hrelabels.ids_map,
    List.map_append, hrelabels.id]
  rfl

theorem warning?_walkFrom (goal : EntityType) (htype : type ∈ source.types)
    (hpath : path ⊆ source.types) :
    (target.walkFrom [] (types type) (path.map types)).ending.warning? (types goal)
        target.maxDepth =
      ((source.walkFrom [] type path).ending.warning? goal source.maxDepth).map
        (Warning.relabeled ids) := by
  fun_induction source.walkFrom [] type path with
  | case1 type path hroot =>
    rw [walkFrom_eq, hrelabels.parentId, hroot]
    rfl
  | case2 type path parentId hparentId hnone =>
    rw [walkFrom_eq, hrelabels.parentId, hparentId, hrelabels.parent type htype, hnone]
    simp only [Option.map_some, Option.map_none, WalkEnd.warning?, Warning.relabeled, hrelabels.id]
  | case3 type path parentId hparentId parent hparent honPath =>
    have hmem := mem_types_of_parent? hparent
    rw [walkFrom_eq, hrelabels.parentId, hparentId, hrelabels.parent type htype, hparent]
    simp only [Option.map_some, hrelabels.any_id hpath hmem, honPath, if_true, WalkEnd.warning?,
      Warning.relabeled, hrelabels.cycleIds hpath hmem]
    rw [hrelabels.id]
  | case4 type path parentId hparentId parent hparent honPath kept hreuse => cases hreuse
  | case5 type path parentId hparentId parent hparent honPath hreuse hdeep =>
    have hmem := mem_types_of_parent? hparent
    have hnothing : ∀ distance id, target.reuse? [] distance id = none := fun _ _ => rfl
    rw [walkFrom_eq, hrelabels.parentId, hparentId, hrelabels.parent type htype, hparent]
    simp only [Option.map_some, hrelabels.any_id hpath hmem, honPath, Bool.false_eq_true, if_false,
      hnothing, hrelabels.depth, List.length_map, hdeep, if_true, WalkEnd.warning?,
      Warning.relabeled]
    rw [hrelabels.id]
  | case6 type path parentId hparentId parent hparent honPath hreuse hdeep _ ih =>
    have hmem := mem_types_of_parent? hparent
    have hnothing : ∀ distance id, target.reuse? [] distance id = none := fun _ _ => rfl
    rw [← ih hmem (List.cons_subset.mpr ⟨hmem, hpath⟩), walkFrom_eq, hrelabels.parentId, hparentId,
      hrelabels.parent type htype, hparent]
    simp only [Option.map_some, hrelabels.any_id hpath hmem, honPath, Bool.false_eq_true, if_false,
      hnothing, hrelabels.depth, List.length_map, hdeep, List.map_cons]

theorem alarm? (htype : type ∈ source.types) :
    target.alarm? (types type) = (source.alarm? type).map (Warning.relabeled ids) :=
  @warning?_walkFrom _ _ _ _ _ [type] hrelabels type htype (by simpa using htype)

/-- Two types have the same thing out of order when they have under the other ids. -/
theorem relabeled_injective (hknown : ∀ type ∈ source.types, source.Knows type)
    {first second : EntityType} (hfirst : first ∈ source.types) (hsecond : second ∈ source.types)
    {warning other : Warning} (hwarning : source.alarm? first = some warning)
    (hother : source.alarm? second = some other)
    (hsame : warning.relabeled ids = other.relabeled ids) : warning = other := by
  have heq : ∀ type ∈ source.types, ∀ child ∈ source.types, ids type.id = ids child.id →
      type = child := by
    intro type htype child hchild hids
    have hfound := hknown type htype
    rw [Knows, hrelabels.injective type htype child hchild hids, hknown child hchild] at hfound
    exact (Option.some.inj hfound).symm
  rcases alarm?_eq_some hfirst hwarning with ⟨child, hchild, parentId, hparentId, rfl⟩ | rfl |
    ⟨cycle, rfl⟩ <;>
  rcases alarm?_eq_some hsecond hother with ⟨child', hchild', parentId', hparentId', rfl⟩ | rfl |
    ⟨cycle', rfl⟩ <;>
  simp only [Warning.relabeled, Warning.danglingParent.injEq, Warning.depthExceeded.injEq,
    Warning.inheritanceCycle.injEq, reduceCtorEq] at hsame
  · obtain rfl := heq child hchild child' hchild' hsame.1
    rw [Option.some.inj (hparentId.symm.trans hparentId')]
  · rw [hrelabels.injective first hfirst second hsecond hsame.1]
  · obtain rfl := heq first hfirst second hsecond hsame.1
    exact Option.some.inj (hwarning.symm.trans hother)

end Relabels

theorem relabeled_id (warning : Warning) : warning.relabeled (fun id => id) = warning := by
  cases warning <;> simp only [Warning.relabeled, List.map_id']

/-- What is out of order follows from the types alone. -/
theorem alarm?_congr (htypes : target.types = source.types)
    (hdepth : target.maxDepth = source.maxDepth) (htype : type ∈ source.types) :
    target.alarm? type = source.alarm? type := by
  have hrelabels : source.Relabels target (fun type => type) fun id => id := by
    refine ⟨hdepth, fun _ => rfl, fun type => ?_, fun _ _ _ _ hsame => hsame, fun type _ => ?_⟩
    · rw [Option.map_id']
    · rw [Option.map_id', parent?, parent?]
      simp only [type?, htypes]
  rw [hrelabels.alarm? htype]
  exact (Option.map_congr fun warning _ => relabeled_id warning).trans Option.map_id'

namespace Renames

variable (hrenames : source.Renames target types fields ids)
include hrenames

theorem lineageOf (htype : type ∈ source.types) (hknown : source.Knows type) :
    target.lineageOf (ids type.id) = (source.lineageOf type.id).map ids := by
  have hpath : [type] ⊆ source.types := by simpa using htype
  rw [Hierarchy.lineageOf, hrenames.known type htype, Hierarchy.lineageOf, hknown,
    ← hrenames.ids_map]
  dsimp only
  rw [ancestors, ancestors, hrenames.depth]
  exact congrArg _ (hrenames.toRelabels.ancestorsFrom htype hpath)

/-! ### Fields -/

theorem nearest? {chain : List EntityType} (hchain : chain ⊆ source.types) (name : String) :
    target.nearest? ((chain.map (·.id)).map ids) name =
      (source.nearest? (chain.map (·.id)) name).map fields := by
  induction chain with
  | nil => rfl
  | cons type rest ih =>
    obtain ⟨htype, hrest⟩ := List.cons_subset.mp hchain
    have hown := hrenames.own type htype name
    have hothers := ih hrest
    simp only [Hierarchy.nearest?, List.map_cons, List.findSome?_cons] at hothers ⊢
    rw [hown]
    cases (source.own type.id).findRev? (·.name == name) with
    | none => exact hothers
    | some field => rfl

theorem effectiveFields {chain : List EntityType} (hchain : chain ⊆ source.types) :
    target.effectiveFields ((chain.map (·.id)).map ids) =
      (source.effectiveFields (chain.map (·.id))).map fields := by
  have hshows : ∀ first second, (fields first).showsBefore (fields second) =
      first.showsBefore second := by
    intro first second
    rw [Field.showsBefore, Field.showsBefore, hrenames.order, hrenames.order, hrenames.name,
      hrenames.name]
  refine (eq_effectiveFields (fun field => ?_) ?_ ?_).symm
  · rw [hrenames.nearest? hchain]
    constructor
    · intro hmem
      obtain ⟨original, horiginal, rfl⟩ := List.mem_map.mp hmem
      rw [hrenames.name, mem_effectiveFields.mp horiginal]
      rfl
    · intro hnearest
      obtain ⟨original, horiginal, rfl⟩ := Option.map_eq_some_iff.mp hnearest
      rw [hrenames.name] at horiginal
      exact List.mem_map_of_mem (mem_effectiveFields.mpr horiginal)
  · have hnames : ((source.effectiveFields (chain.map (·.id))).map fields).map (·.name) =
        (source.effectiveFields (chain.map (·.id))).map (·.name) := by
      rw [List.map_map]
      exact List.map_congr_left fun field _ => hrenames.name field
    exact List.Nodup.of_map (·.name) (hnames ▸ nodup_names_effectiveFields _)
  · refine List.pairwise_map.mpr ((pairwise_effectiveFields _).imp fun hbefore => ?_)
    rw [hshows]
    exact hbefore

/-- A type has the same fields and the same lineage. -/
theorem effective (htype : type ∈ source.types) (hknown : source.Knows type) :
    target.effective (ids type.id) =
      ⟨(source.effective type.id).fields.map fields,
        (source.effective type.id).lineage.map ids⟩ := by
  have hlineage := hrenames.lineageOf htype hknown
  have hchain : source.lineageOf type.id = (source.ancestors type).map (·.id) := by
    rw [Hierarchy.lineageOf, hknown]
  have hmem : type :: source.ancestors type ⊆ source.types :=
    List.cons_subset.mpr ⟨htype, fun ancestor hancestor => mem_ancestorsFrom hancestor⟩
  have hfields := hrenames.effectiveFields hmem
  rw [Hierarchy.effective, Hierarchy.effective, hlineage]
  rw [List.map_cons, List.map_cons, ← hchain] at hfields
  rw [hfields]

end Renames

end Hierarchy

end KnowledgeSchema
