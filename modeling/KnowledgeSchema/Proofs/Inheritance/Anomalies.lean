import KnowledgeSchema.Proofs.Inheritance.Chains

/-!
# Anomalies of chains

What is out of order with a type is said of its chain alone, the type and its ancestors as they are
followed without a memo: the parent named at the end of the chain is not there, stands on the chain
already, or is one too many. A resolver tells exactly the anomalies of the types it was asked for,
each of them once, whatever the order.

A larger bound lets a type inherit from more ancestors. They come behind the ones that it has
already, and the nearest declaration of a name counts, so nothing that the type has is lost or
changed, and whatever it gets comes from the ancestors that are new.
-/

namespace KnowledgeSchema

namespace Hierarchy

variable {hierarchy : Hierarchy} {target current last parent : EntityType}
  {path : List EntityType} {ending : WalkEnd} {warning : Warning}

/-- A type and its ancestors, nearest first. -/
def chain (hierarchy : Hierarchy) (target : EntityType) : List EntityType :=
  target :: hierarchy.ancestors target

/-- What is out of order at the end of the chain of a type. An id names the type that stands under
it, and a parent is of the version of its child. -/
inductive IsAnomaly (hierarchy : Hierarchy) (target : EntityType) : Warning → Prop where
  /-- The last type of the chain names a parent that no type of its version is. -/
  | dangling {last : EntityType} {parentId : String}
      (hlast : (hierarchy.chain target).getLast? = some last)
      (hnamed : last.parentId = some parentId)
      (hmissing : ¬∃ parent, hierarchy.type? parentId = some parent ∧
        parent.versionId = last.versionId) :
      IsAnomaly hierarchy target (.danglingParent last.id parentId)
  /-- The parent of the last type is on the chain. -/
  | cycle {last repeated : EntityType} {before after : List EntityType}
      (hlast : (hierarchy.chain target).getLast? = some last)
      (hparent : hierarchy.parent? last = some repeated)
      (hchain : hierarchy.chain target = before ++ repeated :: after) :
      IsAnomaly hierarchy target
        (.inheritanceCycle target.id ((repeated :: after).map (·.id) ++ [repeated.id]))
  /-- There are as many ancestors as may be, and the last one has a parent that is not among them. -/
  | depth {last parent : EntityType}
      (hlast : (hierarchy.chain target).getLast? = some last)
      (hparent : hierarchy.parent? last = some parent) (hoff : parent ∉ hierarchy.chain target)
      (hfull : (hierarchy.ancestors target).length = hierarchy.maxDepth.toNat) :
      IsAnomaly hierarchy target (.depthExceeded target.id hierarchy.maxDepth)

/-! ### The end of a walk -/

/-- Why a walk without a memo goes no further than the last type of its path. -/
inductive Halts (hierarchy : Hierarchy) (path : List EntityType) (last : EntityType) :
    WalkEnd → Prop where
  | root (hroot : last.parentId = none) : Halts hierarchy path last .root
  | dangling {parentId : String} (hnamed : last.parentId = some parentId)
      (hnone : hierarchy.parent? last = none) : Halts hierarchy path last (.dangling last parentId)
  | cycle {parent : EntityType} (hparent : hierarchy.parent? last = some parent)
      (hon : path.any (·.id == parent.id) = true) :
      Halts hierarchy path last (.cycle (cycleIds path parent))
  | tooDeep {parent : EntityType} (hparent : hierarchy.parent? last = some parent)
      (hoff : path.any (·.id == parent.id) = false)
      (hdeep : hierarchy.maxDepth.toNat < path.length) : Halts hierarchy path last .tooDeep

theorem walkFrom_halts (hhead : path.head? = some current) :
    let walk := hierarchy.walkFrom [] current path
    ∃ last, walk.path.head? = some last ∧ hierarchy.Halts walk.path last walk.ending := by
  fun_induction hierarchy.walkFrom [] current path with
  | case1 current path hroot => exact ⟨current, hhead, .root hroot⟩
  | case2 current path parentId hnamed hnone => exact ⟨current, hhead, .dangling hnamed hnone⟩
  | case3 current path parentId _ parent hparent hon => exact ⟨current, hhead, .cycle hparent hon⟩
  | case4 current path parentId _ parent _ _ kept hreuse => cases (reuse?_eq_some hreuse).1
  | case5 current path parentId _ parent hparent hon _ hdeep =>
    exact ⟨current, hhead, .tooDeep hparent (Bool.eq_false_iff.mpr hon) hdeep⟩
  | case6 current path parentId _ parent _ _ _ _ _ ih => exact ih rfl

/-- A walk without a memo goes along the ancestors. -/
theorem path_walkFrom (hroom : path.length ≤ hierarchy.maxDepth.toNat + 1) :
    (hierarchy.walkFrom [] current path).path =
      (hierarchy.ancestorsFrom (hierarchy.maxDepth.toNat + 1 - path.length) path current).reverse ++
        path := by
  fun_induction hierarchy.walkFrom [] current path with
  | case1 current path hroot => rw [ancestorsFrom_of_parent?_none (parent?_eq_none_of_root hroot)]; rfl
  | case2 current path parentId _ hnone => rw [ancestorsFrom_of_parent?_none hnone]; rfl
  | case3 current path parentId _ parent hparent hon =>
    rw [ancestorsFrom_of_onPath hparent hon]
    rfl
  | case4 current path parentId _ parent _ _ kept hreuse => cases (reuse?_eq_some hreuse).1
  | case5 current path parentId _ parent _ _ _ hdeep =>
    have hbound : hierarchy.maxDepth.toNat + 1 - path.length = 0 := by omega
    rw [hbound]
    rfl
  | case6 current path parentId _ parent hparent hon _ hdeep _ ih =>
    have hbound : hierarchy.maxDepth.toNat + 1 - path.length =
        hierarchy.maxDepth.toNat + 1 - (parent :: path).length + 1 := by
      simp only [List.length_cons]
      omega
    rw [ih (by simp only [List.length_cons]; omega), hbound]
    simp only [ancestorsFrom, hparent, hon, Bool.false_eq_true, if_false, List.reverse_cons,
      List.append_assoc, List.singleton_append]

theorem reverse_path_walk (target : EntityType) :
    (hierarchy.walk [] target).path.reverse = hierarchy.chain target := by
  have hpath := @path_walkFrom hierarchy target [target] (by simp)
  rw [walk, hpath, List.reverse_append, List.reverse_reverse]
  rfl

theorem nodup_ancestorsFrom (bound : Nat) (hnodup : (path.map (·.id)).Nodup) :
    (((hierarchy.ancestorsFrom bound path current).reverse ++ path).map (·.id)).Nodup := by
  induction bound generalizing current path with
  | zero => exact hnodup
  | succ bound ih =>
    rw [ancestorsFrom]
    cases hparent : hierarchy.parent? current with
    | none => exact hnodup
    | some parent =>
      dsimp only
      split_ifs with hon
      · exact hnodup
      · have hfresh : parent.id ∉ path.map (·.id) := by simpa using hon
        rw [List.reverse_cons, List.append_assoc]
        exact ih (List.nodup_cons.mpr ⟨hfresh, hnodup⟩)

/-- No chain holds an id twice. -/
theorem nodup_chain (target : EntityType) : ((hierarchy.chain target).map (·.id)).Nodup := by
  have hnodup := @nodup_ancestorsFrom hierarchy target [target] hierarchy.maxDepth.toNat
    (List.nodup_singleton _)
  rw [← List.nodup_reverse, ← List.map_reverse, List.reverse_append, List.reverse_reverse] at hnodup
  exact hnodup

theorem length_ancestorsFrom_le (bound : Nat) :
    (hierarchy.ancestorsFrom bound path current).length ≤ bound := by
  induction bound generalizing current path with
  | zero => exact Nat.le_refl _
  | succ bound ih =>
    rw [ancestorsFrom]
    cases hierarchy.parent? current with
    | none => exact Nat.zero_le _
    | some parent =>
      dsimp only
      split_ifs
      · exact Nat.zero_le _
      · exact Nat.succ_le_succ ih

theorem length_ancestors_le (hierarchy : Hierarchy) (target : EntityType) :
    (hierarchy.ancestors target).length ≤ hierarchy.maxDepth.toNat :=
  length_ancestorsFrom_le _

/-! ### What is out of order -/

theorem parent?_eq_none_iff {parentId : String} (hnamed : last.parentId = some parentId) :
    hierarchy.parent? last = none ↔
      ¬∃ parent, hierarchy.type? parentId = some parent ∧ parent.versionId = last.versionId := by
  simp only [parent?, hnamed, Option.bind_some, Option.filter_eq_none_iff, beq_iff_eq, not_exists,
    not_and]

theorem IsPath.any_id (hpath : hierarchy.IsPath path) (hknown : hierarchy.Knows parent) :
    path.any (·.id == parent.id) = true ↔ parent ∈ path := by
  rw [List.any_eq_true]
  constructor
  · rintro ⟨other, hother, hid⟩
    rwa [(hpath.2 other hother).eq hknown (beq_iff_eq.mp hid)] at hother
  · exact fun hmem => ⟨parent, hmem, beq_self_eq_true _⟩

/-- The ids of a cycle start at the type that is met again. -/
theorem cycleIds_eq {before after : List EntityType}
    (hsplit : path.reverse = before ++ parent :: after) (hnodup : (path.reverse.map (·.id)).Nodup) :
    cycleIds path parent = (parent :: after).map (·.id) ++ [parent.id] := by
  have hbefore : ∀ type ∈ before, (type.id != parent.id) = true := by
    intro type htype
    rw [hsplit, List.map_append, List.nodup_append] at hnodup
    exact bne_iff_ne.mpr (hnodup.2.2 _ (List.mem_map_of_mem htype) _ (by simp))
  rw [cycleIds, hsplit, List.dropWhile_append_of_pos hbefore, List.dropWhile_cons_of_neg (by simp)]

/-- The parent that a walk stops at is on its path when it is in the chain. -/
theorem IsPath.any_id_chain (hpath : hierarchy.IsPath path)
    (hchain : path.reverse = hierarchy.chain target) (hparent : hierarchy.parent? last = some parent) :
    path.any (·.id == parent.id) = true ↔ parent ∈ hierarchy.chain target := by
  rw [hpath.any_id (type?_of_parent? hparent), ← hchain, List.mem_reverse]

theorem Halts.isAnomaly (hhalts : hierarchy.Halts path last ending)
    (hpath : hierarchy.IsPath path) (hchain : path.reverse = hierarchy.chain target)
    (hlast : (hierarchy.chain target).getLast? = some last)
    (hwarning : ending.warning? target hierarchy.maxDepth = some warning) :
    hierarchy.IsAnomaly target warning := by
  cases hhalts with
  | root => cases hwarning
  | dangling hnamed hnone =>
    cases hwarning
    exact .dangling hlast hnamed ((parent?_eq_none_iff hnamed).mp hnone)
  | cycle hparent hon =>
    cases hwarning
    obtain ⟨before, after, hsplit⟩ :=
      List.append_of_mem ((hpath.any_id_chain hchain hparent).mp hon)
    rw [cycleIds_eq (hchain.trans hsplit) (hchain ▸ hierarchy.nodup_chain target)]
    exact .cycle hlast hparent hsplit
  | tooDeep hparent hoff hdeep =>
    cases hwarning
    have hlength : path.length = (hierarchy.ancestors target).length + 1 := by
      rw [← List.length_reverse, hchain]
      rfl
    have hbound := hierarchy.length_ancestors_le target
    exact .depth hlast hparent
      (mt (hpath.any_id_chain hchain hparent).mpr (Bool.eq_false_iff.mp hoff)) (by omega)

/-- A walk that ends otherwise than the anomaly of its chain says would have had another last type, or
another parent of it. -/
theorem Halts.warning?_of_isAnomaly (hhalts : hierarchy.Halts path last ending)
    (hpath : hierarchy.IsPath path) (hchain : path.reverse = hierarchy.chain target)
    (hlast : (hierarchy.chain target).getLast? = some last)
    (hanomaly : hierarchy.IsAnomaly target warning) :
    ending.warning? target hierarchy.maxDepth = some warning := by
  have hend : ∀ {other}, (hierarchy.chain target).getLast? = some other → last = other :=
    fun hother => Option.some.inj (hlast.symm.trans hother)
  cases hanomaly with
  | dangling hother hnamed hmissing =>
    obtain rfl := hend hother
    have hnone := (parent?_eq_none_iff hnamed).mpr hmissing
    cases hhalts with
    | root hroot => rw [hroot] at hnamed; cases hnamed
    | dangling hnamed' => rw [hnamed] at hnamed'; cases hnamed'; rfl
    | cycle hparent | tooDeep hparent => rw [hnone] at hparent; cases hparent
  | cycle hother hparent hsplit =>
    obtain rfl := hend hother
    have hon := (hpath.any_id_chain hchain hparent).mpr (by simp [hsplit])
    cases hhalts with
    | root hroot => rw [parent?_eq_none_of_root hroot] at hparent; cases hparent
    | dangling _ hnone => rw [hnone] at hparent; cases hparent
    | cycle hparent' =>
      rw [hparent] at hparent'
      cases hparent'
      rw [cycleIds_eq (hchain.trans hsplit) (hchain ▸ hierarchy.nodup_chain target)]
      rfl
    | tooDeep hparent' hoff =>
      rw [hparent] at hparent'
      cases hparent'
      rw [hoff] at hon
      cases hon
  | depth hother hparent hoff hfull =>
    obtain rfl := hend hother
    cases hhalts with
    | root hroot => rw [parent?_eq_none_of_root hroot] at hparent; cases hparent
    | dangling _ hnone => rw [hnone] at hparent; cases hparent
    | cycle hparent' hon =>
      rw [hparent] at hparent'
      cases hparent'
      exact absurd ((hpath.any_id_chain hchain hparent).mp hon) hoff
    | tooDeep => rfl

/-- The warning that a walk ends with is the anomaly of the chain walked. -/
theorem Halts.warning?_eq_some (hhalts : hierarchy.Halts path last ending)
    (hpath : hierarchy.IsPath path) (hchain : path.reverse = hierarchy.chain target)
    (hhead : path.head? = some last) :
    ending.warning? target hierarchy.maxDepth = some warning ↔
      hierarchy.IsAnomaly target warning := by
  have hlast : (hierarchy.chain target).getLast? = some last := by
    rw [← hchain, List.getLast?_reverse, hhead]
  exact ⟨hhalts.isAnomaly hpath hchain hlast, hhalts.warning?_of_isAnomaly hpath hchain hlast⟩

theorem alarm?_eq_some_iff (hknown : hierarchy.Knows target) :
    hierarchy.alarm? target = some warning ↔ hierarchy.IsAnomaly target warning := by
  have hpath : hierarchy.IsPath [target] := ⟨.singleton _, by simpa using hknown⟩
  obtain ⟨above, hfinds⟩ := walkFrom_finds trusts_nil target [] hpath (Nat.zero_le _)
  obtain ⟨last, hhead, hhalts⟩ := @walkFrom_halts hierarchy target [target] rfl
  exact hhalts.warning?_eq_some hfinds.isPath (hierarchy.reverse_path_walk target) hhead

end Hierarchy

/-! ### One resolution after another -/

namespace Resolver

variable {hierarchy : Hierarchy} {resolver : Resolver} {resolved : List EntityType}

/-- An id that no type stands under leaves a resolver as it was. -/
theorem resolve_of_unknown {id : String} (hunknown : hierarchy.type? id = none) :
    (resolver.resolve hierarchy id).2 = resolver := by
  rw [resolve, hunknown]
  split
  · rfl
  · rfl

theorem Tells.resolveAll (htells : resolver.Tells hierarchy resolved) (ids : List String) :
    (resolver.resolveAll hierarchy ids).2.Tells hierarchy
      (resolved ++ ids.filterMap hierarchy.type?) := by
  induction ids generalizing resolver resolved with
  | nil => rwa [List.filterMap_nil, List.append_nil]
  | cons id rest ih =>
    cases hfound : hierarchy.type? id with
    | none =>
      have hsame := @resolve_of_unknown hierarchy resolver id hfound
      rw [List.filterMap_cons_none hfound]
      exact ih (hsame.symm ▸ htells)
    | some type =>
      have hfirst := htells.resolve (Hierarchy.knows_of_type? hfound)
      rw [Hierarchy.id_of_type? hfound] at hfirst
      rw [List.filterMap_cons_some hfound, List.append_cons]
      exact ih hfirst

/-- One resolver, asked for any ids in any order, has told every anomaly of a chain of a type it was
asked for, each of them once, and nothing else. -/
theorem warnings_resolveAll (hierarchy : Hierarchy) (ids : List String) :
    (resolveAll hierarchy {} ids).2.warnings.Nodup ∧
      (∀ warning, warning ∈ (resolveAll hierarchy {} ids).2.warnings ↔
        ∃ id ∈ ids, ∃ target, hierarchy.type? id = some target ∧
          hierarchy.IsAnomaly target warning) ∧
      ∀ others : List String, (∀ id, id ∈ others ↔ id ∈ ids) →
        (resolveAll hierarchy {} others).2.warnings.Perm
          (resolveAll hierarchy {} ids).2.warnings := by
  have hnodup : ∀ ids, (resolveAll hierarchy {} ids).2.warnings.Nodup := fun ids => by
    rw [(tells_nil.resolveAll ids).warnings]
    exact nodup_eraseDups _
  have hmem : ∀ ids warning, warning ∈ (resolveAll hierarchy {} ids).2.warnings ↔
      ∃ id ∈ ids, ∃ target, hierarchy.type? id = some target ∧
        hierarchy.IsAnomaly target warning := fun ids warning => by
    rw [(tells_nil.resolveAll ids).warnings, List.mem_eraseDups, List.nil_append]
    simp only [List.mem_filterMap]
    constructor
    · rintro ⟨target, ⟨id, hid, hfound⟩, halarm⟩
      exact ⟨id, hid, target, hfound,
        (Hierarchy.alarm?_eq_some_iff (Hierarchy.knows_of_type? hfound)).mp halarm⟩
    · rintro ⟨id, hid, target, hfound, hanomaly⟩
      exact ⟨target, ⟨id, hid, hfound⟩,
        (Hierarchy.alarm?_eq_some_iff (Hierarchy.knows_of_type? hfound)).mpr hanomaly⟩
  refine ⟨hnodup ids, hmem ids, fun others hsame => ?_⟩
  refine (List.perm_ext_iff_of_nodup (hnodup others) (hnodup ids)).mpr fun warning => ?_
  rw [hmem, hmem]
  simp only [hsame]

end Resolver

/-! ### Larger bounds -/

/-- What a type has under a bound, set against what it has under a larger one. -/
structure ResolvedFields.IsCutAt (few many : ResolvedFields) (own : String → List Field)
    (bound : Nat) : Prop where
  nearest : few.lineage <+: many.lineage
  length : few.lineage.length = min bound many.lineage.length
  /-- Every name that is visible under the bound stands for the same field under the larger one. -/
  kept : few.fields ⊆ many.fields
  names : (few.fields.map (·.name)).Nodup ∧ (many.fields.map (·.name)).Nodup
  /-- Whatever else there is comes from an ancestor beyond the bound. -/
  added : ∀ field ∈ many.fields, field ∉ few.fields →
    field.name ∉ few.fields.map (·.name) ∧
      ∃ ancestor ∈ many.lineage.drop bound, field ∈ own ancestor

namespace Hierarchy

/-- The same types and fields under another bound. -/
def within (hierarchy : Hierarchy) (maxDepth : UInt64) : Hierarchy :=
  { hierarchy with maxDepth }

variable {hierarchy : Hierarchy}

/-- A smaller bound cuts off the ancestors that it leaves no room for, and no others. -/
theorem ancestorsFrom_eq_take {bound wider : Nat} (hle : bound ≤ wider) (path : List EntityType)
    (current : EntityType) :
    hierarchy.ancestorsFrom bound path current =
      (hierarchy.ancestorsFrom wider path current).take bound := by
  induction bound generalizing wider path current with
  | zero => rfl
  | succ bound ih =>
    obtain ⟨rest, rfl⟩ : ∃ rest, wider = rest + 1 := ⟨wider - 1, by omega⟩
    rw [ancestorsFrom, ancestorsFrom]
    cases hierarchy.parent? current with
    | none => rfl
    | some parent =>
      dsimp only
      split_ifs with hon
      · rfl
      · rw [List.take_succ_cons, ih (Nat.le_of_succ_le_succ hle)]

theorem ancestorsFrom_within (maxDepth : UInt64) (bound : Nat) (path : List EntityType)
    (current : EntityType) :
    (hierarchy.within maxDepth).ancestorsFrom bound path current =
      hierarchy.ancestorsFrom bound path current := by
  induction bound generalizing path current with
  | zero => rfl
  | succ bound ih =>
    have hparent : (hierarchy.within maxDepth).parent? current = hierarchy.parent? current := rfl
    rw [ancestorsFrom, ancestorsFrom, hparent]
    cases hierarchy.parent? current with
    | none => rfl
    | some parent => exact congrArg (ite _ [] <| parent :: ·) (ih _ _)

theorem ancestors_within (maxDepth : UInt64) (target : EntityType) :
    (hierarchy.within maxDepth).ancestors target =
      hierarchy.ancestorsFrom maxDepth.toNat [target] target :=
  ancestorsFrom_within maxDepth maxDepth.toNat [target] target

theorem lineageOf_within {shallow deep : UInt64} (hle : shallow ≤ deep) (id : String) :
    (hierarchy.within shallow).lineageOf id =
      ((hierarchy.within deep).lineageOf id).take shallow.toNat := by
  have htype : ∀ maxDepth, (hierarchy.within maxDepth).type? id = hierarchy.type? id :=
    fun _ => rfl
  rw [lineageOf, lineageOf, htype, htype]
  cases hierarchy.type? id with
  | none => exact List.take_nil.symm
  | some target =>
    dsimp only
    rw [ancestors_within, ancestors_within,
      ancestorsFrom_eq_take (UInt64.le_iff_toNat_le.mp hle), List.map_take]

/-- Types beyond others only matter for names that none of those declares. -/
theorem nearest?_append (ids others : List String) (name : String) :
    hierarchy.nearest? (ids ++ others) name =
      (hierarchy.nearest? ids name).or (hierarchy.nearest? others name) :=
  List.findSome?_append

theorem effectiveFields_subset_append (ids others : List String) :
    hierarchy.effectiveFields ids ⊆ hierarchy.effectiveFields (ids ++ others) := by
  intro field hfield
  rw [mem_effectiveFields] at hfield ⊢
  rw [nearest?_append, hfield, Option.some_or]

theorem mem_effectiveFields_append {ids others : List String} {field : Field}
    (hfield : field ∈ hierarchy.effectiveFields (ids ++ others))
    (hnew : field ∉ hierarchy.effectiveFields ids) :
    field.name ∉ (hierarchy.effectiveFields ids).map (·.name) ∧
      ∃ id ∈ others, field ∈ hierarchy.own id := by
  rw [mem_effectiveFields, nearest?_append] at hfield
  cases hnearest : hierarchy.nearest? ids field.name with
  | some nearer =>
    rw [hnearest, Option.some_or] at hfield
    exact absurd (mem_effectiveFields.mpr (hnearest.trans hfield)) hnew
  | none =>
    rw [hnearest, Option.none_or] at hfield
    refine ⟨fun hname => ?_, mem_own_of_nearest? hfield⟩
    obtain ⟨nearer, hnearer, hsame⟩ := List.mem_map.mp hname
    rw [mem_effectiveFields, hsame, hnearest] at hnearer
    cases hnearer

theorem effective_within {shallow deep : UInt64} (hle : shallow ≤ deep) (id : String) :
    ((hierarchy.within shallow).effective id).IsCutAt ((hierarchy.within deep).effective id)
      hierarchy.own shallow.toNat := by
  generalize hmany : (hierarchy.within deep).lineageOf id = many
  have hfew : (hierarchy.within shallow).lineageOf id = many.take shallow.toNat :=
    hmany ▸ lineageOf_within hle id
  have hchain : id :: many = (id :: many.take shallow.toNat) ++ many.drop shallow.toNat := by
    rw [List.cons_append, List.take_append_drop]
  -- What a list of types comes to does not depend on the bound.
  have hfields : ∀ (maxDepth : UInt64) (ids : List String),
      (hierarchy.within maxDepth).effectiveFields ids = hierarchy.effectiveFields ids :=
    fun _ _ => rfl
  rw [effective, effective, hmany, hfew, hfields, hfields]
  refine ⟨List.take_prefix _ _, List.length_take, ?_, ⟨?_, ?_⟩, fun field hfield hnew => ?_⟩
  · dsimp only
    rw [hchain]
    exact effectiveFields_subset_append _ _
  · exact nodup_names_effectiveFields _
  · exact nodup_names_effectiveFields _
  · dsimp only at hfield hnew
    rw [hchain] at hfield
    exact mem_effectiveFields_append hfield hnew

end Hierarchy

namespace Resolver

/-- What a resolver answers to a call after others. -/
theorem resolve_after (hierarchy : Hierarchy) (earlier : List String) (id : String) :
    ((resolveAll hierarchy {} earlier).2.resolve hierarchy id).1 = hierarchy.effective id :=
  ((resolveAll_of_trusts Hierarchy.trusts_nil earlier).2.resolve id).1

/-- Two resolvers for the same types, each asked for any ids before: what the one with the smaller
bound answers is what the other one answers, cut off behind as many ancestors as the smaller bound
allows. -/
theorem resolve_within (hierarchy : Hierarchy) {shallow deep : UInt64} (hle : shallow ≤ deep)
    (earlier others : List String) (id : String) :
    ((resolveAll (hierarchy.within shallow) {} earlier).2.resolve
        (hierarchy.within shallow) id).1.IsCutAt
      ((resolveAll (hierarchy.within deep) {} others).2.resolve (hierarchy.within deep) id).1
      hierarchy.own shallow.toNat := by
  rw [resolve_after, resolve_after]
  exact Hierarchy.effective_within hle id

/-! ### Three types in a line -/

def line : Hierarchy where
  types :=
    [.new "a" "v" .item, { EntityType.new "b" "v" .item with parentId := some "a" },
      { EntityType.new "c" "v" .item with parentId := some "b" }]
  own id := [.new id id id .text]
  maxDepth := defaultMaxDepth

theorem resolve_within_line :
    (1 : UInt64) ≤ 2 ∧
      ((resolveAll (line.within 1) {} ["b"]).2.resolve (line.within 1) "c").1.IsCutAt
        ((resolveAll (line.within 2) {} ["a", "x"]).2.resolve (line.within 2) "c").1 line.own 1 :=
  ⟨by decide, resolve_within line (by decide) ["b"] ["a", "x"] "c"⟩

end Resolver

end KnowledgeSchema
