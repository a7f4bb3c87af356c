import KnowledgeSchema.Proofs.Inheritance.Reference

/-!
# The memo of a resolver

A resolver keeps what it has worked out and starts from it the next time. The invariant: whatever is
kept for a type belongs to a complete ascent that the bound leaves room for. A walk that reuses it
then sees the ancestors that it would have found without the memo, and a walk that a cycle or the
bound cuts short keeps nothing.

A type whose ancestors come to an end, at a root or below a parent that is not there, has them as a
list. That list is unique and holds no type twice, so the ancestors of such a type are the list
itself wherever the bound leaves room for it.
-/

namespace KnowledgeSchema

/-! ### Complete ascents -/

namespace Hierarchy

variable {hierarchy : Hierarchy}

/-- All ancestors of a type, nearest first, up to one that has no parent. -/
inductive Ascent (hierarchy : Hierarchy) : EntityType → List EntityType → Prop where
  | top {type : EntityType} (hnone : hierarchy.parent? type = none) : Ascent hierarchy type []
  | step {type parent : EntityType} {above : List EntityType}
      (hparent : hierarchy.parent? type = some parent) (hrest : Ascent hierarchy parent above) :
      Ascent hierarchy type (parent :: above)

/-- A type that stands under its own id. -/
def Knows (hierarchy : Hierarchy) (type : EntityType) : Prop :=
  hierarchy.type? type.id = some type

theorem id_of_type? {id : String} {type : EntityType} (hfound : hierarchy.type? id = some type) :
    type.id = id := by
  simpa using List.find?_some hfound

theorem knows_of_type? {id : String} {type : EntityType}
    (hfound : hierarchy.type? id = some type) : hierarchy.Knows type := by
  rw [Knows, id_of_type? hfound, hfound]

theorem type?_of_parent? {type parent : EntityType}
    (hparent : hierarchy.parent? type = some parent) : hierarchy.type? parent.id = some parent := by
  simp only [parent?, Option.bind_eq_some_iff, Option.filter_eq_some_iff] at hparent
  obtain ⟨parentId, -, hfound, -⟩ := hparent
  rw [id_of_type? hfound, hfound]

/-- Types that are told apart by their ids stand under them. -/
theorem knows_of_nodup (hnodup : (hierarchy.types.map (·.id)).Nodup)
    {type : EntityType} (hmem : type ∈ hierarchy.types) : hierarchy.Knows type := by
  cases hfound : hierarchy.type? type.id with
  | none =>
    have hnone := List.find?_eq_none.mp hfound type (List.mem_reverse.mpr hmem)
    simp at hnone
  | some other =>
    have hother : other ∈ hierarchy.types :=
      List.mem_reverse.mp (List.mem_of_find?_eq_some hfound)
    rw [Knows, hfound,
      List.inj_on_of_nodup_map hnodup hother hmem (id_of_type? hfound)]

theorem Knows.eq {first second : EntityType} (hfirst : hierarchy.Knows first)
    (hsecond : hierarchy.Knows second) (hid : first.id = second.id) : first = second := by
  rw [Knows, hid, hsecond] at hfirst
  exact (Option.some.inj hfirst).symm

theorem Ascent.unique {type : EntityType} {above other : List EntityType}
    (habove : hierarchy.Ascent type above) (hother : hierarchy.Ascent type other) :
    above = other := by
  induction habove generalizing other with
  | top hnone =>
    cases hother with
    | top => rfl
    | step hparent => rw [hnone] at hparent; cases hparent
  | step hparent _ ih =>
    cases hother with
    | top hnone => rw [hparent] at hnone; cases hnone
    | step hparent' hrest =>
      rw [hparent] at hparent'
      cases hparent'
      rw [ih hrest]

theorem Ascent.knows {type ancestor : EntityType} {above : List EntityType}
    (habove : hierarchy.Ascent type above) (hmem : ancestor ∈ above) :
    hierarchy.Knows ancestor := by
  induction habove with
  | top => cases hmem
  | step hparent _ ih =>
    rcases List.mem_cons.mp hmem with rfl | hmem
    · exact type?_of_parent? hparent
    · exact ih hmem

theorem Ascent.of_mem {type ancestor : EntityType} {above : List EntityType}
    (habove : hierarchy.Ascent type above) (hmem : ancestor ∈ above) :
    ∃ rest, hierarchy.Ascent ancestor rest ∧ rest.length < above.length := by
  induction habove with
  | top => cases hmem
  | step _ hrest ih =>
    rcases List.mem_cons.mp hmem with rfl | hmem
    · exact ⟨_, hrest, by simp⟩
    · obtain ⟨rest, hascent, hlength⟩ := ih hmem
      exact ⟨rest, hascent, by simp only [List.length_cons]; omega⟩

theorem Ascent.id_notMem {type : EntityType} {above : List EntityType}
    (habove : hierarchy.Ascent type above) (hknown : hierarchy.Knows type) :
    type.id ∉ above.map (·.id) := by
  intro hmem
  obtain ⟨ancestor, hancestor, hid⟩ := List.mem_map.mp hmem
  have heq : ancestor = type := (habove.knows hancestor).eq hknown hid
  obtain ⟨rest, hrest, hlength⟩ := habove.of_mem hancestor
  rw [heq] at hrest
  rw [habove.unique hrest] at hlength
  exact Nat.lt_irrefl _ hlength

theorem Ascent.nodup {type : EntityType} {above : List EntityType}
    (habove : hierarchy.Ascent type above) (hknown : hierarchy.Knows type) :
    ((type :: above).map (·.id)).Nodup := by
  induction habove with
  | top => simp
  | step hparent hrest ih =>
    rw [List.map_cons, List.nodup_cons]
    exact ⟨(Ascent.step hparent hrest).id_notMem hknown, ih (type?_of_parent? hparent)⟩

/-! ### Paths -/

/-- The types of a walk, the last one first: each is the parent of the one after it. -/
def IsPath (hierarchy : Hierarchy) (path : List EntityType) : Prop :=
  path.IsChain (fun parent child => hierarchy.parent? child = some parent) ∧
    ∀ type ∈ path, hierarchy.Knows type

theorem IsPath.tail {type : EntityType} {path : List EntityType}
    (hpath : hierarchy.IsPath (type :: path)) : hierarchy.IsPath path :=
  ⟨hpath.1.of_cons, fun other hother => hpath.2 other (List.mem_cons_of_mem _ hother)⟩

theorem IsPath.parent {type child : EntityType} {path : List EntityType}
    (hpath : hierarchy.IsPath (type :: child :: path)) : hierarchy.parent? child = some type :=
  (List.isChain_cons_cons.mp hpath.1).1

theorem IsPath.cons {parent current : EntityType} {path : List EntityType}
    (hpath : hierarchy.IsPath (current :: path))
    (hparent : hierarchy.parent? current = some parent) :
    hierarchy.IsPath (parent :: current :: path) := by
  refine ⟨List.isChain_cons_cons.mpr ⟨hparent, hpath.1⟩, fun type htype => ?_⟩
  rcases List.mem_cons.mp htype with rfl | htype
  · exact type?_of_parent? hparent
  · exact hpath.2 type htype

theorem IsPath.fresh {current ancestor : EntityType} {path above : List EntityType}
    (hpath : hierarchy.IsPath (current :: path)) (habove : hierarchy.Ascent current above)
    (hmem : ancestor ∈ above) : (current :: path).any (·.id == ancestor.id) = false := by
  induction path generalizing current above with
  | nil =>
    have hnotMem := habove.id_notMem (hpath.2 current (by simp))
    simp only [List.any_cons, List.any_nil, Bool.or_false, beq_eq_false_iff_ne, ne_eq]
    intro hid
    exact hnotMem (hid ▸ List.mem_map_of_mem hmem)
  | cons child rest ih =>
    have hnotMem := habove.id_notMem (hpath.2 current (by simp))
    have hchild : hierarchy.Ascent child (current :: above) := .step hpath.parent habove
    rw [List.any_cons, ih hpath.tail hchild (List.mem_cons_of_mem _ hmem), Bool.or_false,
      beq_eq_false_iff_ne]
    intro hid
    exact hnotMem (hid ▸ List.mem_map_of_mem hmem)

/-- Within the bound, the ancestors that are followed are all that there are. -/
theorem ancestorsFrom_of_ascent {bound : Nat} {current : EntityType}
    {path above : List EntityType} (hpath : hierarchy.IsPath (current :: path))
    (habove : hierarchy.Ascent current above) (hlength : above.length ≤ bound) :
    hierarchy.ancestorsFrom bound (current :: path) current = above := by
  induction habove generalizing bound path with
  | top hnone =>
    cases bound with
    | zero => rfl
    | succ bound => simp [ancestorsFrom, hnone]
  | @step current parent above hparent hrest ih =>
    cases bound with
    | zero => simp at hlength
    | succ bound =>
      have hfresh := hpath.fresh (.step hparent hrest) (List.mem_cons_self ..)
      simp only [ancestorsFrom, hparent, hfresh, Bool.false_eq_true, if_false]
      rw [ih (hpath.cons hparent) (by simpa using hlength)]

theorem lineageOf_of_ascent {target : EntityType} {above : List EntityType}
    (hknown : hierarchy.Knows target) (habove : hierarchy.Ascent target above)
    (hlength : above.length ≤ hierarchy.maxDepth.toNat) :
    hierarchy.lineageOf target.id = above.map (·.id) := by
  have hpath : hierarchy.IsPath [target] := ⟨.singleton _, by simpa using hknown⟩
  rw [lineageOf, hknown]
  simp only [ancestors]
  rw [ancestorsFrom_of_ascent hpath habove hlength]

end Hierarchy

/-! ### What is kept -/

namespace Hierarchy

variable {hierarchy : Hierarchy} {memo : Memo}

def resolutionOf (hierarchy : Hierarchy) (id : String) (lineage : List String) : Resolution :=
  ⟨hierarchy.mergedOf (id :: lineage), lineage⟩

/-- A complete ascent within the bound from the type with an id, and the resolution of it. -/
structure Settles (hierarchy : Hierarchy) (id : String) (kept : Resolution) : Prop where
  ascent : ∃ target above, hierarchy.type? id = some target ∧ hierarchy.Ascent target above ∧
    above.length ≤ hierarchy.maxDepth.toNat ∧ above.map (·.id) = kept.lineage
  merged : kept.merged = hierarchy.mergedOf (id :: kept.lineage)

def Trusts (hierarchy : Hierarchy) (memo : Memo) : Prop :=
  ∀ id kept, memo.lookup id = some kept → hierarchy.Settles id kept

theorem trusts_nil : hierarchy.Trusts [] := by
  intro id kept hkept
  cases hkept

theorem lookup_insert (memo : Memo) (id other : String) (resolution : Resolution) :
    (memo.insert id resolution).lookup other =
      if other = id then some resolution else memo.lookup other := by
  rw [Memo.insert, List.lookup_cons]
  by_cases hid : other = id
  · simp [hid]
  · have hother : (other == id) = false := by simpa using hid
    simp only [hother, hid, if_false]
    induction memo with
    | nil => rfl
    | cons entry rest ih =>
      obtain ⟨key, kept⟩ := entry
      by_cases hkey : key = id
      · have hne : (other == key) = false := by simpa [hkey] using hid
        simp [List.lookup_cons, hkey, hother, ih]
      · simp [hkey, List.lookup_cons, ih]

theorem Trusts.insert (htrusts : hierarchy.Trusts memo) {id : String} {kept : Resolution}
    (hsettles : hierarchy.Settles id kept) : hierarchy.Trusts (memo.insert id kept) := by
  intro other found hfound
  rw [lookup_insert] at hfound
  split_ifs at hfound with hother
  · cases hfound
    exact hother ▸ hsettles
  · exact htrusts other found hfound

theorem toResolved_resolutionOf (id : String) (lineage : List String) :
    (hierarchy.resolutionOf id lineage).toResolved =
      ⟨hierarchy.effectiveFields (id :: lineage), lineage⟩ := by
  rw [← mergeSort_mergedOf]
  rfl

theorem Settles.toResolved {id : String} {kept : Resolution}
    (hsettles : hierarchy.Settles id kept) : kept.toResolved = hierarchy.effective id := by
  obtain ⟨target, above, hfound, habove, hlength, hlineage⟩ := hsettles.ascent
  have hlineageOf : hierarchy.lineageOf id = kept.lineage := by
    rw [← id_of_type? hfound, lineageOf_of_ascent (knows_of_type? hfound) habove hlength, hlineage]
  have hkept : kept = hierarchy.resolutionOf id kept.lineage := by
    rw [resolutionOf, ← hsettles.merged]
  calc kept.toResolved
      = (hierarchy.resolutionOf id kept.lineage).toResolved := by rw [← hkept]
    _ = ⟨hierarchy.effectiveFields (id :: kept.lineage), kept.lineage⟩ :=
      toResolved_resolutionOf id kept.lineage
    _ = hierarchy.effective id := by rw [effective, hlineageOf]

/-! ### Walking up -/

/-- What a walk from the head of a path finds. -/
structure WalkFinds (hierarchy : Hierarchy) (current : EntityType) (path : List EntityType)
    (walk : Walk) (above : List EntityType) : Prop where
  path_eq : walk.path = above.reverse ++ current :: path
  isPath : hierarchy.IsPath walk.path
  /-- The types walked and what is reused are the ancestors that are followed without a memo. -/
  ancestors : (hierarchy.ancestorsFrom (hierarchy.maxDepth.toNat - path.length) (current :: path)
    current).map (·.id) = above.map (·.id) ++ walk.ending.base.lineage
  merged : walk.ending.base.merged = hierarchy.mergedOf walk.ending.base.lineage
  /-- A complete walk has an ascent beyond the types walked, and the bound leaves room for it. -/
  complete : walk.ending.isComplete = true → ∃ type rest beyond, walk.path = type :: rest ∧
    hierarchy.Ascent type beyond ∧ beyond.map (·.id) = walk.ending.base.lineage ∧
    rest.length + beyond.length ≤ hierarchy.maxDepth.toNat

theorem WalkFinds.stop {current : EntityType} {path : List EntityType} {ending : WalkEnd}
    (hpath : hierarchy.IsPath (current :: path)) (hbase : ending.base = .empty)
    (hancestors : hierarchy.ancestorsFrom (hierarchy.maxDepth.toNat - path.length)
      (current :: path) current = [])
    (hcomplete : ending.isComplete = true →
      hierarchy.parent? current = none ∧ path.length ≤ hierarchy.maxDepth.toNat) :
    hierarchy.WalkFinds current path ⟨current :: path, ending⟩ [] where
  path_eq := rfl
  isPath := hpath
  ancestors := by rw [hancestors, hbase]; rfl
  merged := by rw [hbase]; rfl
  complete := fun h => ⟨current, path, [], rfl, .top (hcomplete h).1, by rw [hbase]; rfl,
    by simpa using (hcomplete h).2⟩

theorem ancestorsFrom_of_parent?_none {bound : Nat} {current : EntityType}
    {path : List EntityType} (hnone : hierarchy.parent? current = none) :
    hierarchy.ancestorsFrom bound path current = [] := by
  cases bound with
  | zero => rfl
  | succ bound => simp [ancestorsFrom, hnone]

theorem ancestorsFrom_of_onPath {bound : Nat} {current parent : EntityType}
    {path : List EntityType} (hparent : hierarchy.parent? current = some parent)
    (honPath : path.any (·.id == parent.id) = true) :
    hierarchy.ancestorsFrom bound path current = [] := by
  cases bound with
  | zero => rfl
  | succ bound => simp [ancestorsFrom, hparent, honPath]

/-- The memo answers for an ancestor only with an ascent that fits under the bound. -/
theorem reuse?_eq_some {distance : Nat} {id : String} {kept : Resolution}
    (hreuse : hierarchy.reuse? memo distance id = some kept) :
    memo.lookup id = some kept ∧ distance + kept.lineage.length ≤ hierarchy.maxDepth.toNat := by
  simpa [reuse?, Option.filter_eq_some_iff] using hreuse

theorem WalkFinds.reuse {current parent : EntityType} {path : List EntityType} {kept : Resolution}
    (htrusts : hierarchy.Trusts memo) (hpath : hierarchy.IsPath (current :: path))
    (hparent : hierarchy.parent? current = some parent)
    (hreuse : hierarchy.reuse? memo (current :: path).length parent.id = some kept) :
    hierarchy.WalkFinds current path ⟨current :: path, .memoized parent.id kept⟩ [] := by
  obtain ⟨hkept, hroom⟩ := reuse?_eq_some hreuse
  obtain ⟨target, above, hfound, habove, -, hlineage⟩ := (htrusts _ _ hkept).ascent
  have htarget : target = parent := by
    rw [type?_of_parent? hparent] at hfound
    exact (Option.some.inj hfound).symm
  subst htarget
  have hascent : hierarchy.Ascent current (target :: above) := .step hparent habove
  have hlength : above.length = kept.lineage.length := by rw [← hlineage, List.length_map]
  simp only [List.length_cons] at hroom
  constructor
  · rfl
  · exact hpath
  · rw [ancestorsFrom_of_ascent hpath hascent (by simp only [List.length_cons]; omega)]
    simp [WalkEnd.base, Resolution.extend, hlineage]
  · exact (htrusts _ _ hkept).merged
  · intro _
    refine ⟨current, path, target :: above, rfl, hascent, ?_, ?_⟩
    · simp [WalkEnd.base, Resolution.extend, hlineage]
    · simp only [List.length_cons]
      omega

theorem WalkFinds.step {current parent : EntityType} {path above : List EntityType} {walk : Walk}
    (hparent : hierarchy.parent? current = some parent)
    (hfresh : (current :: path).any (·.id == parent.id) = false)
    (hroom : path.length < hierarchy.maxDepth.toNat)
    (hfinds : hierarchy.WalkFinds parent (current :: path) walk above) :
    hierarchy.WalkFinds current path walk (parent :: above) where
  path_eq := by rw [hfinds.path_eq]; simp
  isPath := hfinds.isPath
  ancestors := by
    obtain ⟨bound, hbound⟩ : ∃ bound, hierarchy.maxDepth.toNat - path.length = bound + 1 :=
      ⟨hierarchy.maxDepth.toNat - path.length - 1, by omega⟩
    have hbound' : hierarchy.maxDepth.toNat - (current :: path).length = bound := by
      simp only [List.length_cons]
      omega
    have hancestors := hfinds.ancestors
    rw [hbound'] at hancestors
    rw [hbound]
    simp only [ancestorsFrom, hparent, hfresh, Bool.false_eq_true, if_false, List.map_cons,
      hancestors, List.cons_append]
  merged := hfinds.merged
  complete := hfinds.complete

/-- Whatever the memo holds, a walk finds the ancestors that are followed without it. -/
theorem walkFrom_finds (htrusts : hierarchy.Trusts memo) (current : EntityType)
    (path : List EntityType) (hpath : hierarchy.IsPath (current :: path))
    (hroom : path.length ≤ hierarchy.maxDepth.toNat) :
    ∃ above, hierarchy.WalkFinds current path
      (hierarchy.walkFrom memo current (current :: path)) above := by
  rw [walkFrom]
  split
  next hroot =>
    have hnone : hierarchy.parent? current = none := by simp [parent?, hroot]
    exact ⟨[], .stop hpath rfl (ancestorsFrom_of_parent?_none hnone) fun _ => ⟨hnone, hroom⟩⟩
  next parentId _ =>
    split
    next hnone =>
      exact ⟨[], .stop hpath rfl (ancestorsFrom_of_parent?_none hnone) fun _ => ⟨hnone, hroom⟩⟩
    next parent hparent =>
      split
      next honPath =>
        exact ⟨[], .stop hpath rfl (ancestorsFrom_of_onPath hparent honPath)
          fun h => absurd h (by simp [WalkEnd.isComplete])⟩
      next honPath =>
        split
        next kept hreuse => exact ⟨[], .reuse htrusts hpath hparent hreuse⟩
        next =>
          split
          next hdeep =>
            have hbound : hierarchy.maxDepth.toNat - path.length = 0 := by
              simp only [List.length_cons] at hdeep
              omega
            exact ⟨[], .stop hpath rfl (by rw [hbound]; rfl)
              fun h => absurd h (by simp [WalkEnd.isComplete])⟩
          next hdeep =>
            simp only [List.length_cons, Nat.not_lt] at hdeep
            have hfresh : (current :: path).any (·.id == parent.id) = false :=
              Bool.eq_false_iff.mpr honPath
            have hless : hierarchy.unvisited (parent :: current :: path) <
                hierarchy.unvisited (current :: path) :=
              unvisited_lt (mem_types_of_parent? hparent) hfresh
            obtain ⟨above, hfinds⟩ := walkFrom_finds htrusts parent (current :: path)
              (hpath.cons hparent) (by simpa using hdeep)
            exact ⟨parent :: above, hfinds.step hparent hfresh (by omega)⟩
termination_by hierarchy.unvisited (current :: path)

end Hierarchy

end KnowledgeSchema
