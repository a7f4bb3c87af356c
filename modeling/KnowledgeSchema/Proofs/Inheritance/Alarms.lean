import Mathlib.Data.List.Induction
import KnowledgeSchema.Operation.Compile
import KnowledgeSchema.Proofs.Inheritance.Resolution

/-!
# Warnings about ancestors

What is out of order with the ancestors of a type is found by following them without a memo. A
resolver that starts from what it kept says the same, each warning once and where it is first found:
the end of a complete ascent was reported when the first type below it was resolved.
-/

namespace KnowledgeSchema

/-- What is out of order with a type that no parent stands above. -/
def EntityType.orphaned? (type : EntityType) : Option Warning :=
  type.parentId.map (.danglingParent type.id ·)

namespace Hierarchy

variable {hierarchy : Hierarchy} {memo : Memo}

/-- What is out of order with the ancestors of a type. -/
def alarm? (hierarchy : Hierarchy) (target : EntityType) : Option Warning :=
  (hierarchy.walk [] target).ending.warning? target hierarchy.maxDepth

/-! ### Walks without a memo -/

theorem walkFrom_eq (memo : Memo) (current : EntityType) (path : List EntityType) :
    hierarchy.walkFrom memo current path =
      match current.parentId with
      | none => ⟨path, .root⟩
      | some parentId =>
        match hierarchy.parent? current with
        | none => ⟨path, .dangling current parentId⟩
        | some parent =>
          if path.any (·.id == parent.id) then ⟨path, .cycle (cycleIds path parent)⟩
          else
            match hierarchy.reuse? memo path.length parent.id with
            | some kept => ⟨path, .memoized parent.id kept⟩
            | none =>
              if hierarchy.maxDepth.toNat < path.length then ⟨path, .tooDeep⟩
              else hierarchy.walkFrom memo parent (parent :: path) := by
  rw [walkFrom]
  cases current.parentId with
  | none => rfl
  | some parentId =>
    dsimp only
    split
    next hnone => rw [hnone]
    next parent hparent =>
      rw [hparent]
      rfl

/-- A walk that reuses nothing is the walk without a memo. -/
theorem walkFrom_of_fresh (memo : Memo) (current : EntityType) (path : List EntityType)
    (hfresh : ∀ id kept, (hierarchy.walkFrom memo current path).ending ≠ .memoized id kept) :
    hierarchy.walkFrom [] current path = hierarchy.walkFrom memo current path := by
  fun_induction hierarchy.walkFrom memo current path with
  | case1 current path hroot => rw [walkFrom_eq, hroot]
  | case2 current path parentId hparentId hnone => rw [walkFrom_eq, hparentId, hnone]
  | case3 current path parentId hparentId parent hparent honPath =>
    rw [walkFrom_eq, hparentId, hparent]
    exact if_pos honPath
  | case4 current path parentId hparentId parent hparent honPath kept hreuse =>
    exact absurd rfl (hfresh parent.id kept)
  | case5 current path parentId hparentId parent hparent honPath hreuse hdeep =>
    rw [walkFrom_eq, hparentId, hparent]
    exact (if_neg honPath).trans (if_pos hdeep)
  | case6 current path parentId hparentId parent hparent honPath hreuse hdeep _ ih =>
    rw [walkFrom_eq, hparentId, hparent]
    exact ((if_neg honPath).trans (if_neg hdeep)).trans (ih hfresh)

theorem lookup_of_memoized (memo : Memo) (current : EntityType) (path : List EntityType) {id : String}
    {kept : Resolution} (hending : (hierarchy.walkFrom memo current path).ending = .memoized id kept) :
    memo.lookup id = some kept := by
  fun_induction hierarchy.walkFrom memo current path with
  | case1 => cases hending
  | case2 => cases hending
  | case3 => cases hending
  | case4 current path parentId hparentId parent hparent honPath found hreuse =>
    cases hending
    exact (reuse?_eq_some hreuse).1
  | case5 => cases hending
  | case6 current path parentId hparentId parent hparent honPath hreuse hdeep _ ih => exact ih hending

theorem mem_types_of_dangling (memo : Memo) {current : EntityType} (path : List EntityType)
    (hcurrent : current ∈ hierarchy.types) {child : EntityType} {parentId : String}
    (hending : (hierarchy.walkFrom memo current path).ending = .dangling child parentId) :
    child ∈ hierarchy.types ∧ child.parentId = some parentId := by
  fun_induction hierarchy.walkFrom memo current path with
  | case1 => cases hending
  | case2 current path parentId hparentId hnone =>
    cases hending
    exact ⟨hcurrent, hparentId⟩
  | case3 => cases hending
  | case4 => cases hending
  | case5 => cases hending
  | case6 current path parentId hparentId parent hparent _ _ _ _ ih =>
    exact ih (mem_types_of_parent? hparent) hending

/-- What is out of order is the parent of some type, or the ancestors of the type itself. -/
theorem alarm?_eq_some {target : EntityType} (htarget : target ∈ hierarchy.types)
    {warning : Warning} (halarm : hierarchy.alarm? target = some warning) :
    (∃ child ∈ hierarchy.types, ∃ parentId, child.parentId = some parentId ∧
        warning = .danglingParent child.id parentId) ∨
      warning = .depthExceeded target.id hierarchy.maxDepth ∨
        ∃ cycle, warning = .inheritanceCycle target.id cycle := by
  rw [alarm?] at halarm
  cases hending : (hierarchy.walk [] target).ending with
  | root | memoized id kept =>
    rw [hending] at halarm
    cases halarm
  | dangling child parentId =>
    rw [hending] at halarm
    cases halarm
    obtain ⟨hchild, hparentId⟩ := mem_types_of_dangling [] [target] htarget hending
    exact Or.inl ⟨child, hchild, parentId, hparentId, rfl⟩
  | cycle ids =>
    rw [hending] at halarm
    cases halarm
    exact Or.inr (Or.inr ⟨ids, rfl⟩)
  | tooDeep =>
    rw [hending] at halarm
    cases halarm
    exact Or.inr (Or.inl rfl)

/-! ### Complete ascents -/

theorem warning?_walkFrom_of_ascent {current : EntityType} {path above : List EntityType}
    (hpath : hierarchy.IsPath (current :: path)) (habove : hierarchy.Ascent current above)
    (hroom : path.length + above.length ≤ hierarchy.maxDepth.toNat) (target : EntityType) :
    (hierarchy.walkFrom [] current (current :: path)).ending.warning? target hierarchy.maxDepth =
      (above.getLastD current).orphaned? := by
  induction habove generalizing path with
  | @top current hnone =>
    rw [walkFrom_eq, EntityType.orphaned?, List.getLastD_nil]
    cases hparentId : current.parentId with
    | none => rfl
    | some parentId =>
      rw [hnone]
      rfl
  | @step current parent above hparent hrest ih =>
    have hfresh := hpath.fresh (.step hparent hrest) List.mem_cons_self
    obtain ⟨parentId, hparentId⟩ : ∃ parentId, current.parentId = some parentId := by
      cases hparentId : current.parentId with
      | none => simp [parent?, hparentId] at hparent
      | some parentId => exact ⟨parentId, rfl⟩
    have hroom' : ¬hierarchy.maxDepth.toNat < (current :: path).length := by
      simp only [List.length_cons] at hroom ⊢
      omega
    have hnothing : hierarchy.reuse? [] (current :: path).length parent.id = none := rfl
    rw [walkFrom_eq, hparentId, hparent, List.getLastD_cons]
    simp only [hfresh, Bool.false_eq_true, if_false, hnothing, hroom']
    apply ih (hpath.cons hparent)
    simp only [List.length_cons] at hroom ⊢
    omega

theorem alarm?_of_ascent {target : EntityType} {above : List EntityType}
    (hknown : hierarchy.Knows target) (habove : hierarchy.Ascent target above)
    (hroom : above.length ≤ hierarchy.maxDepth.toNat) :
    hierarchy.alarm? target = (above.getLastD target).orphaned? := by
  have hpath : hierarchy.IsPath [target] := ⟨.singleton _, by simpa using hknown⟩
  exact warning?_walkFrom_of_ascent hpath habove (by simpa using hroom) target

/-- All types on a complete path have the end of it in common. -/
theorem alarm?_of_mem_path {type : EntityType} {rest beyond : List EntityType}
    (hpath : hierarchy.IsPath (type :: rest)) (hascent : hierarchy.Ascent type beyond)
    (hroom : rest.length + beyond.length ≤ hierarchy.maxDepth.toNat) :
    ∀ other ∈ type :: rest, hierarchy.alarm? other = (beyond.getLastD type).orphaned? := by
  induction rest generalizing type beyond with
  | nil =>
    intro other hother
    rw [List.mem_singleton.mp hother]
    exact alarm?_of_ascent (hpath.2 type List.mem_cons_self) hascent (by simpa using hroom)
  | cons child rest ih =>
    intro other hother
    rcases List.mem_cons.mp hother with rfl | hother
    · exact alarm?_of_ascent (hpath.2 _ List.mem_cons_self) hascent (by omega)
    · have hchild := ih hpath.tail (.step hpath.parent hascent)
        (by simp only [List.length_cons] at hroom ⊢; omega) other hother
      rwa [List.getLastD_cons] at hchild

/-- A fold keeps a resolution for types of the path only. -/
theorem lookup_fold {complete : Bool} {path : List EntityType} {resolution kept : Resolution}
    {id : String} (hkept : (hierarchy.fold complete path resolution memo).2.lookup id = some kept) :
    id ∈ path.map (·.id) ∨ memo.lookup id = some kept := by
  induction path generalizing resolution memo with
  | nil => exact Or.inr hkept
  | cons type rest ih =>
    have hfirst : ∀ {resolution : Resolution},
        (if complete then memo.insert type.id resolution else memo).lookup id = some kept →
          id = type.id ∨ memo.lookup id = some kept := by
      intro resolution hfound
      cases complete with
      | false => exact Or.inr hfound
      | true =>
        rw [if_pos rfl, lookup_insert] at hfound
        by_cases hid : id = type.id
        · exact Or.inl hid
        · rw [if_neg hid] at hfound
          exact Or.inr hfound
    rw [List.map_cons, List.mem_cons, or_assoc]
    simp only [fold] at hkept
    by_cases hempty : rest.isEmpty = true
    · rw [if_pos hempty] at hkept
      exact (hfirst hkept).imp_right Or.inr
    · rw [if_neg hempty] at hkept
      rcases ih hkept with hmem | hfound
      · exact Or.inr (Or.inl hmem)
      · exact (hfirst hfound).imp_right Or.inr

end Hierarchy

/-! ### One resolution after another -/

/-- Warnings with one more, which is told only once. -/
def tell (warnings : List Warning) : Option Warning → List Warning
  | none => warnings
  | some warning => if warning ∈ warnings then warnings else warnings ++ [warning]

theorem subset_tell (warnings : List Warning) (alarm? : Option Warning) :
    warnings ⊆ tell warnings alarm? := by
  cases alarm? with
  | none => exact List.Subset.refl _
  | some warning =>
    rw [tell]
    split_ifs
    · exact List.Subset.refl _
    · exact List.subset_append_left _ _

theorem mem_tell {warnings : List Warning} {alarm? : Option Warning} {warning : Warning}
    (hwarning : warning ∈ alarm?) : warning ∈ tell warnings alarm? := by
  cases hwarning
  rw [tell]
  split_ifs with hmem
  · exact hmem
  · exact List.mem_append_right _ (List.mem_singleton_self _)

theorem tell_of_mem {warnings : List Warning} {alarm? : Option Warning}
    (htold : ∀ warning ∈ alarm?, warning ∈ warnings) : tell warnings alarm? = warnings := by
  cases alarm? with
  | none => rfl
  | some warning => exact if_pos (htold warning rfl)

theorem tell_eraseDups {α : Type} (alarm? : α → Option Warning) (items : List α) (item : α) :
    tell (items.filterMap alarm?).eraseDups (alarm? item) =
      ((items ++ [item]).filterMap alarm?).eraseDups := by
  rw [List.filterMap_append]
  cases halarm : alarm? item with
  | none =>
    rw [List.filterMap_cons_none halarm, List.filterMap_nil, List.append_nil]
    rfl
  | some warning =>
    rw [List.filterMap_cons_some halarm, List.filterMap_nil, List.eraseDups_append, tell]
    generalize items.filterMap alarm? = warnings
    by_cases hmem : warning ∈ warnings
    · rw [if_pos (List.mem_eraseDups.mpr hmem)]
      simp [List.removeAll, hmem]
    · rw [if_neg (mt List.mem_eraseDups.mp hmem)]
      simp [List.removeAll, hmem, List.eraseDups_cons]

theorem nodup_eraseDups (warnings : List Warning) : warnings.eraseDups.Nodup := by
  induction warnings using List.reverseRecOn with
  | nil => exact List.nodup_nil
  | append_singleton warnings warning ih =>
    have htell := tell_eraseDups some warnings warning
    rw [List.filterMap_some, List.filterMap_some, tell] at htell
    rw [← htell]
    split_ifs with hmem
    · exact ih
    · exact List.concat_eq_append ▸ List.Nodup.concat hmem ih

namespace Resolver

variable {hierarchy : Hierarchy} {resolver : Resolver} {resolved : List EntityType}
  {type : EntityType}

/-- Whether a resolver that has resolved some types has told what is out of order with them, and with
all types that it has kept something for. -/
structure Tells (hierarchy : Hierarchy) (resolver : Resolver) (resolved : List EntityType) :
    Prop where
  trusts : hierarchy.Trusts resolver.memo
  kept : ∀ id kept type, resolver.memo.lookup id = some kept → hierarchy.type? id = some type →
    ∀ warning ∈ hierarchy.alarm? type, warning ∈ resolver.warnings
  warnings : resolver.warnings = (resolved.filterMap hierarchy.alarm?).eraseDups

theorem tells_nil : ({} : Resolver).Tells hierarchy [] :=
  ⟨Hierarchy.trusts_nil, fun _ _ _ hkept => (nomatch hkept), rfl⟩

theorem resolve_of_new (hnew : resolver.memo.lookup type.id = none)
    (hknown : hierarchy.Knows type) :
    let walk := hierarchy.walk resolver.memo type
    (resolver.resolve hierarchy type.id).2 =
      { memo := (hierarchy.fold walk.ending.isComplete walk.path walk.ending.base resolver.memo).2
        warnings := tell resolver.warnings (walk.ending.warning? type hierarchy.maxDepth) } := by
  intro walk
  rw [resolve, hnew, hknown]
  dsimp only
  cases walk.ending.warning? type hierarchy.maxDepth with
  | none => rfl
  | some warning =>
    by_cases hmem : warning ∈ resolver.warnings
    · simp [record, tell, hmem, walk]
    · simp [record, tell, hmem, walk]

theorem Tells.tell_walk (htells : resolver.Tells hierarchy resolved)
    (hknown : hierarchy.Knows type) :
    let walk := hierarchy.walk resolver.memo type
    tell resolver.warnings (walk.ending.warning? type hierarchy.maxDepth) =
        tell resolver.warnings (hierarchy.alarm? type) ∧
      (walk.ending.isComplete = true → ∀ id ∈ walk.path.map (·.id), ∀ other,
        hierarchy.type? id = some other → hierarchy.alarm? other = hierarchy.alarm? type) := by
  intro walk
  have hpath : hierarchy.IsPath [type] := ⟨.singleton _, by simpa using hknown⟩
  obtain ⟨above, hfinds⟩ := Hierarchy.walkFrom_finds htells.trusts type [] hpath (Nat.zero_le _)
  change hierarchy.WalkFinds type [] walk above at hfinds
  have hmem : type ∈ walk.path := by
    rw [hfinds.path_eq]
    simp
  have hshared : walk.ending.isComplete = true → ∀ id ∈ walk.path.map (·.id), ∀ other,
      hierarchy.type? id = some other → hierarchy.alarm? other = hierarchy.alarm? type := by
    intro hcomplete id hid other hfound
    obtain ⟨first, rest, beyond, hcons, hascent, -, hroom⟩ := hfinds.complete hcomplete
    have hisPath := hfinds.isPath
    rw [hcons] at hisPath hid hmem
    obtain ⟨shared, hshared, rfl⟩ := List.mem_map.mp hid
    obtain rfl : shared = other := Option.some.inj ((hisPath.2 shared hshared).symm.trans hfound)
    rw [Hierarchy.alarm?_of_mem_path hisPath hascent hroom shared hshared,
      Hierarchy.alarm?_of_mem_path hisPath hascent hroom type hmem]
  refine ⟨?_, hshared⟩
  by_cases hreused : ∃ id kept, walk.ending = .memoized id kept
  · obtain ⟨id, kept, hending⟩ := hreused
    have hcomplete : walk.ending.isComplete = true := by rw [hending]; rfl
    obtain ⟨first, rest, beyond, hcons, hascent, hlineage, hroom⟩ := hfinds.complete hcomplete
    have hisPath := hfinds.isPath
    rw [hcons] at hisPath hmem
    rw [hending] at hlineage
    obtain ⟨parent, above, rfl, hid, -⟩ := List.map_eq_cons_iff.mp hlineage
    cases hascent with
    | step hparent hrest =>
      have hknownParent : hierarchy.type? id = some parent := hid ▸ hierarchy.type?_of_parent? hparent
      have hkept := htells.kept id kept parent
        (Hierarchy.lookup_of_memoized _ _ _ hending) hknownParent
      have hsame : hierarchy.alarm? type = hierarchy.alarm? parent := by
        rw [Hierarchy.alarm?_of_mem_path hisPath (.step hparent hrest) hroom type hmem,
          List.getLastD_cons, Hierarchy.alarm?_of_ascent (Hierarchy.type?_of_parent? hparent) hrest
            (by simp only [List.length_cons] at hroom; omega)]
      rw [hending, hsame, tell_of_mem hkept]
      rfl
  · have hfresh : ∀ id kept, walk.ending ≠ .memoized id kept := fun id kept hending =>
      hreused ⟨id, kept, hending⟩
    have hwalk : hierarchy.walk [] type = walk := Hierarchy.walkFrom_of_fresh _ _ _ hfresh
    rw [Hierarchy.alarm?, hwalk]

theorem Tells.resolve (htells : resolver.Tells hierarchy resolved)
    (hknown : hierarchy.Knows type) :
    (resolver.resolve hierarchy type.id).2.Tells hierarchy (resolved ++ [type]) := by
  have htrusts := (htells.trusts.resolve type.id).2
  cases hlookup : resolver.memo.lookup type.id with
  | some kept =>
    have hsame : (resolver.resolve hierarchy type.id).2 = resolver := by
      rw [Resolver.resolve, hlookup]
    have htold := htells.kept type.id kept type hlookup hknown
    refine ⟨htrusts, hsame.symm ▸ htells.kept, ?_⟩
    rw [hsame, ← tell_eraseDups, ← htells.warnings, tell_of_mem htold]
  | none =>
    obtain ⟨htell, hshared⟩ := htells.tell_walk hknown
    have hresolve := resolve_of_new hlookup hknown
    dsimp only at hresolve
    rw [htell] at hresolve
    refine ⟨htrusts, ?_, ?_⟩
    · intro id kept other hkept hother warning hwarning
      rw [hresolve] at hkept ⊢
      cases hcomplete : (hierarchy.walk resolver.memo type).ending.isComplete with
      | true =>
        rcases Hierarchy.lookup_fold hkept with hmem | hold
        · rw [hshared hcomplete id hmem other hother] at hwarning
          exact mem_tell hwarning
        · exact subset_tell _ _ (htells.kept id kept other hold hother warning hwarning)
      | false =>
        rw [hcomplete, Hierarchy.fold_snd_of_incomplete] at hkept
        exact subset_tell _ _ (htells.kept id kept other hkept hother warning hwarning)
    · rw [hresolve, ← tell_eraseDups, ← htells.warnings]

end Resolver

namespace Content

open Resolver

/-- Types resolved one after another have what they have by definition, and what is out of order is
told once. -/
theorem resolveTypes_eq {hierarchy : Hierarchy} {types : List EntityType}
    (hknown : ∀ type ∈ types, hierarchy.Knows type) :
    (resolveTypes hierarchy {} types).1 = types.map (fun type =>
        { definition := type, fields := (hierarchy.effective type.id).fields,
          lineage := (hierarchy.effective type.id).lineage }) ∧
      (resolveTypes hierarchy {} types).2.warnings =
        (types.filterMap hierarchy.alarm?).eraseDups := by
  have hsteps : ∀ (resolver : Resolver) (resolved : List EntityType),
      resolver.Tells hierarchy resolved →
        (resolveTypes hierarchy resolver types).1 = types.map (fun type =>
            { definition := type, fields := (hierarchy.effective type.id).fields,
              lineage := (hierarchy.effective type.id).lineage }) ∧
          (resolveTypes hierarchy resolver types).2.Tells hierarchy (resolved ++ types) := by
    induction types with
    | nil =>
      intro resolver resolved htells
      rw [List.append_nil]
      exact ⟨rfl, htells⟩
    | cons type rest ih =>
      intro resolver resolved htells
      have hfirst := (htells.trusts.resolve type.id).1
      obtain ⟨htypes, hlast⟩ := ih (fun other hother => hknown other (List.mem_cons_of_mem _ hother))
        _ _ (htells.resolve (hknown type List.mem_cons_self))
      rw [List.append_assoc, List.singleton_append] at hlast
      refine ⟨?_, hlast⟩
      rw [List.map_cons, ← htypes, ← hfirst]
      rfl
  obtain ⟨htypes, htells⟩ := hsteps {} [] tells_nil
  exact ⟨htypes, htells.warnings⟩

end Content

end KnowledgeSchema
