import KnowledgeSchema.Proofs.Inheritance.Memo

/-!
# Resolving in any order

Whatever types a resolver is asked for, in whatever order and however often, each answer is the one
that the definition gives: the memo never shows.
-/

namespace KnowledgeSchema

namespace Hierarchy

variable {hierarchy : Hierarchy} {memo : Memo}

/-! ### Folding down -/

/-- A fold over a path makes a resolution of the whole chain, the path before what is inherited. -/
theorem fold_fst (complete : Bool) (type : EntityType) (rest : List EntityType)
    (resolution : Resolution) (memo : Memo)
    (hmerged : resolution.merged = hierarchy.mergedOf resolution.lineage) :
    ∃ id lineage, (type :: rest).reverse.map (·.id) ++ resolution.lineage = id :: lineage ∧
      (hierarchy.fold complete (type :: rest) resolution memo).1 =
        hierarchy.resolutionOf id lineage := by
  have hoverlay : (hierarchy.overlayOwn resolution type.id).merged =
      hierarchy.mergedOf (type.id :: resolution.lineage) := by
    rw [overlayOwn, hmerged]
    rfl
  induction rest generalizing type resolution memo with
  | nil =>
    refine ⟨type.id, resolution.lineage, rfl, ?_⟩
    rw [resolutionOf, ← hoverlay]
    rfl
  | cons next rest ih =>
    simp only [fold, List.isEmpty_cons, Bool.false_eq_true, if_false]
    generalize (if complete = true then _ else memo) = kept
    obtain ⟨id, lineage, hids, hfold⟩ := ih next
      ((hierarchy.overlayOwn resolution type.id).extend type.id) kept hoverlay
      (by rw [overlayOwn, Resolution.extend, hoverlay]; rfl)
    refine ⟨id, lineage, ?_, hfold⟩
    rw [← hids]
    simp [Resolution.extend, overlayOwn]

theorem fold_snd_of_incomplete (path : List EntityType) (resolution : Resolution) (memo : Memo) :
    (hierarchy.fold false path resolution memo).2 = memo := by
  induction path generalizing resolution with
  | nil => rfl
  | cons type rest ih =>
    simp only [fold, Bool.false_eq_true, if_false]
    split_ifs
    · rfl
    · exact ih _

/-- A fold over a complete path keeps only what settles the types on it. -/
theorem Trusts.fold (htrusts : hierarchy.Trusts memo) {type : EntityType}
    {rest beyond : List EntityType} {resolution : Resolution}
    (hpath : hierarchy.IsPath (type :: rest)) (hascent : hierarchy.Ascent type beyond)
    (hlineage : beyond.map (·.id) = resolution.lineage)
    (hmerged : resolution.merged = hierarchy.mergedOf resolution.lineage)
    (hroom : rest.length + beyond.length ≤ hierarchy.maxDepth.toNat) :
    hierarchy.Trusts (hierarchy.fold true (type :: rest) resolution memo).2 := by
  induction rest generalizing type beyond resolution memo with
  | nil =>
    refine htrusts.insert ⟨⟨type, beyond, hpath.2 type (by simp), hascent, ?_, hlineage⟩, ?_⟩
    · simpa using hroom
    · rw [overlayOwn, hmerged]
      rfl
  | cons child rest ih =>
    have hsettles : hierarchy.Settles type.id (hierarchy.overlayOwn resolution type.id) := by
      refine ⟨⟨type, beyond, hpath.2 type (by simp), hascent, by omega, hlineage⟩, ?_⟩
      rw [overlayOwn, hmerged]
      rfl
    have hnext : hierarchy.Ascent child (type :: beyond) := .step hpath.parent hascent
    apply ih (htrusts.insert hsettles) hpath.tail hnext
    · simp [Resolution.extend, overlayOwn, hlineage]
    · exact hsettles.merged
    · simp only [List.length_cons] at hroom ⊢
      omega

/-! ### One resolution -/

/-- A walk with a sound memo, folded, gives a type what it has by definition and keeps the memo
sound. -/
theorem Trusts.foldWalk {memo : Memo} (htrusts : hierarchy.Trusts memo) {id : String}
    {target : EntityType} (hfound : hierarchy.type? id = some target) :
    (hierarchy.fold (hierarchy.walk memo target).ending.isComplete
        (hierarchy.walk memo target).path (hierarchy.walk memo target).ending.base
        memo).1.toResolved = hierarchy.effective id ∧
      hierarchy.Trusts (hierarchy.fold (hierarchy.walk memo target).ending.isComplete
        (hierarchy.walk memo target).path (hierarchy.walk memo target).ending.base memo).2 := by
  have hknown : hierarchy.Knows target := knows_of_type? hfound
  have hpath : hierarchy.IsPath [target] := ⟨.singleton _, by simpa using hknown⟩
  obtain ⟨above, hfinds⟩ := walkFrom_finds htrusts target [] hpath (Nat.zero_le _)
  have hwalk : hierarchy.walkFrom memo target [target] = hierarchy.walk memo target := rfl
  rw [hwalk] at hfinds
  generalize hierarchy.walk memo target = walk at hfinds
  have hlineage : hierarchy.lineageOf id = above.map (·.id) ++ walk.ending.base.lineage := by
    rw [lineageOf, hfound, ← hfinds.ancestors]
    rfl
  obtain ⟨type, rest, hcons⟩ : ∃ type rest, walk.path = type :: rest := by
    cases hwalkPath : walk.path with
    | nil => simpa [hwalkPath] using hfinds.path_eq
    | cons type rest => exact ⟨type, rest, rfl⟩
  obtain ⟨first, lineage, hids, hfold⟩ := fold_fst walk.ending.isComplete type rest
    walk.ending.base memo hfinds.merged
  have hsplit : first = id ∧ lineage = hierarchy.lineageOf id := by
    rw [← hcons, hfinds.path_eq] at hids
    rw [hlineage]
    simpa [id_of_type? hfound, eq_comm] using hids
  constructor
  · calc (hierarchy.fold walk.ending.isComplete walk.path walk.ending.base memo).1.toResolved
        = (hierarchy.resolutionOf first lineage).toResolved := by rw [hcons, hfold]
      _ = ⟨hierarchy.effectiveFields (first :: lineage), lineage⟩ :=
        toResolved_resolutionOf first lineage
      _ = hierarchy.effective id := by rw [hsplit.1, hsplit.2, effective]
  · cases hcomplete : walk.ending.isComplete with
    | false => rwa [fold_snd_of_incomplete]
    | true =>
      obtain ⟨type, rest, beyond, hcons, hascent, hbeyond, hroom⟩ := hfinds.complete hcomplete
      have hisPath := hfinds.isPath
      rw [hcons] at hisPath ⊢
      exact htrusts.fold hisPath hascent hbeyond hfinds.merged hroom

theorem Trusts.resolve {resolver : Resolver} (htrusts : hierarchy.Trusts resolver.memo)
    (id : String) :
    (resolver.resolve hierarchy id).1 = hierarchy.effective id ∧
      hierarchy.Trusts (resolver.resolve hierarchy id).2.memo := by
  rw [Resolver.resolve]
  split
  next kept hkept => exact ⟨(htrusts id kept hkept).toResolved, htrusts⟩
  next =>
    split
    next hunknown =>
      have hlineage : hierarchy.lineageOf id = [] := by rw [lineageOf, hunknown]
      refine ⟨?_, htrusts⟩
      rw [effective, hlineage, ← toResolved_resolutionOf]
      rfl
    next target hfound =>
      obtain ⟨hresult, hmemo⟩ := htrusts.foldWalk hfound
      refine ⟨hresult, ?_⟩
      dsimp only
      split
      · rw [Resolver.record]
        split_ifs
        · exact hmemo
        · exact hmemo
      · exact hmemo

end Hierarchy

namespace Resolver

def resolveAll (hierarchy : Hierarchy) : Resolver → List String → List ResolvedFields × Resolver
  | resolver, [] => ([], resolver)
  | resolver, id :: rest =>
    let (resolved, resolver) := resolver.resolve hierarchy id
    let (others, resolver) := resolveAll hierarchy resolver rest
    (resolved :: others, resolver)

theorem resolveAll_of_trusts {hierarchy : Hierarchy} {resolver : Resolver}
    (htrusts : hierarchy.Trusts resolver.memo) (ids : List String) :
    (resolver.resolveAll hierarchy ids).1 = ids.map hierarchy.effective ∧
      hierarchy.Trusts (resolver.resolveAll hierarchy ids).2.memo := by
  induction ids generalizing resolver with
  | nil => exact ⟨rfl, htrusts⟩
  | cons id rest ih =>
    obtain ⟨hfirst, hmemo⟩ := htrusts.resolve id
    obtain ⟨hothers, hlast⟩ := ih hmemo
    exact ⟨by rw [List.map_cons, ← hfirst, ← hothers]; rfl, hlast⟩

/-- One resolver, asked for any ids in any order: each answer is what the type has by definition.
That is one field for every name declared on the chain from the type to its last ancestor, the
nearest declaration of the name, in the order of positions and names. -/
theorem resolveAll_eq_effective (hierarchy : Hierarchy) (ids : List String) :
    (resolveAll hierarchy {} ids).1 = ids.map hierarchy.effective ∧
      ∀ id, let chain := id :: (hierarchy.effective id).lineage
        (∀ field, field ∈ (hierarchy.effective id).fields ↔
          hierarchy.nearest? chain field.name = some field) ∧
        (∀ name, name ∈ (hierarchy.effective id).fields.map (·.name) ↔
          ∃ typeId ∈ chain, ∃ field ∈ hierarchy.own typeId, field.name = name) ∧
        ((hierarchy.effective id).fields.map (·.name)).Nodup ∧
        (hierarchy.effective id).fields.Pairwise fun first second =>
          first.order < second.order ∨ first.order = second.order ∧ first.name < second.name := by
  refine ⟨(resolveAll_of_trusts Hierarchy.trusts_nil ids).1, fun id => ?_⟩
  refine ⟨fun field => Hierarchy.mem_effectiveFields, fun name => ?_, ?_, ?_⟩
  · exact Hierarchy.mem_names_effectiveFields
  · exact Hierarchy.nodup_names_effectiveFields _
  · exact Hierarchy.strictlyBefore_effectiveFields _

end Resolver

end KnowledgeSchema
