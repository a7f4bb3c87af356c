import Mathlib.Data.Finset.Card
import KnowledgeSchema.Proofs.Inheritance.Bounds

/-!
# What a resolver keeps

A resolver keeps something for a type exactly if it was asked for that type, or for one below it,
and the ancestors of the type it was asked for come to an end within the bound. A walk that starts
from what was kept leaves out ancestors that are all kept already, so each resolution adds the whole
lineage of the type asked for, or nothing.
-/

namespace KnowledgeSchema

/-- The ids that something is kept for. -/
def Memo.ids (memo : Memo) : List String :=
  memo.map (·.1)

namespace Memo

variable {memo : Memo} {id other : String}

theorem mem_ids_iff : id ∈ memo.ids ↔ ∃ kept, memo.lookup id = some kept := by
  induction memo with
  | nil => simp [ids]
  | cons entry rest ih =>
    obtain ⟨key, kept⟩ := entry
    rw [ids, List.map_cons, List.mem_cons, List.lookup_cons]
    by_cases hid : id = key
    · simp [hid]
    · have hne : (id == key) = false := beq_false_of_ne hid
      rw [hne, or_iff_right hid]
      exact ih

theorem mem_ids_insert (resolution : Resolution) :
    other ∈ (memo.insert id resolution).ids ↔ other = id ∨ other ∈ memo.ids := by
  rw [mem_ids_iff, Hierarchy.lookup_insert, mem_ids_iff]
  split_ifs with hid
  · simp [hid]
  · rw [or_iff_right hid]

theorem nodup_ids_insert (resolution : Resolution) (hnodup : memo.ids.Nodup) :
    (memo.insert id resolution).ids.Nodup := by
  rw [ids, insert, List.map_cons, List.nodup_cons]
  refine ⟨fun hmem => ?_, hnodup.sublist (List.filter_sublist.map _)⟩
  obtain ⟨entry, hentry, hsame⟩ := List.mem_map.mp hmem
  simpa [hsame] using (List.mem_filter.mp hentry).2

end Memo

namespace Hierarchy

variable {hierarchy : Hierarchy} {memo : Memo} {type target ancestor : EntityType}
  {above : List EntityType}

/-! ### Folds -/

theorem ids_fold {path : List EntityType} (resolution : Resolution) (hpath : path ≠ [])
    (hnodup : memo.ids.Nodup) :
    let after := (hierarchy.fold true path resolution memo).2
    after.ids.Nodup ∧ ∀ id, id ∈ after.ids ↔ id ∈ path.map (·.id) ∨ id ∈ memo.ids := by
  induction path generalizing resolution memo with
  | nil => exact absurd rfl hpath
  | cons type rest ih =>
    have hinserted : (memo.insert type.id (hierarchy.overlayOwn resolution type.id)).ids.Nodup :=
      Memo.nodup_ids_insert _ hnodup
    simp only [fold, if_true]
    cases rest with
    | nil => exact ⟨hinserted, fun id => by simp [Memo.mem_ids_insert]⟩
    | cons child rest =>
      obtain ⟨hafter, hmem⟩ := ih ((hierarchy.overlayOwn resolution type.id).extend type.id)
        (List.cons_ne_nil _ _) hinserted
      refine ⟨hafter, fun id => ?_⟩
      rw [List.map_cons, List.mem_cons, or_assoc, or_left_comm, ← Memo.mem_ids_insert]
      exact hmem id

/-! ### Ancestors that come to an end -/

/-- Whether a walk without a memo ends at a type without a parent. -/
def ComesToEnd (hierarchy : Hierarchy) (target : EntityType) : Prop :=
  (hierarchy.walk [] target).ending = .root ∨
    ∃ child parentId, (hierarchy.walk [] target).ending = .dangling child parentId

/-- All ancestors of a type, if the bound has room for them. -/
def AscentWithin (hierarchy : Hierarchy) (type : EntityType) (above : List EntityType) : Prop :=
  hierarchy.Ascent type above ∧ above.length ≤ hierarchy.maxDepth.toNat

theorem isComplete_walkFrom_of_ascent (memo : Memo) {path : List EntityType}
    (hpath : hierarchy.IsPath (type :: path)) (habove : hierarchy.Ascent type above)
    (hroom : path.length + above.length ≤ hierarchy.maxDepth.toNat) :
    (hierarchy.walkFrom memo type (type :: path)).ending.isComplete = true := by
  induction habove generalizing path with
  | @top type hnone =>
    rw [walkFrom_eq, hnone]
    cases type.parentId with
    | none => rfl
    | some parentId => rfl
  | @step type parent above hparent hrest ih =>
    have hfresh := hpath.fresh (.step hparent hrest) List.mem_cons_self
    have hroom' : ¬hierarchy.maxDepth.toNat < (type :: path).length := by
      simp only [List.length_cons] at hroom ⊢
      omega
    rw [walkFrom_eq, hparent]
    cases type.parentId with
    | none => rfl
    | some parentId =>
      simp only [hfresh, Bool.false_eq_true, if_false, hroom']
      cases hierarchy.reuse? memo (type :: path).length parent.id with
      | some kept => rfl
      | none =>
        apply ih (hpath.cons hparent)
        simp only [List.length_cons] at hroom ⊢
        omega

/-- A memo that is sound does not decide whether a walk is complete. -/
theorem isComplete_walk_iff (htrusts : hierarchy.Trusts memo) (hknown : hierarchy.Knows target) :
    (hierarchy.walk memo target).ending.isComplete = true ↔
      ∃ above, hierarchy.AscentWithin target above := by
  have hpath : hierarchy.IsPath [target] := ⟨.singleton _, by simpa using hknown⟩
  constructor
  · intro hcomplete
    obtain ⟨below, hfinds⟩ := walkFrom_finds htrusts target [] hpath (Nat.zero_le _)
    change hierarchy.WalkFinds target [] (hierarchy.walk memo target) below at hfinds
    obtain ⟨first, rest, beyond, hcons, hascent, -, hroom⟩ := hfinds.complete hcomplete
    have hmem : target ∈ first :: rest := by
      rw [← hcons, hfinds.path_eq]
      simp
    obtain ⟨above, habove, hlength⟩ := (hcons ▸ hfinds.isPath).exists_ascent hascent hmem
    exact ⟨above, habove, hlength.trans hroom⟩
  · rintro ⟨above, habove, hlength⟩
    exact isComplete_walkFrom_of_ascent memo hpath habove (by simpa using hlength)

theorem comesToEnd_iff (hknown : hierarchy.Knows target) :
    hierarchy.ComesToEnd target ↔ ∃ above, hierarchy.AscentWithin target above := by
  rw [← isComplete_walk_iff trusts_nil hknown, ComesToEnd]
  cases hending : (hierarchy.walk [] target).ending with
  | root | dangling child parentId | cycle ids | tooDeep => simp [WalkEnd.isComplete]
  | memoized id kept => cases lookup_of_memoized _ _ _ hending

theorem AscentWithin.lineageOf (habove : hierarchy.AscentWithin target above)
    (hknown : hierarchy.Knows target) : hierarchy.lineageOf target.id = above.map (·.id) :=
  lineageOf_of_ascent hknown habove.1 habove.2

/-- The ancestors of an ancestor are the ones behind it. -/
theorem AscentWithin.of_mem (habove : hierarchy.AscentWithin type above) (hmem : ancestor ∈ above) :
    ∃ rest, hierarchy.AscentWithin ancestor rest ∧ rest ⊆ above := by
  obtain ⟨habove, hlength⟩ := habove
  induction habove with
  | top => cases hmem
  | step _ hrest ih =>
    have hlength' := (Nat.le_succ _).trans hlength
    rcases List.mem_cons.mp hmem with rfl | hmem
    · exact ⟨_, ⟨hrest, hlength'⟩, List.subset_cons_self _ _⟩
    · obtain ⟨rest, hwithin, hsubset⟩ := ih hmem hlength'
      exact ⟨rest, hwithin, List.subset_cons_of_subset _ hsubset⟩

/-! ### Complete lineages -/

/-- Whether an id is on the lineage of the type with another id, or its own, and that lineage is
complete. -/
def Completes (hierarchy : Hierarchy) (asked id : String) : Prop :=
  ∃ target, hierarchy.type? asked = some target ∧ hierarchy.ComesToEnd target ∧
    id ∈ asked :: hierarchy.lineageOf asked

variable {asked id other : String}

theorem completes_iff : hierarchy.Completes asked id ↔ ∃ target above,
    hierarchy.type? asked = some target ∧ hierarchy.AscentWithin target above ∧
      id ∈ (target :: above).map (·.id) := by
  constructor
  · rintro ⟨target, hfound, hend, hmem⟩
    obtain ⟨above, habove⟩ := (comesToEnd_iff (knows_of_type? hfound)).mp hend
    rw [← id_of_type? hfound, habove.lineageOf (knows_of_type? hfound)] at hmem
    exact ⟨target, above, hfound, habove, hmem⟩
  · rintro ⟨target, above, hfound, habove, hmem⟩
    refine ⟨target, hfound, (comesToEnd_iff (knows_of_type? hfound)).mpr ⟨above, habove⟩, ?_⟩
    rwa [← id_of_type? hfound, habove.lineageOf (knows_of_type? hfound)]

/-- A type on a complete lineage has a complete lineage, which is a part of it. -/
theorem Completes.exists_ascent (hcompletes : hierarchy.Completes asked id) :
    ∃ type above, hierarchy.type? id = some type ∧ hierarchy.AscentWithin type above ∧
      ∀ other ∈ (type :: above).map (·.id), hierarchy.Completes asked other := by
  obtain ⟨target, above, hfound, habove, hmem⟩ := completes_iff.mp hcompletes
  obtain ⟨type, htype, rfl⟩ := List.mem_map.mp hmem
  have hpart : ∀ types ⊆ target :: above, ∀ other ∈ types.map (·.id),
      hierarchy.Completes asked other := fun types hsubset other hother =>
    completes_iff.mpr ⟨target, above, hfound, habove, List.map_subset _ hsubset hother⟩
  rcases List.mem_cons.mp htype with rfl | htype
  · exact ⟨type, above, knows_of_type? hfound, habove, hpart _ (List.Subset.refl _)⟩
  · obtain ⟨rest, hrest, hsubset⟩ := habove.of_mem htype
    refine ⟨type, rest, habove.1.knows htype, hrest, hpart _ ?_⟩
    exact List.cons_subset.mpr
      ⟨List.mem_cons_of_mem _ htype, List.subset_cons_of_subset _ hsubset⟩

theorem Completes.trans (hcompletes : hierarchy.Completes asked id)
    (hother : hierarchy.Completes id other) : hierarchy.Completes asked other := by
  obtain ⟨type, above, hfound, habove, hpart⟩ := hcompletes.exists_ascent
  obtain ⟨same, others, hfound', hothers, hmem⟩ := completes_iff.mp hother
  rw [hfound] at hfound'
  cases hfound'
  rw [habove.1.unique hothers.1] at hpart
  exact hpart other hmem

/-- What a walk passes and what comes from the memo behind it is all that a type completes, if the
walk is complete. -/
theorem Trusts.completes_iff_of_isComplete (htrusts : hierarchy.Trusts memo)
    (hknown : hierarchy.Knows target)
    (hcomplete : (hierarchy.walk memo target).ending.isComplete = true) :
    hierarchy.Completes target.id id ↔ id ∈ (hierarchy.walk memo target).path.map (·.id) ∨
      id ∈ (hierarchy.walk memo target).ending.base.lineage := by
  have hbounded := htrusts.isBoundedWalk hknown
  have hends : hierarchy.ComesToEnd target :=
    (comesToEnd_iff hknown).mpr ((isComplete_walk_iff htrusts hknown).mp hcomplete)
  generalize hierarchy.walk memo target = walk at hbounded
  obtain ⟨rest, hchain⟩ := List.head?_eq_some_iff.mp hbounded.starts
  have hlineage := hbounded.joined
  rw [hchain, List.tail_cons] at hlineage
  have hids : id ∈ walk.path.map (·.id) ↔ id = target.id ∨ id ∈ rest.map (·.id) := by
    rw [← List.mem_reverse, ← List.map_reverse, ← Walk.chain, hchain, List.map_cons, List.mem_cons]
  rw [hids, or_assoc, ← List.mem_append, ← hlineage, ← List.mem_cons]
  refine ⟨?_, fun hon => ⟨target, hknown, hends, hon⟩⟩
  rintro ⟨-, -, -, hon⟩
  exact hon

end Hierarchy

namespace Resolver

open Hierarchy

variable {hierarchy : Hierarchy} {resolver : Resolver} {resolved : List String}

/-- How many types something is kept for. -/
def memoized (resolver : Resolver) : Nat :=
  resolver.memo.length

/-- Whether a resolver that was asked for some ids keeps something for the types on the complete
lineages of them, once for each. -/
structure Keeps (hierarchy : Hierarchy) (resolver : Resolver) (resolved : List String) : Prop where
  trusts : hierarchy.Trusts resolver.memo
  nodup : resolver.memo.ids.Nodup
  mem_iff : ∀ id, id ∈ resolver.memo.ids ↔ ∃ asked ∈ resolved, hierarchy.Completes asked id

theorem keeps_nil : ({} : Resolver).Keeps hierarchy [] :=
  ⟨trusts_nil, List.nodup_nil, fun id => by simp [Memo.ids]⟩

/-- What is kept has a complete lineage, and all of that is kept. -/
theorem Keeps.exists_ascent (hkeeps : resolver.Keeps hierarchy resolved) {id : String}
    (hid : id ∈ resolver.memo.ids) :
    ∃ type above, hierarchy.type? id = some type ∧ hierarchy.AscentWithin type above ∧
      (type :: above).map (·.id) ⊆ resolver.memo.ids := by
  obtain ⟨asked, hasked, hcompletes⟩ := (hkeeps.mem_iff id).mp hid
  obtain ⟨type, above, hfound, habove, hpart⟩ := hcompletes.exists_ascent
  exact ⟨type, above, hfound, habove, fun other hother =>
    (hkeeps.mem_iff other).mpr ⟨asked, hasked, hpart other hother⟩⟩

/-- What a walk takes from the memo is kept up to its end. -/
theorem Keeps.base_subset (hkeeps : resolver.Keeps hierarchy resolved) (target : EntityType) :
    (hierarchy.walk resolver.memo target).ending.base.lineage ⊆ resolver.memo.ids := by
  cases hending : (hierarchy.walk resolver.memo target).ending with
  | root | dangling child parentId | cycle ids | tooDeep => exact List.nil_subset _
  | memoized id kept =>
    have hkept := lookup_of_memoized _ _ _ hending
    obtain ⟨type, above, hfound, habove, hsubset⟩ :=
      hkeeps.exists_ascent (Memo.mem_ids_iff.mpr ⟨kept, hkept⟩)
    obtain ⟨same, others, hfound', hothers, -, hlineage⟩ := (hkeeps.trusts id kept hkept).ascent
    rw [hfound] at hfound'
    cases hfound'
    rwa [habove.1.unique hothers, List.map_cons, hlineage, id_of_type? hfound] at hsubset

/-- A new resolution adds the whole lineage of a type, or nothing. -/
theorem Keeps.ids_resolve (hkeeps : resolver.Keeps hierarchy resolved) {target : EntityType}
    (hnew : resolver.memo.lookup target.id = none) (hknown : hierarchy.Knows target) :
    let after := (resolver.resolve hierarchy target.id).2.memo
    after.ids.Nodup ∧
      ∀ id, id ∈ after.ids ↔ hierarchy.Completes target.id id ∨ id ∈ resolver.memo.ids := by
  have hresolve := resolve_of_new hnew hknown
  have hbase := hkeeps.base_subset target
  have hpath : (hierarchy.walk resolver.memo target).path ≠ [] := fun hnil => by
    simpa [Walk.chain, hnil] using (hkeeps.trusts.isBoundedWalk hknown).starts
  dsimp only at hresolve ⊢
  rw [hresolve]
  cases hcomplete : (hierarchy.walk resolver.memo target).ending.isComplete with
  | false =>
    rw [fold_snd_of_incomplete]
    refine ⟨hkeeps.nodup, fun id => (or_iff_right ?_).symm⟩
    rintro ⟨same, hfound, hends, -⟩
    cases hknown.symm.trans hfound
    rw [(isComplete_walk_iff hkeeps.trusts hknown).mpr ((comesToEnd_iff hknown).mp hends)]
      at hcomplete
    cases hcomplete
  | true =>
    obtain ⟨hnodup, hmem⟩ := ids_fold
      (hierarchy.walk resolver.memo target).ending.base hpath hkeeps.nodup
    refine ⟨hnodup, fun id => ?_⟩
    rw [hmem, hkeeps.trusts.completes_iff_of_isComplete hknown hcomplete, or_assoc,
      or_iff_right_of_imp (@hbase id)]

theorem Keeps.resolve (hkeeps : resolver.Keeps hierarchy resolved) (id : String) :
    (resolver.resolve hierarchy id).2.Keeps hierarchy (resolved ++ [id]) := by
  have htrusts := (hkeeps.trusts.resolve id).2
  have hold : ∀ other, other ∈ resolver.memo.ids ↔
      ∃ asked ∈ resolved, hierarchy.Completes asked other := hkeeps.mem_iff
  -- It is enough that a resolution adds what the type that is asked for completes.
  suffices hadds : (resolver.resolve hierarchy id).2.memo.ids.Nodup ∧
      ∀ other, other ∈ (resolver.resolve hierarchy id).2.memo.ids ↔
        hierarchy.Completes id other ∨ other ∈ resolver.memo.ids by
    refine ⟨htrusts, hadds.1, fun other => ?_⟩
    rw [hadds.2, hold, or_comm]
    simp only [List.mem_append, List.mem_singleton, or_and_right, exists_or, exists_eq_left]
  cases hlookup : resolver.memo.lookup id with
  | some kept =>
    have hsame : (resolver.resolve hierarchy id).2 = resolver := by
      rw [Resolver.resolve, hlookup]
    obtain ⟨asked, hasked, hid⟩ := (hold id).mp (Memo.mem_ids_iff.mpr ⟨kept, hlookup⟩)
    rw [hsame]
    refine ⟨hkeeps.nodup, fun other => (or_iff_right_of_imp fun hother => ?_).symm⟩
    exact (hold other).mpr ⟨asked, hasked, hid.trans hother⟩
  | none =>
    cases hfound : hierarchy.type? id with
    | none =>
      rw [resolve_of_unknown hfound]
      refine ⟨hkeeps.nodup, fun other => (or_iff_right ?_).symm⟩
      rintro ⟨target, hknown, -⟩
      rw [hfound] at hknown
      cases hknown
    | some target =>
      obtain rfl := id_of_type? hfound
      exact hkeeps.ids_resolve hlookup hfound

theorem Keeps.resolveAll (hkeeps : resolver.Keeps hierarchy resolved) (ids : List String) :
    (resolver.resolveAll hierarchy ids).2.Keeps hierarchy (resolved ++ ids) := by
  induction ids generalizing resolver resolved with
  | nil => rwa [List.append_nil]
  | cons id rest ih =>
    rw [List.append_cons]
    exact ih (hkeeps.resolve id)

/-- One resolver, asked for any ids in any order, keeps something for exactly the types on the
complete lineages of the types it was asked for, and counts each of them once. With a type it keeps
its parent, and it never keeps a type whose ancestors come round or are too many. -/
theorem memo_resolveAll (hierarchy : Hierarchy) (ids : List String) :
    let resolver := (resolveAll hierarchy {} ids).2
    let memo := resolver.memo
    resolver.memoized = memo.ids.toFinset.card ∧
      (∀ id, id ∈ memo.ids ↔ ∃ asked ∈ ids, ∃ target, hierarchy.type? asked = some target ∧
        hierarchy.ComesToEnd target ∧ id ∈ asked :: hierarchy.lineageOf asked) ∧
      (∀ id ∈ memo.ids, ∃ type, hierarchy.type? id = some type ∧
        ∀ parent, hierarchy.parent? type = some parent → parent.id ∈ memo.ids) ∧
      ∀ id type, hierarchy.type? id = some type →
        ((∃ cycle, (hierarchy.walk [] type).ending = .cycle cycle) ∨
          (hierarchy.walk [] type).ending = .tooDeep) → id ∉ memo.ids := by
  intro resolver memo
  have hkeeps : resolver.Keeps hierarchy ids := List.nil_append ids ▸ keeps_nil.resolveAll ids
  refine ⟨?_, hkeeps.mem_iff, fun id hid => ?_, fun id type hfound hunended hid => ?_⟩
  · rw [List.toFinset_card_of_nodup hkeeps.nodup, Memo.ids, List.length_map]
    rfl
  · obtain ⟨type, above, hfound, ⟨habove, -⟩, hsubset⟩ := hkeeps.exists_ascent hid
    refine ⟨type, hfound, fun parent hparent => hsubset ?_⟩
    cases habove with
    | top hnone => rw [hparent] at hnone; cases hnone
    | step hother => rw [hparent] at hother; cases hother; simp
  · obtain ⟨same, above, hfound', habove, -⟩ := hkeeps.exists_ascent hid
    cases hfound.symm.trans hfound'
    have hends := (comesToEnd_iff (knows_of_type? hfound)).mpr ⟨above, habove⟩
    rcases hunended with ⟨cycle, hending⟩ | hending <;> simp [ComesToEnd, hending] at hends

theorem memo_resolveAll_knotted :
    let memo := (resolveAll knotted {} ["z", "c"]).2.memo
    "a" ∈ memo.ids ∧ "z" ∉ memo.ids := by
  have hmemo := memo_resolveAll knotted ["z", "c"]
  obtain ⟨_, hline⟩ : ∃ path,
      knotted.walk [] { EntityType.new "c" "v" .item with parentId := some "b" } = ⟨path, .root⟩ :=
    ⟨_, @walk_of_walkFor _ _ _ 3 _ rfl⟩
  obtain ⟨_, hknot⟩ : ∃ path,
      knotted.walk [] { EntityType.new "z" "v" .item with parentId := some "x" } =
        ⟨path, .cycle ["x", "y", "x"]⟩ := ⟨_, @walk_of_walkFor _ _ _ 3 _ rfl⟩
  exact ⟨(hmemo.2.1 "a").mpr ⟨"c", by simp, _, rfl, Or.inl (by rw [hline]), by decide⟩,
    hmemo.2.2.2 "z" _ rfl (Or.inl ⟨_, by rw [hknot]⟩)⟩

end Resolver

end KnowledgeSchema
