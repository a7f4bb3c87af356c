import Mathlib.Data.List.DropRight
import KnowledgeSchema.Proofs.Concurrent.Ids
import KnowledgeSchema.Proofs.Numbering.Claim

/-!
# Versions that others insert

Each version gets an id that was given out for it and to nobody else, so the id of a version is
never in its way, and only a number that was taken can be. While a call is under way, its rivals
are the insertions of others into the same blueprint.
-/

namespace KnowledgeSchema

/-! ### Rivals -/

/-- An insertion into a blueprint by another call. -/
def Exchange.rivals (task : Nat) (blueprintId : String) (e : Exchange) : Bool :=
  e.caller.task != task &&
    (e.before.store.versionsOf blueprintId).length < (e.after.store.versionsOf blueprintId).length

namespace Scene

/-- What has happened since the first request of a call. -/
def since (scene : Scene) (task : Nat) : List Exchange :=
  scene.journal.dropWhile (·.caller.task != task)

/-- What happened from the first request of a call to the last one that it has made. -/
def span (scene : Scene) (task : Nat) : List Exchange :=
  (scene.since task).rdropWhile (·.caller.task != task)

variable {scene : Scene} {caller : Caller} {r : Request} {task : Nat} {blueprintId : String}

theorem since_exchange (scene : Scene) (caller : Caller) (r : Request) (task : Nat) :
    (scene.exchange caller r).2.since task =
      if (scene.since task).isEmpty then
        [scene.next caller r].dropWhile (·.caller.task != task)
      else scene.since task ++ [scene.next caller r] := by
  rw [since, journal_exchange, List.dropWhile_append]
  rfl

theorem since_exchange_self :
    (scene.exchange caller r).2.since caller.task =
      scene.since caller.task ++ [scene.next caller r] := by
  rw [since_exchange]
  split_ifs with hempty
  · rw [List.isEmpty_iff.mp hempty]
    simp [next]
  · rfl

theorem since_exchange_ne (hbegun : scene.since task ≠ []) :
    (scene.exchange caller r).2.since task = scene.since task ++ [scene.next caller r] := by
  rw [since_exchange, if_neg fun hempty => hbegun (List.isEmpty_iff.mp hempty)]

@[simp]
theorem span_exchange_self :
    (scene.exchange caller r).2.span caller.task =
      scene.since caller.task ++ [scene.next caller r] := by
  rw [span, since_exchange_self, List.rdropWhile_concat_neg _ _ _ (by simp [next])]

theorem span_exchange_ne (hother : caller.task ≠ task) :
    (scene.exchange caller r).2.span task = scene.span task := by
  by_cases hbegun : scene.since task = []
  · have hstill : (scene.exchange caller r).2.since task = [] := by
      rw [since_exchange, if_pos (List.isEmpty_iff.mpr hbegun)]
      simp [next, hother]
    rw [span, hstill, span, hbegun]
  · rw [span, since_exchange_ne hbegun, List.rdropWhile_concat_pos _ _ _ (by simpa [next])]
    rfl

theorem countP_span_le (blueprintId : String) :
    (scene.span task).countP (·.rivals task blueprintId) ≤
      (scene.since task).countP (·.rivals task blueprintId) :=
  (List.rdropWhile_prefix _ _).sublist.countP_le

theorem countP_since_exchange_self (blueprintId : String) :
    ((scene.exchange caller r).2.since caller.task).countP (·.rivals caller.task blueprintId) =
      (scene.since caller.task).countP (·.rivals caller.task blueprintId) := by
  rw [since_exchange_self, List.countP_append, List.countP_singleton]
  simp [Exchange.rivals, next]

theorem span_eq_since_of_self :
    (scene.exchange caller r).2.span caller.task =
      (scene.exchange caller r).2.since caller.task := by
  rw [span_exchange_self, since_exchange_self]

end Scene

/-! ### Numbers that are taken -/

namespace Store

variable {store after : Store}

def versionIds (store : Store) : List String :=
  store.keys.map (·.1)

theorem isTaken_iff {version : Version} : store.isTaken version = true ↔
    version.id ∈ store.versionIds ∨
      ∃ id, (id, version.blueprintId, version.number) ∈ store.keys := by
  simp only [isTaken, List.any_eq_true, Bool.or_eq_true, Bool.and_eq_true, beq_iff_eq, versionIds,
    keys, List.mem_map]
  constructor
  · rintro ⟨row, hrow, hid | ⟨hblueprint, hnumber⟩⟩
    · exact Or.inl ⟨_, ⟨row, hrow, rfl⟩, hid⟩
    · exact Or.inr ⟨row.id, row, hrow, by rw [hblueprint, hnumber]⟩
  · rintro (⟨_, ⟨row, hrow, rfl⟩, hid⟩ | ⟨id, row, hrow, hkey⟩)
    · exact ⟨row, hrow, Or.inl hid⟩
    · simp only [Prod.mk.injEq] at hkey
      exact ⟨row, hrow, Or.inr hkey.2⟩

/-- A number that was free and is taken now was taken by a version that has come since. -/
theorem length_versionsOf_lt (hkeys : store.keys <+: after.keys) {id blueprintId : String}
    {number : Int64} (htaken : (id, blueprintId, number) ∈ after.keys)
    (hfree : (id, blueprintId, number) ∉ store.keys) :
    (store.versionsOf blueprintId).length < (after.versionsOf blueprintId).length := by
  obtain ⟨extra, hafter⟩ := hkeys
  have hnew : (id, blueprintId, number) ∈ extra := by
    rw [← hafter] at htaken
    exact (List.mem_append.mp htaken).resolve_left hfree
  have hpositive : 0 < (extra.filter (·.2.1 == blueprintId)).length :=
    List.length_pos_of_mem (List.mem_filter.mpr ⟨hnew, beq_self_eq_true _⟩)
  rw [length_versionsOf, length_versionsOf, ← hafter, List.filter_append, List.length_append]
  omega

end Store

/-! ### The pact -/

/-- The versions stay as they are known, or one more comes to them. -/
def Exchange.AddsOne (e : Exchange) : Prop :=
  e.after.store.keys = e.before.store.keys ∨
    ∃ version : Version, e.after.store.versions = e.before.store.versions ++ [version.toRow]

/-- Every version that has come has an id that was given out to the call that inserted it. -/
structure Scene.IsAllotted (ids : Ids) (scene : Scene) : Prop where
  issue : scene.IsIssued ids
  unissued : ∀ place, scene.world.idsTaken ≤ place → ids place ∉ scene.store.versionIds
  grown : ∀ e ∈ scene.journal, ∀ id ∈ e.after.store.versionIds,
    id ∈ e.before.store.versionIds ∨ id ∈ scene.handedTo e.caller.task

def allotmentPact (ids : Ids) : Pact where
  holds := Scene.IsAllotted ids
  allows := Exchange.AddsOne

/-- An id that was given out to a call and to which there is no version yet. -/
def Scene.HasSpare (task : Nat) (id : String) (scene : Scene) : Prop :=
  id ∈ scene.handedTo task ∧ id ∉ scene.store.versionIds

/-- After so many rivals a number is free, unless there has been one more. What is no number of a
version need not be free. -/
def Scene.IsPressed (task : Nat) (blueprintId : String) (number : Int64) (count : Nat)
    (scene : Scene) : Prop :=
  scene.since task ≠ [] ∧ count ≤ (scene.since task).countP (·.rivals task blueprintId) ∧
    (0 < number → (∃ id, (id, blueprintId, number) ∈ scene.store.keys) →
      count < (scene.since task).countP (·.rivals task blueprintId))

section Pact

theorem Exchange.AddsOne.keys_prefix {e : Exchange} (hadds : e.AddsOne) :
    e.before.store.keys <+: e.after.store.keys := by
  rcases hadds with hkeys | ⟨version, hversions⟩
  · rw [hkeys]
  · rw [Store.keys_inserted hversions]
    exact List.prefix_append _ _

/-- A rival is one version of the blueprint. -/
theorem Exchange.AddsOne.version_of_rivals {e : Exchange} (hadds : e.AddsOne) {task : Nat}
    {blueprintId : String} (hrivals : e.rivals task blueprintId = true) :
    ∃ version : Version, version.blueprintId = blueprintId ∧
      e.after.store.versions = e.before.store.versions ++ [version.toRow] := by
  simp only [rivals, Bool.and_eq_true, decide_eq_true_eq] at hrivals
  have hlonger := hrivals.2
  rcases hadds with hkeys | ⟨version, hversions⟩
  · rw [Store.length_versionsOf, Store.length_versionsOf, hkeys] at hlonger
    omega
  · refine ⟨version, ?_, hversions⟩
    by_contra hother
    rw [Store.versionsOf_inserted hversions, if_neg hother] at hlonger
    omega

variable {ids : Ids} {scene : Scene} {caller : Caller} {r : Request} {task : Nat}

theorem Scene.addsOne_next (hworld : scene.world.IsUndisturbed) (caller : Caller) (r : Request) :
    (scene.next caller r).AddsOne := by
  cases r with
  | store call limit =>
    rcases exchange_store hworld caller call limit with ⟨-, hafter⟩ | ⟨-, hafter⟩
    · rw [Exchange.AddsOne, next, hafter]
      rcases Store.keys_run scene.store call with hkeys | ⟨version, -, -, -, hversions⟩
      · exact Or.inl hkeys
      · exact Or.inr ⟨version, hversions⟩
    · rw [Exchange.AddsOne, next, hafter]
      exact Or.inl rfl
  | _ => exact Or.inl rfl

/-- A version is inserted, or the store is as it was. -/
theorem Scene.inserted_exchange {call : Store.Call} {version : Version}
    (hworld : scene.world.IsUndisturbed) (caller : Caller) (limit : Option Nat)
    (hinserted : call.inserted? = some version) :
    (∃ result, (scene.exchange caller (.store call limit)).1 = .ok result ∧
        0 < version.number ∧ (scene.exchange caller (.store call limit)).2.store.versions =
          scene.store.versions ++ [version.toRow]) ∨
      ∃ failure, (scene.exchange caller (.store call limit)).1 = .error failure ∧
        (scene.exchange caller (.store call limit)).2.store = scene.store := by
  rcases exchange_store hworld caller call limit with ⟨hanswer, hafter⟩ | ⟨hanswer, hafter⟩
  · have hstore := congrArg World.store hafter
    rcases Store.run_inserted scene.store hinserted with
      ⟨⟨result, hresult⟩, hpositive, -, hversions⟩ | ⟨⟨failure, hfailure⟩, hsame⟩
    · exact Or.inl ⟨result, hanswer.trans hresult, hpositive,
        (congrArg Store.versions hstore).trans hversions⟩
    · exact Or.inr ⟨failure, hanswer.trans hfailure, hstore.trans hsame⟩
  · exact Or.inr ⟨_, hanswer, congrArg World.store hafter⟩

namespace Scene.IsAllotted

theorem exchange (hallotted : scene.IsAllotted ids) (hinjective : Function.Injective ids)
    (hgrown : ∀ id ∈ (scene.exchange caller r).2.store.versionIds,
      id ∈ scene.store.versionIds ∨ id ∈ (scene.exchange caller r).2.handedTo caller.task) :
    (allotmentPact ids).allows (scene.next caller r) ∧
      (allotmentPact ids).holds (scene.exchange caller r).2 := by
  have hissue := hallotted.issue.exchange hinjective caller r
  obtain ⟨-, hle⟩ := ids_exchange hallotted.issue.undisturbed caller r
  refine ⟨addsOne_next hallotted.issue.undisturbed caller r, hissue, ?unissued, ?grown⟩
  case unissued =>
    intro place hplace hid
    rcases hgrown _ hid with hold | hmine
    · exact hallotted.unissued place (hle.trans hplace) hold
    · obtain ⟨taken, htaken, heq⟩ := hissue.issued _ _ hmine
      obtain rfl := hinjective heq
      omega
  case grown =>
    intro e he id hid
    rcases List.mem_append.mp he with he | he
    · exact (hallotted.grown e he id hid).imp_right fun hmine => handedTo_subset hmine
    · obtain rfl := List.mem_singleton.mp he
      exact hgrown id hid

theorem keeps (hallotted : scene.IsAllotted ids) (hinjective : Function.Injective ids)
    (hkeys : (scene.exchange caller r).2.store.keys = scene.store.keys) :
    (allotmentPact ids).allows (scene.next caller r) ∧
      (allotmentPact ids).holds (scene.exchange caller r).2 :=
  hallotted.exchange hinjective fun id hid => Or.inl (by rwa [Store.versionIds, hkeys] at hid)

theorem quiet (hallotted : scene.IsAllotted ids) (hinjective : Function.Injective ids)
    (caller : Caller) (hquiet : r.IsQuiet) :
    (allotmentPact ids).allows (scene.next caller r) ∧
      (allotmentPact ids).holds (scene.exchange caller r).2 :=
  hallotted.keeps hinjective
    (congrArg Store.keys (store_exchange_of_quiet hallotted.issue.undisturbed caller hquiet))

theorem inserts {call : Store.Call} {limit : Option Nat} {version : Version}
    (hallotted : scene.IsAllotted ids) (hinjective : Function.Injective ids)
    (hinserted : call.inserted? = some version)
    (hhanded : version.id ∈ scene.handedTo caller.task) :
    (allotmentPact ids).allows (scene.next caller (.store call limit)) ∧
      (allotmentPact ids).holds (scene.exchange caller (.store call limit)).2 := by
  rcases inserted_exchange hallotted.issue.undisturbed caller limit hinserted with
    ⟨-, -, -, hversions⟩ | ⟨-, -, hsame⟩
  · refine hallotted.exchange hinjective fun id hid => ?_
    rw [Store.versionIds, Store.keys_inserted hversions, List.map_append, List.mem_append] at hid
    refine hid.imp_right fun hnew => ?_
    obtain rfl : id = version.id := by simpa using hnew
    exact handedTo_subset hhanded
  · exact hallotted.keeps hinjective (by rw [hsame])

theorem hasSpare (hallotted : scene.IsAllotted ids) (caller : Caller) :
    (scene.exchange caller (.freshIds 1)).2.HasSpare caller.task
      ((scene.exchange caller (.freshIds 1)).1 0) := by
  have hhanded : (scene.exchange caller (.freshIds 1)).1 0 ∈
      (scene.next caller (.freshIds 1)).handed := Ids.mem_upTo Nat.zero_lt_one
  refine ⟨?_, fun hthere => ?_⟩
  · rw [handedTo_exchange_self]
    exact List.mem_append_right _ hhanded
  · obtain ⟨place, hplace, -, heq⟩ := mem_handed hhanded
    rw [hallotted.issue.source] at heq
    exact hallotted.unissued place hplace (heq ▸ hthere)

end Scene.IsAllotted

theorem stable_hasSpare (id : String) :
    (allotmentPact ids).Stable task (Scene.HasSpare task id) := by
  rintro scene _ ⟨caller, r, hother, rfl, -, hallotted⟩ ⟨hhanded, hspare⟩
  refine ⟨Scene.handedTo_subset hhanded, fun hthere => ?_⟩
  have hnext : scene.next caller r ∈ (scene.exchange caller r).2.journal :=
    List.mem_append_right _ (List.mem_singleton_self _)
  rcases hallotted.grown _ hnext id hthere with hold | hmine
  · exact hspare hold
  · exact hother (hallotted.issue.distinct _ _ id hmine (Scene.handedTo_subset hhanded))

/-- Whoever takes the number is a rival. -/
theorem stable_isPressed (blueprintId : String) (number : Int64) (count : Nat) :
    (allotmentPact ids).Stable task (Scene.IsPressed task blueprintId number count) := by
  rintro scene _ ⟨caller, r, hother, rfl, hadds, -⟩ ⟨hbegun, hcount, hpressed⟩
  have hsince := @Scene.since_exchange_ne scene caller r task hbegun
  rw [Scene.IsPressed, hsince, List.countP_append, List.countP_singleton]
  refine ⟨by simp, by omega, ?_⟩
  rintro hpositive ⟨id, htaken⟩
  by_cases hfree : (id, blueprintId, number) ∈ scene.store.keys
  · have hearlier := hpressed hpositive ⟨id, hfree⟩
    omega
  · have hrival : (scene.next caller r).rivals task blueprintId = true := by
      have hlength := Store.length_versionsOf_lt hadds.keys_prefix htaken hfree
      simp only [Exchange.rivals, Bool.and_eq_true, bne_iff_ne, decide_eq_true_eq]
      exact ⟨hother, hlength⟩
    rw [if_pos hrival]
    omega

theorem stable_span (ids : Ids) (task : Nat)
    (assertion : List Exchange → List Exchange → Prop) :
    (allotmentPact ids).Stable task fun scene =>
      assertion (scene.ofTask task) (scene.span task) := by
  rintro scene _ ⟨caller, r, hother, rfl, -, -⟩ hassertion
  rw [Scene.ofTask_exchange_ne scene r hother, Scene.span_exchange_ne hother]
  exact hassertion

end Pact

end KnowledgeSchema
