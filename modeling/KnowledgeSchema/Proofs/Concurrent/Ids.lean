import KnowledgeSchema.Proofs.Concurrent.Pact

/-!
# Ids that are given out

Every id that a call gets comes from one source, which never goes back, so no two calls get the same
one.
-/

namespace KnowledgeSchema

def Ids.upTo (ids : Ids) (count : Nat) : List String :=
  (List.range count).map ids

theorem Ids.mem_upTo {ids : Ids} {count position : Nat} (hposition : position < count) :
    ids position ∈ ids.upTo count :=
  List.mem_map_of_mem (List.mem_range.mpr hposition)

def Exchange.handed (e : Exchange) : List String :=
  match e.request with
  | .freshIds count => Ids.upTo (e.before.freshIds count).1 count
  | _ => []

namespace Scene

/-- The ids that were given out to a call. -/
def handedTo (scene : Scene) (task : Nat) : List String :=
  (scene.ofTask task).flatMap Exchange.handed

variable {scene : Scene} {caller : Caller} {r : Request} {task : Nat}

theorem handedTo_exchange_self :
    (scene.exchange caller r).2.handedTo caller.task =
      scene.handedTo caller.task ++ (scene.next caller r).handed := by
  simp [handedTo]

theorem handedTo_exchange_ne (hother : caller.task ≠ task) :
    (scene.exchange caller r).2.handedTo task = scene.handedTo task := by
  rw [handedTo, ofTask_exchange_ne scene r hother, handedTo]

theorem handedTo_subset : scene.handedTo task ⊆ (scene.exchange caller r).2.handedTo task := by
  by_cases hself : caller.task = task
  · subst hself
    rw [handedTo_exchange_self]
    exact List.subset_append_left _ _
  · rw [handedTo_exchange_ne hself]
    exact fun _ => id

theorem ids_exchange (hworld : scene.world.IsUndisturbed) (caller : Caller) (r : Request) :
    (scene.exchange caller r).2.world.ids = scene.world.ids ∧
      scene.world.idsTaken ≤ (scene.exchange caller r).2.world.idsTaken := by
  cases r with
  | store call limit =>
    rcases exchange_store hworld caller call limit with ⟨-, hafter⟩ | ⟨-, hafter⟩
    · rw [hafter]
      exact ⟨rfl, Nat.le_refl _⟩
    · rw [hafter]
      exact ⟨rfl, Nat.le_refl _⟩
  | freshIds count => exact ⟨rfl, Nat.le_add_right _ _⟩
  | _ => exact ⟨rfl, Nat.le_refl _⟩

theorem mem_handed {id : String} (hid : id ∈ (scene.next caller r).handed) :
    ∃ place, scene.world.idsTaken ≤ place ∧
      place < (scene.exchange caller r).2.world.idsTaken ∧ scene.world.ids place = id := by
  cases r with
  | freshIds count =>
    obtain ⟨position, hposition, rfl⟩ := List.mem_map.mp hid
    rw [List.mem_range] at hposition
    exact ⟨scene.world.idsTaken + position, by omega, Nat.add_lt_add_left hposition _, rfl⟩
  | _ => cases hid

/-- The source, and what was given out from its start on. -/
structure IsIssued (ids : Ids) (scene : Scene) : Prop where
  undisturbed : scene.world.IsUndisturbed
  source : scene.world.ids = ids
  issued : ∀ task, ∀ id ∈ scene.handedTo task, ∃ place < scene.world.idsTaken, ids place = id
  /-- No id was given out to two calls. -/
  distinct : ∀ first second, ∀ id ∈ scene.handedTo first, id ∈ scene.handedTo second →
    first = second

namespace IsIssued

variable {ids : Ids}

theorem not_mem_handedTo (hissued : scene.IsIssued ids) (hinjective : Function.Injective ids)
    {id : String} (hid : id ∈ (scene.next caller r).handed) (task : Nat) :
    id ∉ scene.handedTo task := by
  intro hold
  obtain ⟨later, hlater, -, heq⟩ := mem_handed hid
  obtain ⟨place, hplace, hsame⟩ := hissued.issued task id hold
  rw [hissued.source] at heq
  obtain rfl := hinjective (heq.trans hsame.symm)
  omega

theorem exchange (hissued : scene.IsIssued ids) (hinjective : Function.Injective ids)
    (caller : Caller) (r : Request) : (scene.exchange caller r).2.IsIssued ids := by
  obtain ⟨hids, hle⟩ := ids_exchange hissued.undisturbed caller r
  constructor
  case undisturbed => exact exchange_undisturbed hissued.undisturbed
  case source => exact hids.trans hissued.source
  case issued =>
    intro task id hid
    by_cases hself : caller.task = task
    · subst hself
      rw [handedTo_exchange_self, List.mem_append] at hid
      rcases hid with hid | hid
      · obtain ⟨place, hplace, heq⟩ := hissued.issued _ id hid
        exact ⟨place, Nat.lt_of_lt_of_le hplace hle, heq⟩
      · obtain ⟨place, -, hplace, heq⟩ := mem_handed hid
        exact ⟨place, hplace, hissued.source ▸ heq⟩
    · rw [handedTo_exchange_ne hself] at hid
      obtain ⟨place, hplace, heq⟩ := hissued.issued _ id hid
      exact ⟨place, Nat.lt_of_lt_of_le hplace hle, heq⟩
  case distinct =>
    -- Only one of two different calls can be the one that gets ids now.
    have hcaller : ∀ task id, caller.task ≠ task →
        id ∈ (scene.exchange caller r).2.handedTo caller.task →
        id ∉ (scene.exchange caller r).2.handedTo task := by
      intro task id hother hid hmem
      rw [handedTo_exchange_ne hother] at hmem
      rw [handedTo_exchange_self, List.mem_append] at hid
      rcases hid with hid | hid
      · exact hother (hissued.distinct _ _ id hid hmem)
      · exact hissued.not_mem_handedTo hinjective hid task hmem
    intro first second id hfirst hsecond
    by_contra hdiffer
    by_cases hself : caller.task = first
    · subst hself
      exact hcaller second id hdiffer hfirst hsecond
    · by_cases hother : caller.task = second
      · subst hother
        exact hcaller first id hself hsecond hfirst
      · rw [handedTo_exchange_ne hself] at hfirst
        rw [handedTo_exchange_ne hother] at hsecond
        exact hdiffer (hissued.distinct _ _ id hfirst hsecond)

end IsIssued

end Scene

end KnowledgeSchema
