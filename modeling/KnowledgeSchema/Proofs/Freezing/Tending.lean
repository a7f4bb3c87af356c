import KnowledgeSchema.Proofs.Concurrent.Requests
import KnowledgeSchema.Proofs.Freezing.Placement

/-!
# Who changes the definitions of a version

Ids are given out once, so what one call writes under ids of its own is out of the way of all
others. Once a version has left draft, the only request that can still change its definitions is the
write of an import that found the version a draft at an earlier time, and that request does change
them unless it leaves the whole store alone.
-/

namespace KnowledgeSchema

/-! ### Journals -/

/-- Something that holds of every exchange of a journal, given all those before it. -/
def Throughout (property : List Exchange → Exchange → Prop) (journal : List Exchange) : Prop :=
  ∀ earlier e later, journal = earlier ++ e :: later → property earlier e

theorem throughout_nil {property : List Exchange → Exchange → Prop} : Throughout property [] := by
  intro earlier e later heq
  simp at heq

theorem throughout_concat {property : List Exchange → Exchange → Prop} {journal : List Exchange}
    {last : Exchange} (hjournal : Throughout property journal) (hlast : property journal last) :
    Throughout property (journal ++ [last]) := by
  intro earlier e later heq
  rcases List.eq_nil_or_concat later with rfl | ⟨between, final, rfl⟩
  · obtain ⟨rfl, hsame⟩ := List.append_inj' heq rfl
    obtain rfl := List.singleton_inj.mp hsame
    exact hlast
  · rw [List.concat_eq_append, ← List.cons_append, ← List.append_assoc] at heq
    exact hjournal earlier e between (List.append_inj' heq rfl).1

/-- A version was something other than a draft at some time before the end of a history. -/
def HasLeftDraft (versionId : String) (history : List Exchange) : Prop :=
  ∃ past ∈ history, ∃ row, past.before.store.row? versionId = some row ∧ row.status ≠ .draft

namespace Exchange

def FindsDraft (versionId : String) (e : Exchange) : Prop :=
  e.request = .store (.getVersion versionId) none ∧
    ∃ row, e.before.store.row? versionId = some row ∧ row.status = .draft

/-- The write of an import into the version. -/
def Imports (versionId : String) (e : Exchange) : Prop :=
  (∃ bundle, e.caller.command = .importBundle versionId bundle) ∧
    ∃ set limit, e.request = .store (.saveAll set) limit

def Alters (versionId : String) (e : Exchange) : Prop :=
  e.after.store.rowsOf versionId ≠ e.before.store.rowsOf versionId

end Exchange

/-! ### The pact -/

/-- What holds of a scene in which only imports that found a draft alter a version that has left
draft. -/
structure Scene.IsTended (ids : Ids) (versionId : String) (scene : Scene) : Prop where
  issue : scene.IsIssued ids
  unissued : ∀ place, scene.world.idsTaken ≤ place → ids place ∉ scene.store.definitionIds
  grown : ∀ e ∈ scene.journal,
    Store.AddsOnly (scene.handedTo e.caller.task) e.before.store e.after.store
  kept : ∀ e ∈ scene.journal, e.before.store.keys <+: scene.store.keys
  frozen : Throughout (fun earlier e => HasLeftDraft versionId (earlier ++ [e]) →
    e.Alters versionId →
      e.Imports versionId ∧ ∃ read ∈ earlier, read.caller = e.caller ∧ read.FindsDraft versionId)
    scene.journal
  effective : ∀ e ∈ scene.journal, e.Imports versionId → e.after.store ≠ e.before.store →
    e.Alters versionId

def tendingPact (ids : Ids) (versionId : String) : Pact where
  holds := Scene.IsTended ids versionId
  allows _ := True

namespace Scene.IsTended

variable {ids : Ids} {versionId : String} {scene : Scene} {caller : Caller} {r : Request}

/-- An exchange that adds definitions only under ids of its call, and alters the version only as
an import that found a draft may. -/
theorem exchange (htended : scene.IsTended ids versionId) (hinjective : Function.Injective ids)
    (hadds : Store.AddsOnly ((scene.exchange caller r).2.handedTo caller.task) scene.store
      (scene.exchange caller r).2.store)
    (hfrozen : HasLeftDraft versionId (scene.journal ++ [scene.next caller r]) →
      (scene.next caller r).Alters versionId →
        (scene.next caller r).Imports versionId ∧
          ∃ read ∈ scene.journal, read.caller = caller ∧ read.FindsDraft versionId)
    (heffective : (scene.next caller r).Imports versionId →
      (scene.exchange caller r).2.store ≠ scene.store →
        (scene.next caller r).Alters versionId) :
    (scene.exchange caller r).2.IsTended ids versionId := by
  have hissue := htended.issue.exchange hinjective caller r
  obtain ⟨-, hle⟩ := ids_exchange htended.issue.undisturbed caller r
  refine ⟨hissue, ?unissued, ?grown, ?kept, ?frozen, ?effective⟩
  case unissued =>
    intro place hplace hid
    rcases hadds.definitionIds _ hid with hold | hmine
    · exact htended.unissued place (hle.trans hplace) hold
    · obtain ⟨taken, htaken, heq⟩ := hissue.issued _ _ hmine
      obtain rfl := hinjective heq
      omega
  case grown =>
    intro e he
    rcases List.mem_append.mp he with he | he
    · exact (htended.grown e he).mono handedTo_subset
    · obtain rfl := List.mem_singleton.mp he
      exact hadds
  case kept =>
    have hkeys := keys_exchange htended.issue.undisturbed caller r
    intro e he
    rcases List.mem_append.mp he with he | he
    · exact (htended.kept e he).trans hkeys
    · obtain rfl := List.mem_singleton.mp he
      exact hkeys
  case frozen => exact throughout_concat htended.frozen hfrozen
  case effective =>
    intro e he
    rcases List.mem_append.mp he with he | he
    · exact htended.effective e he
    · obtain rfl := List.mem_singleton.mp he
      exact heffective

theorem spare (htended : scene.IsTended ids versionId) (hinjective : Function.Injective ids)
    (hpart : (scene.exchange caller r).2.store.definitionPart = scene.store.definitionPart)
    (hstill : (scene.next caller r).Imports versionId →
      (scene.exchange caller r).2.store = scene.store) :
    (scene.exchange caller r).2.IsTended ids versionId :=
  htended.exchange hinjective (Store.addsOnly_of_congr hpart)
    (fun _ halters => absurd (Store.rowsOf_congr hpart versionId) halters)
    fun himports hchanged => absurd (hstill himports) hchanged

theorem quiet (htended : scene.IsTended ids versionId) (hinjective : Function.Injective ids)
    (hquiet : r.IsQuiet) : (scene.exchange caller r).2.IsTended ids versionId := by
  have hstore := store_exchange_of_quiet htended.issue.undisturbed caller hquiet
  exact htended.spare hinjective (congrArg Store.definitionPart hstore) fun _ => hstore

theorem isTaken (htended : scene.IsTended ids versionId) {version : Version}
    (hleft : HasLeftDraft version.id (scene.journal ++ [scene.next caller r])) :
    scene.store.isTaken version = true := by
  obtain ⟨past, hpast, row, hrow, -⟩ := hleft
  have hkeys : past.before.store.keys <+: scene.store.keys := by
    rcases List.mem_append.mp hpast with hpast | hpast
    · exact htended.kept past hpast
    · exact List.mem_singleton.mp hpast ▸ List.prefix_rfl
  have hkey := hkeys.subset (List.mem_map_of_mem (Store.mem_of_row? hrow))
  obtain ⟨now, hnow, heq⟩ := List.mem_map.mp hkey
  refine List.any_eq_true.mpr ⟨now, hnow, ?_⟩
  have hid : now.id = version.id := (Prod.mk.inj heq).1.trans (Store.row?_id hrow)
  simp [hid]

/-- What other calls add is out of the way of the ids of a call. -/
theorem adds_elsewhere {task : Nat} (htended : (scene.exchange caller r).2.IsTended ids versionId)
    (hother : caller.task ≠ task) :
    ∃ others, Store.AddsOnly others scene.store (scene.exchange caller r).2.store ∧
      ∀ id ∈ scene.handedTo task, id ∉ others := by
  refine ⟨_, htended.grown (scene.next caller r) ?_, fun id hid hothers => ?_⟩
  · exact List.mem_append_right _ (List.mem_singleton_self _)
  · exact hother (htended.issue.distinct _ _ id hothers (handedTo_subset hid))

end Scene.IsTended

/-! ### What a call can rely on -/

def Scene.HasUnused (task : Nat) (own : List String) (scene : Scene) : Prop :=
  own ⊆ scene.handedTo task ∧ ∀ id ∈ own, id ∉ scene.store.definitionIds

def Scene.HasReserved (task : Nat) (own : List String) (versionId : String) (scene : Scene) :
    Prop :=
  own ⊆ scene.handedTo task ∧ scene.store.IsReserved own versionId

section Stability

variable {ids : Ids} {versionId : String} {own : List String} {task : Nat}

theorem stable_hasUnused :
    (tendingPact ids versionId).Stable task (Scene.HasUnused task own) := by
  rintro scene _ ⟨caller, r, hother, rfl, -, htended⟩ ⟨howned, hunused⟩
  obtain ⟨others, hadds, hdisjoint⟩ := htended.adds_elsewhere hother
  refine ⟨fun id hid => Scene.handedTo_subset (howned hid), fun id hid hafter => ?_⟩
  rcases hadds.definitionIds id hafter with hold | hnew
  · exact hunused id hid hold
  · exact hdisjoint id (howned hid) hnew

theorem stable_hasReserved (target : String) :
    (tendingPact ids versionId).Stable task (Scene.HasReserved task own target) := by
  rintro scene _ ⟨caller, r, hother, rfl, -, htended⟩ ⟨howned, hreserved⟩
  obtain ⟨others, hadds, hdisjoint⟩ := htended.adds_elsewhere hother
  exact ⟨fun id hid => Scene.handedTo_subset (howned hid),
    hadds.isReserved (fun id hid => hdisjoint id (howned hid)) hreserved⟩

end Stability

end KnowledgeSchema
