import KnowledgeSchema.Proofs.Concurrent.Logs
import KnowledgeSchema.Proofs.Concurrent.Pact
import KnowledgeSchema.Proofs.Concurrent.Requests
import KnowledgeSchema.Proofs.Lifecycle.Row

/-!
# Accounts of status changes

What one call does to the status of a version, set against what it tells the event log. The pact of
all calls is that the row of the version lives the life of a version row and that every account is
in order.
-/

namespace KnowledgeSchema

def Command.moves? : Command → Option (String × Status)
  | transition versionId next => some (versionId, next)
  | transitionAndEvict versionId next => some (versionId, next)
  | _ => none

/-! ### Single exchanges -/

namespace Exchange

/-- The statuses between which an exchange moves a version. -/
def change? (versionId : String) (e : Exchange) : Option (Status × Status) :=
  match e.before.store.row? versionId, e.after.store.row? versionId with
  | some old, some row => if old.status = row.status then none else some (old.status, row.status)
  | _, _ => none

def announcement? (versionId : String) (e : Exchange) : Option (Status × Status) :=
  match e.request with
  | .record (.statusChanged id before after _) =>
    if id = versionId then some (before, after) else none
  | _ => none

def FindsTarget (versionId : String) (e : Exchange) : Prop :=
  ∃ next row limit, e.caller.command.moves? = some (versionId, next) ∧
    e.request = .store (.getVersion versionId) limit ∧
    e.before.store.row? versionId = some row ∧ row.status = next

/-- An exchange that neither moves a version nor tells so. One of a call that is to move the version
neither changes nor records anything else. -/
structure IsIdle (versionId : String) (e : Exchange) : Prop where
  change : e.change? versionId = none
  announcement : e.announcement? versionId = none
  store : ∀ next, e.caller.command.moves? = some (versionId, next) →
    e.after.store = e.before.store ∧ e.event? = none

variable {versionId : String} {e : Exchange}

theorem change?_of_row?_eq
    (hrow : e.after.store.row? versionId = e.before.store.row? versionId) :
    e.change? versionId = none := by
  rw [change?, hrow]
  cases e.before.store.row? versionId with
  | none => rfl
  | some row => exact if_pos rfl

theorem change?_of_none (hnone : e.before.store.row? versionId = none) :
    e.change? versionId = none := by
  rw [change?, hnone]

theorem announcement?_of_quiet (hquiet : e.request.IsQuiet) : e.announcement? versionId = none := by
  rw [announcement?]
  split
  next hrequest =>
    rw [hrequest] at hquiet
    exact hquiet.elim
  next => rfl

end Exchange

/-! ### Accounts -/

/-- An account is in order when a call tells of no change that it did not make, makes at most one,
and makes none once it has found that there is nothing to do. -/
structure Account (versionId : String) (own : List Exchange) : Prop where
  announced : own.filterMap (·.announcement? versionId) <+: own.filterMap (·.change? versionId)
  once : (own.filterMap (·.change? versionId)).length ≤ 1
  idle : (∃ e ∈ own, e.FindsTarget versionId) → ∀ e ∈ own, e.IsIdle versionId

structure Tally (versionId : String) (own : List Exchange)
    (changes announcements : List (Status × Status)) : Prop where
  changes : own.filterMap (·.change? versionId) = changes
  announcements : own.filterMap (·.announcement? versionId) = announcements
  undone : ∀ e ∈ own, ¬e.FindsTarget versionId

variable {versionId : String} {own : List Exchange} {e : Exchange}

theorem changes_of_idle (hidle : ∀ e ∈ own, e.IsIdle versionId) :
    own.filterMap (·.change? versionId) = [] :=
  List.filterMap_eq_nil_iff.mpr fun e he => (hidle e he).change

theorem announcements_of_idle (hidle : ∀ e ∈ own, e.IsIdle versionId) :
    own.filterMap (·.announcement? versionId) = [] :=
  List.filterMap_eq_nil_iff.mpr fun e he => (hidle e he).announcement

theorem Account.of_idle (hidle : ∀ e ∈ own, e.IsIdle versionId) : Account versionId own where
  announced := by
    rw [changes_of_idle hidle, announcements_of_idle hidle]
  once := by simp [changes_of_idle hidle]
  idle _ := hidle

theorem Tally.of_idle (hidle : ∀ e ∈ own, e.IsIdle versionId)
    (hundone : ∀ e ∈ own, ¬e.FindsTarget versionId) : Tally versionId own [] [] :=
  ⟨changes_of_idle hidle, announcements_of_idle hidle, hundone⟩

theorem Tally.account {changes announcements : List (Status × Status)}
    (htally : Tally versionId own changes announcements) (hbegins : announcements <+: changes)
    (honce : changes.length ≤ 1) : Account versionId own where
  announced := by
    rw [htally.changes, htally.announcements]
    exact hbegins
  once := by
    rw [htally.changes]
    exact honce
  idle hfound := by
    obtain ⟨e, he, hfinds⟩ := hfound
    exact absurd hfinds (htally.undone e he)

theorem forall_mem_concat {property : Exchange → Prop} (hown : ∀ e ∈ own, property e)
    (he : property e) : ∀ each ∈ own ++ [e], property each := by
  intro each hmem
  rcases List.mem_append.mp hmem with hmem | hmem
  · exact hown each hmem
  · exact List.mem_singleton.mp hmem ▸ he

theorem Tally.concat {changes announcements : List (Status × Status)}
    (htally : Tally versionId own changes announcements) (hundone : ¬e.FindsTarget versionId) :
    Tally versionId (own ++ [e]) (changes ++ (e.change? versionId).toList)
      (announcements ++ (e.announcement? versionId).toList) where
  changes := by
    rw [List.filterMap_append, htally.changes]
    cases hchange : e.change? versionId <;> simp [hchange]
  announcements := by
    rw [List.filterMap_append, htally.announcements]
    cases hannouncement : e.announcement? versionId <;> simp [hannouncement]
  undone := forall_mem_concat htally.undone hundone

theorem Tally.concat_idle {changes announcements : List (Status × Status)}
    (htally : Tally versionId own changes announcements) (hundone : ¬e.FindsTarget versionId)
    (hidle : e.IsIdle versionId) : Tally versionId (own ++ [e]) changes announcements := by
  have hconcat := htally.concat hundone
  rwa [hidle.change, hidle.announcement, Option.toList_none, List.append_nil, List.append_nil]
    at hconcat

theorem Account.concat_idle (haccount : Account versionId own) (hundone : ¬e.FindsTarget versionId)
    (hidle : e.IsIdle versionId) : Account versionId (own ++ [e]) where
  announced := by
    simp only [List.filterMap_append, List.filterMap_cons, hidle.change, hidle.announcement,
      List.filterMap_nil, List.append_nil]
    exact haccount.announced
  once := by
    simp only [List.filterMap_append, List.filterMap_cons, hidle.change, List.filterMap_nil,
      List.append_nil]
    exact haccount.once
  idle hfound := by
    obtain ⟨found, hmem, hfinds⟩ := hfound
    rcases List.mem_append.mp hmem with hmem | hmem
    · exact forall_mem_concat (haccount.idle ⟨found, hmem, hfinds⟩) hidle
    · exact absurd (List.mem_singleton.mp hmem ▸ hfinds) hundone

/-! ### The pact -/

/-- The version has a sound row, and all accounts are in order. -/
structure Scene.IsOrderly (versionId : String) (scene : Scene) : Prop where
  undisturbed : scene.world.IsUndisturbed
  sound : scene.store.IsSound versionId
  accounts : ∀ task, Account versionId (scene.ofTask task)

def lifecyclePact (versionId : String) : Pact where
  holds := Scene.IsOrderly versionId
  allows e := VersionRow.Life (e.before.store.row? versionId) (e.after.store.row? versionId)

namespace Scene

variable {scene : Scene} {caller : Caller} {r : Request}

theorem IsOrderly.exchange (horderly : scene.IsOrderly versionId)
    (hsound : (scene.exchange caller r).2.store.IsSound versionId)
    (haccount : Account versionId (scene.ofTask caller.task ++ [scene.next caller r])) :
    (scene.exchange caller r).2.IsOrderly versionId where
  undisturbed := exchange_undisturbed horderly.undisturbed
  sound := hsound
  accounts task := by
    by_cases htask : caller.task = task
    · rw [← htask, ofTask_exchange_self]
      exact haccount
    · rw [ofTask_exchange_ne scene r htask]
      exact horderly.accounts task

theorem idle_of_quiet (hworld : scene.world.IsUndisturbed) (hquiet : r.IsQuiet)
    (hsilent : ∀ next, caller.command.moves? = some (versionId, next) →
      ∀ event, r ≠ .record event) :
    (scene.next caller r).IsIdle versionId where
  change := Exchange.change?_of_row?_eq
    (congrArg (Store.row? · versionId) (store_exchange_of_quiet hworld caller hquiet))
  announcement := Exchange.announcement?_of_quiet hquiet
  store next hmoves := by
    refine ⟨store_exchange_of_quiet hworld caller hquiet, ?_⟩
    cases r with
    | record event => exact absurd rfl (hsilent next hmoves event)
    | _ => rfl

theorem IsOrderly.quiet (horderly : scene.IsOrderly versionId) (hquiet : r.IsQuiet)
    (haccount : Account versionId (scene.ofTask caller.task ++ [scene.next caller r])) :
    (lifecyclePact versionId).allows (scene.next caller r) ∧
      (lifecyclePact versionId).holds (scene.exchange caller r).2 := by
  have hstore := store_exchange_of_quiet horderly.undisturbed caller hquiet
  refine ⟨?_, horderly.exchange (hstore ▸ horderly.sound) haccount⟩
  have hrow : (scene.next caller r).after.store.row? versionId = scene.store.row? versionId :=
    congrArg (Store.row? · versionId) hstore
  change VersionRow.Life (scene.store.row? versionId) _
  rw [hrow]
  exact .rest _

theorem IsOrderly.store (horderly : scene.IsOrderly versionId) {call : Store.Call}
    {limit : Option Nat} (hmoves : ∀ next, caller.command.moves? ≠ some (versionId, next))
    (hnew : ∀ version, call.inserted? = some version → version.IsNew)
    (hupdate : ∀ id expected status publishedAt,
      call ≠ .updateStatus id expected status publishedAt) :
    (lifecyclePact versionId).allows (scene.next caller (.store call limit)) ∧
      (scene.exchange caller (.store call limit)).2.store.IsSound versionId ∧
        (scene.next caller (.store call limit)).IsIdle versionId := by
  have hrow : (scene.exchange caller (.store call limit)).2.store.IsSound versionId ∧
      ((scene.exchange caller (.store call limit)).2.store.row? versionId =
          scene.store.row? versionId ∨
        (scene.store.row? versionId = none ∧
          VersionRow.Life (scene.store.row? versionId)
            ((scene.exchange caller (.store call limit)).2.store.row? versionId))) := by
    rcases exchange_store horderly.undisturbed caller call limit with
      ⟨-, hafter⟩ | ⟨-, hafter⟩
    · rw [Scene.store, hafter]
      rcases Store.versions_run scene.store call with
        hversions | ⟨version, hinserted, -, htaken, hversions⟩ | ⟨_, _, _, _, hcall⟩
      · exact ⟨horderly.sound.of_versions hversions, Or.inl (Store.row?_congr hversions _)⟩
      · exact horderly.sound.inserted (hnew version hinserted) htaken hversions
      · exact absurd hcall (hupdate _ _ _ _)
    · rw [Scene.store, hafter]
      exact ⟨horderly.sound, Or.inl rfl⟩
  obtain ⟨hsound, hrow⟩ := hrow
  have hnoAnnouncement : (scene.next caller (.store call limit)).announcement? versionId = none :=
    rfl
  have hstore : ∀ next, caller.command.moves? = some (versionId, next) →
      (scene.exchange caller (.store call limit)).2.store = scene.store ∧
        (scene.next caller (.store call limit)).event? = none :=
    fun next hmoved => absurd hmoved (hmoves next)
  rcases hrow with hsame | ⟨hnone, hlife⟩
  · refine ⟨?_, hsound, Exchange.change?_of_row?_eq hsame, hnoAnnouncement, hstore⟩
    change VersionRow.Life (scene.store.row? versionId)
      ((scene.exchange caller (.store call limit)).2.store.row? versionId)
    rw [hsame]
    exact .rest _
  · exact ⟨hlife, hsound, Exchange.change?_of_none hnone, hnoAnnouncement, hstore⟩

theorem IsOrderly.mayMake (horderly : scene.IsOrderly versionId)
    (hcommand : caller.command.moves? = none) (hmay : caller.command.MayMake r) :
    (lifecyclePact versionId).allows (scene.next caller r) ∧
      (scene.exchange caller r).2.store.IsSound versionId ∧
        (scene.next caller r).IsIdle versionId := by
  have hmoves : ∀ next, caller.command.moves? ≠ some (versionId, next) := by
    intro next hmoved
    rw [hcommand] at hmoved
    cases hmoved
  rcases hmay with hquiet | hmay
  · have hidle : (scene.next caller r).IsIdle versionId :=
      idle_of_quiet horderly.undisturbed hquiet fun next hmoved => absurd hmoved (hmoves next)
    obtain ⟨hallows, -⟩ := horderly.quiet hquiet
      ((horderly.accounts _).concat_idle (by
        rintro ⟨next, -, -, hmoved, -⟩
        exact absurd hmoved (hmoves next)) hidle)
    have hstore := store_exchange_of_quiet horderly.undisturbed caller hquiet
    exact ⟨hallows, hstore ▸ horderly.sound, hidle⟩
  · unfold Command.MayChange at hmay
    split at hmay
    next => exact horderly.store hmoves (by rintro _ ⟨⟩) (by rintro _ _ _ _ ⟨⟩)
    next => exact horderly.store hmoves (by rintro _ ⟨⟩; exact hmay) (by rintro _ _ _ _ ⟨⟩)
    next => exact horderly.store hmoves (by rintro _ ⟨⟩; exact hmay) (by rintro _ _ _ _ ⟨⟩)
    next hmoving => simp [hmoving, Command.moves?] at hcommand
    next hmoving => simp [hmoving, Command.moves?] at hcommand
    next hmoving => simp [hmoving, Command.moves?] at hcommand
    next hmoving => simp [hmoving, Command.moves?] at hcommand
    next => exact horderly.store hmoves (by rintro _ ⟨⟩) (by rintro _ _ _ _ ⟨⟩)
    next => exact hmay.elim

end Scene

end KnowledgeSchema
