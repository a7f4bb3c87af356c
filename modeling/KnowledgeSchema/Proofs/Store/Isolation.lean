import KnowledgeSchema.Proofs.Store.Definitions

/-!
# Writes for one version

Definitions under ids that no row has yet, each owned by one version or by another one of them. When
they are written, the rows of every other version stay as they are, and those of the version itself
do not unless there was nothing to write.
-/

namespace KnowledgeSchema

/-- A definition that has one of some ids and is owned by a version, or by a definition that has one
of them. -/
def Definition.IsWithin (ids : List String) (versionId : String) (definition : Definition) : Prop :=
  definition.key.1 ∈ ids ∧
    if definition.isTop then definition.key.2 = versionId else definition.key.2 ∈ ids

namespace Store

/-- All rows under some ids belong to a version. -/
structure IsReserved (store : Store) (ids : List String) (versionId : String) : Prop where
  top : ∀ key ∈ store.topKeys, key.1 ∈ ids → key.2 = versionId
  child : ∀ key ∈ store.childKeys, key.1 ∈ ids → key.2 ∈ ids

/-- No row is new but those under some ids, and no row has a new owner. -/
structure AddsOnly (ids : List String) (store after : Store) : Prop where
  top : ∀ key ∈ after.topKeys, key ∈ store.topKeys ∨ key.1 ∈ ids
  child : ∀ key ∈ after.childKeys, key ∈ store.childKeys ∨ key.1 ∈ ids

variable {store after : Store} {definition : Definition} {definitions : List Definition}
  {ids : List String} {versionId other : String}

theorem mem_definitionIds {id : String} :
    id ∈ store.definitionIds ↔
      id ∈ store.topKeys.map (·.1) ∨ id ∈ store.childKeys.map (·.1) := by
  rw [definitionIds, List.map_append, List.mem_append]

theorem isReserved_of_unused (versionId : String)
    (hunused : ∀ id ∈ ids, id ∉ store.definitionIds) :
    store.IsReserved ids versionId where
  top _ hkey hid :=
    absurd (mem_definitionIds.mpr (Or.inl (List.mem_map_of_mem hkey))) (hunused _ hid)
  child _ hkey hid :=
    absurd (mem_definitionIds.mpr (Or.inr (List.mem_map_of_mem hkey))) (hunused _ hid)

/-! ### Rows of others -/

theorem filter_top {ρ : Type} {id owner : ρ → String} {rows : List ρ}
    (hrows : ∀ row ∈ rows, id row ∈ ids → owner row = versionId) (hother : other ≠ versionId) :
    rows.filter (owner · == other) =
      (rows.filter fun row => id row ∉ ids).filter (owner · == other) := by
  rw [List.filter_filter]
  apply List.filter_congr
  intro row hrow
  by_cases howner : owner row = other
  · have hid : id row ∉ ids := fun hid => hother (howner.symm.trans (hrows row hrow hid))
    simp [howner, hid]
  · simp [howner]

theorem any_top {ρ : Type} {id owner : ρ → String} {rows : List ρ}
    (hrows : ∀ row ∈ rows, id row ∈ ids → owner row = versionId) (hother : other ≠ versionId)
    (wanted : String) :
    rows.any (fun row => owner row == other && id row == wanted) =
      (rows.filter fun row => id row ∉ ids).any fun row =>
        owner row == other && id row == wanted := by
  have hfilter := filter_top hrows hother
  have hany : ∀ rows : List ρ, rows.any (fun row => owner row == other && id row == wanted) =
      (rows.filter (owner · == other)).any (id · == wanted) := by
    intro rows
    rw [List.any_filter]
  calc rows.any (fun row => owner row == other && id row == wanted)
      = (rows.filter (owner · == other)).any (id · == wanted) := hany rows
    _ = ((rows.filter fun row => id row ∉ ids).filter (owner · == other)).any (id · == wanted) := by
      rw [hfilter]
    _ = (rows.filter fun row => id row ∉ ids).any fun row =>
        owner row == other && id row == wanted := (hany _).symm

theorem filter_child {ρ : Type} {id owner : ρ → String} {rows : List ρ} {owns owned : String → Bool}
    (hrows : ∀ row ∈ rows, id row ∈ ids → owner row ∈ ids) (howns : ∀ id, owns id = owned id)
    (hfree : ∀ id, owns id = true → id ∉ ids) :
    rows.filter (owns <| owner ·) =
      (rows.filter fun row => id row ∉ ids).filter (owned <| owner ·) := by
  rw [List.filter_filter]
  apply List.filter_congr
  intro row hrow
  rw [← howns]
  cases howner : owns (owner row) with
  | false => simp
  | true =>
    have hid : id row ∉ ids := fun hid => hfree _ howner (hrows row hrow hid)
    simp [hid]

/-- The rows of another version are all under other ids. -/
theorem IsReserved.rowsOf (hreserved : store.IsReserved ids versionId)
    (hother : other ≠ versionId) : store.rowsOf other = (store.without ids).rowsOf other := by
  obtain ⟨htop, hchild⟩ := hreserved
  simp only [topKeys, childKeys, List.forall_mem_append, List.forall_mem_map] at htop hchild
  obtain ⟨⟨⟨⟨htypes, hrelationships⟩, hviews⟩, hmaps⟩, hprofiles⟩ := htop
  obtain ⟨⟨⟨hfields, hattributes⟩, hmappings⟩, hentries⟩ := hchild
  have hfree : ∀ {ρ : Type} {id owner : ρ → String} {rows : List ρ},
      (∀ row ∈ rows, id row ∈ ids → owner row = versionId) → ∀ wanted,
      rows.any (fun row => owner row == other && id row == wanted) = true → wanted ∉ ids := by
    intro ρ id owner rows hrows wanted hany hwanted
    obtain ⟨row, hrow, hmatch⟩ := List.any_eq_true.mp hany
    simp only [Bool.and_eq_true, beq_iff_eq] at hmatch
    exact hother (hmatch.1.symm.trans (hrows row hrow (hmatch.2 ▸ hwanted)))
  simp only [Store.rowsOf, without, DefinitionRows.mk.injEq]
  refine ⟨filter_top htypes hother, ?_, filter_top hrelationships hother, ?_,
    filter_top hviews hother, filter_top hmaps hother, filter_top hprofiles hother, ?_, ?_⟩
  · exact filter_child hfields (any_top htypes hother) (hfree htypes)
  · exact filter_child hattributes (any_top hrelationships hother) (hfree hrelationships)
  · exact filter_child hmappings (any_top hprofiles hother) (hfree hprofiles)
  · exact filter_child hentries (any_top hprofiles hother) (hfree hprofiles)

/-! ### Writes -/

theorem IsReserved.save (hreserved : store.IsReserved ids versionId)
    (hwithin : definition.IsWithin ids versionId) (hsave : store.save definition = .ok after) :
    after.IsReserved ids versionId := by
  cases htop : definition.isTop with
  | true =>
    obtain ⟨hstep, hchild⟩ := save_top htop hsave
    have howner : definition.key.2 = versionId := by
      simpa [htop] using hwithin.2
    refine ⟨fun key hkey hid => ?_, fun key hkey => hreserved.child key (hchild ▸ hkey)⟩
    rcases hstep.added key hkey with hkey | rfl
    · exact hreserved.top key hkey hid
    · exact howner
  | false =>
    obtain ⟨hstep, htopKeys, -⟩ := save_child htop hsave
    have howner : definition.key.2 ∈ ids := by
      simpa [htop] using hwithin.2
    refine ⟨fun key hkey => hreserved.top key (htopKeys ▸ hkey), fun key hkey hid => ?_⟩
    rcases hstep.added key hkey with hkey | rfl
    · exact hreserved.child key hkey hid
    · exact howner

theorem addsOnly_of_congr (hpart : after.definitionPart = store.definitionPart) :
    AddsOnly ids store after := by
  have htop := congrArg topKeys hpart
  have hchild := congrArg childKeys hpart
  change after.topKeys = store.topKeys at htop
  change after.childKeys = store.childKeys at hchild
  exact ⟨fun key hkey => Or.inl (htop ▸ hkey), fun key hkey => Or.inl (hchild ▸ hkey)⟩

theorem AddsOnly.mono {wider : List String} (hadds : AddsOnly ids store after)
    (hwider : ids ⊆ wider) : AddsOnly wider store after where
  top key hkey := (hadds.top key hkey).imp_right fun hid => hwider hid
  child key hkey := (hadds.child key hkey).imp_right fun hid => hwider hid

theorem AddsOnly.trans {between : Store} (hfirst : AddsOnly ids store between)
    (hsecond : AddsOnly ids between after) : AddsOnly ids store after where
  top key hkey := (hsecond.top key hkey).elim (hfirst.top key) Or.inr
  child key hkey := (hsecond.child key hkey).elim (hfirst.child key) Or.inr

theorem AddsOnly.isReserved {reserved : List String} (hadds : AddsOnly ids store after)
    (hdisjoint : ∀ id ∈ reserved, id ∉ ids) (hreserved : store.IsReserved reserved versionId) :
    after.IsReserved reserved versionId where
  top key hkey hid := by
    rcases hadds.top key hkey with hold | hnew
    · exact hreserved.top key hold hid
    · exact absurd hnew (hdisjoint _ hid)
  child key hkey hid := by
    rcases hadds.child key hkey with hold | hnew
    · exact hreserved.child key hold hid
    · exact absurd hnew (hdisjoint _ hid)

theorem IsReserved.congr (hreserved : store.IsReserved ids versionId)
    (hpart : after.definitionPart = store.definitionPart) : after.IsReserved ids versionId :=
  (@addsOnly_of_congr store after [] hpart).isReserved (fun _ _ => List.not_mem_nil) hreserved

theorem AddsOnly.definitionIds (hadds : AddsOnly ids store after) :
    ∀ id ∈ after.definitionIds, id ∈ store.definitionIds ∨ id ∈ ids := by
  intro id hid
  rw [mem_definitionIds] at hid ⊢
  rcases hid with hid | hid
  · obtain ⟨key, hkey, rfl⟩ := List.mem_map.mp hid
    exact (hadds.top key hkey).imp_left fun hold => Or.inl (List.mem_map_of_mem hold)
  · obtain ⟨key, hkey, rfl⟩ := List.mem_map.mp hid
    exact (hadds.child key hkey).imp_left fun hold => Or.inr (List.mem_map_of_mem hold)

theorem addsOnly_save (hid : definition.key.1 ∈ ids) (hsave : store.save definition = .ok after) :
    AddsOnly ids store after := by
  have hadded : ∀ {before after : List (String × String)},
      TableStep before after definition.key → ∀ key ∈ after, key ∈ before ∨ key.1 ∈ ids := by
    intro before after hstep key hkey
    rcases hstep.added key hkey with hold | rfl
    · exact Or.inl hold
    · exact Or.inr hid
  cases htop : definition.isTop with
  | true =>
    obtain ⟨hstep, hchild⟩ := save_top htop hsave
    exact ⟨hadded hstep, fun key hkey => Or.inl (hchild ▸ hkey)⟩
  | false =>
    obtain ⟨hstep, htopKeys, -⟩ := save_child htop hsave
    exact ⟨fun key hkey => Or.inl (htopKeys ▸ hkey), hadded hstep⟩

theorem writeAll_definitions_cons :
    store.writeAll ((definition :: definitions).map .definition) = .ok after ↔
      ∃ between, store.save definition = .ok between ∧
        between.writeAll (definitions.map .definition) = .ok after := by
  rw [List.map_cons, writeAll_cons]
  rfl

/-- What all writes together do, seen from outside of the version that they are for. -/
theorem IsReserved.writeAll (hreserved : store.IsReserved ids versionId)
    (hwithin : ∀ definition ∈ definitions, definition.IsWithin ids versionId)
    (hwrite : store.writeAll (definitions.map .definition) = .ok after) :
    after.IsReserved ids versionId ∧ after.without ids = store.without ids ∧
      AddsOnly ids store after ∧ store.topKeys ⊆ after.topKeys := by
  induction definitions generalizing store with
  | nil =>
    cases hwrite
    exact ⟨hreserved, rfl, addsOnly_of_congr rfl, fun _ => id⟩
  | cons definition rest ih =>
    obtain ⟨between, hsave, hrest⟩ := writeAll_definitions_cons.mp hwrite
    have hfirst := hwithin definition List.mem_cons_self
    obtain ⟨hafter, hwithout, hadds, htop⟩ := ih (hreserved.save hfirst hsave)
      (fun each heach => hwithin each (List.mem_cons_of_mem _ heach)) hrest
    refine ⟨hafter, hwithout.trans (without_save hfirst.1 hsave),
      (addsOnly_save hfirst.1 hsave).trans hadds, fun key hkey => htop ?_⟩
    cases hkind : definition.isTop with
    | true => exact (save_top hkind hsave).1.kept hkey
    | false =>
      rw [(save_child hkind hsave).2.1]
      exact hkey

/-- A change of the definitions that stays with some ids and with a version. -/
structure IsConfined (ids : List String) (versionId : String) (store after : Store) : Prop where
  reserved : after.IsReserved ids versionId
  adds : AddsOnly ids store after
  others : ∀ other, other ≠ versionId → after.rowsOf other = store.rowsOf other

theorem IsReserved.isConfined_congr (hreserved : store.IsReserved ids versionId)
    (hpart : after.definitionPart = store.definitionPart) :
    IsConfined ids versionId store after where
  reserved := hreserved.congr hpart
  adds := addsOnly_of_congr hpart
  others other _ := rowsOf_congr hpart other

theorem IsReserved.isConfined_writeAll (hreserved : store.IsReserved ids versionId)
    (hwithin : ∀ definition ∈ definitions, definition.IsWithin ids versionId)
    (hwrite : store.writeAll (definitions.map .definition) = .ok after) :
    IsConfined ids versionId store after := by
  obtain ⟨hafter, hwithout, hadds, -⟩ := hreserved.writeAll hwithin hwrite
  refine ⟨hafter, hadds, fun other hother => ?_⟩
  calc after.rowsOf other
      = (after.without ids).rowsOf other := hafter.rowsOf hother
    _ = (store.without ids).rowsOf other := by rw [hwithout]
    _ = store.rowsOf other := (hreserved.rowsOf hother).symm

theorem topKeys_rowsOf (store : Store) (versionId : String) :
    store.topKeys.filter (·.2 == versionId) =
      (store.rowsOf versionId).entityTypes.map (fun row => (row.id, row.versionId)) ++
        (store.rowsOf versionId).relationshipTypes.map (fun row => (row.id, row.versionId)) ++
        (store.rowsOf versionId).viewTemplates.map (fun row => (row.id, row.versionId)) ++
        (store.rowsOf versionId).mapsOfContent.map (fun row => (row.id, row.versionId)) ++
        (store.rowsOf versionId).profiles.map fun row => (row.id, row.versionId) := by
  simp only [topKeys, Store.rowsOf, List.filter_append, List.filter_map]
  rfl

/-- Under unused ids, the first definition is one that the version itself owns, because nothing is
there yet that could own another one. Its row is new, and it stays. -/
theorem rowsOf_writeAll_ne (hunused : ∀ id ∈ ids, id ∉ store.definitionIds)
    (hwithin : ∀ definition ∈ definitions, definition.IsWithin ids versionId)
    (hwrite : store.writeAll (definitions.map .definition) = .ok after)
    (hsome : definitions ≠ []) : after.rowsOf versionId ≠ store.rowsOf versionId := by
  cases definitions with
  | nil => exact absurd rfl hsome
  | cons definition rest =>
    obtain ⟨between, hsave, hrest⟩ := writeAll_definitions_cons.mp hwrite
    have hfirst := hwithin definition List.mem_cons_self
    have hnew := hunused _ hfirst.1
    rw [mem_definitionIds, not_or] at hnew
    have hreserved : store.IsReserved ids versionId := isReserved_of_unused versionId hunused
    obtain ⟨-, -, -, hkept⟩ := (hreserved.save hfirst hsave).writeAll
      (fun each heach => hwithin each (List.mem_cons_of_mem _ heach)) hrest
    cases htop : definition.isTop with
    | true =>
      have hkey : definition.key ∈ after.topKeys.filter (·.2 == versionId) := by
        refine List.mem_filter.mpr ⟨hkept ((save_top htop hsave).1.placed hnew.1), ?_⟩
        simpa [htop] using hfirst.2
      intro hsame
      rw [topKeys_rowsOf, hsame, ← topKeys_rowsOf] at hkey
      exact hnew.1 (List.mem_map_of_mem (List.mem_of_mem_filter hkey))
    | false =>
      have howner : definition.key.2 ∈ ids := by
        simpa [htop] using hfirst.2
      rcases (save_child htop hsave).2.2 with hthere | hthere
      · exact absurd hthere hnew.2
      · exact absurd (mem_definitionIds.mpr (Or.inl hthere)) (hunused _ howner)

/-! ### Calls -/

theorem commit_eq_or (store : Store) (writes : List Write) :
    (store.commit writes).2 = store ∨ store.writeAll writes = .ok (store.commit writes).2 := by
  rcases store.commit_cases writes with ⟨_, hfailed⟩ | ⟨after, hwrite, hmade⟩
  · exact Or.inl (by rw [hfailed])
  · exact Or.inr (by rw [hwrite, hmade])

theorem IsReserved.isConfined_saveAll {set : DefinitionSet}
    (hreserved : store.IsReserved ids versionId)
    (hwithin : ∀ definition ∈ set.definitions, definition.IsWithin ids versionId) :
    IsConfined ids versionId store (store.run (.saveAll set)).2 := by
  rcases store.commit_eq_or (Call.saveAll set).writes with hsame | hwrite
  · exact hreserved.isConfined_congr (congrArg definitionPart hsame)
  · exact hreserved.isConfined_writeAll hwithin hwrite

theorem run_insertVersionWith (store : Store) (version : Version) (set : DefinitionSet) :
    (store.run (.insertVersionWith version set)).2 = store ∨
      ∃ between : Store, store.isTaken version = false ∧
        between.definitionPart = store.definitionPart ∧
        between.writeAll (set.definitions.map .definition) =
          .ok (store.run (.insertVersionWith version set)).2 := by
  rcases store.commit_eq_or (Call.insertVersionWith version set).writes with hsame | hwrite
  · exact Or.inl hsame
  · obtain ⟨between, hinsert, hrest⟩ := writeAll_cons.mp hwrite
    obtain ⟨-, htaken, rfl⟩ := insertVersion_eq_ok hinsert
    refine Or.inr ⟨_, htaken, ?_, hrest⟩
    rfl

theorem IsReserved.isConfined_insertVersionWith {version : Version} {set : DefinitionSet}
    (hreserved : store.IsReserved ids versionId)
    (hwithin : ∀ definition ∈ set.definitions, definition.IsWithin ids versionId) :
    IsConfined ids versionId store (store.run (.insertVersionWith version set)).2 := by
  rcases store.run_insertVersionWith version set with hsame | ⟨between, -, hpart, hwrite⟩
  · exact hreserved.isConfined_congr (congrArg definitionPart hsame)
  · have hconfined := (hreserved.congr hpart).isConfined_writeAll hwithin hwrite
    refine ⟨hconfined.reserved, (addsOnly_of_congr hpart).trans hconfined.adds,
      fun other hother => ?_⟩
    calc (store.run (.insertVersionWith version set)).2.rowsOf other
        = between.rowsOf other := hconfined.others other hother
      _ = store.rowsOf other := rowsOf_congr hpart other

end Store

end KnowledgeSchema
