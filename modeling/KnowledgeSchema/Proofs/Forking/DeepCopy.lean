import KnowledgeSchema.Proofs.Concurrent.System
import KnowledgeSchema.Proofs.Forking.Copying
import KnowledgeSchema.Proofs.Numbering.Sequence
import KnowledgeSchema.Proofs.Program.Versions

/-!
# Forks are deep copies

A fork has the rows of its source under new ids and nothing else, and no row that was there before is
touched. The rows are read and written on the way, so this takes a source whose numbers in JSON are
read as they are written.
-/

namespace KnowledgeSchema

namespace Store

/-- A store is another one with one version more, a draft that is a copy of a version of it. -/
structure IsFork (before after : Store) (source fork : Version) (ρ : Renaming) : Prop where
  injective : ∀ table, Set.InjOn (ρ table) {id | id ∈ (before.rowsOf source.id).idsIn table}
  copied : (after.rowsOf fork.id).Perm ((before.rowsOf source.id).renamed ρ fork.id)
  parents : ∀ id ∉ (before.rowsOf source.id).idsIn .entityTypes, ρ .entityTypes id = id
  kept : after = { before with versions := before.versions ++ [fork.toRow] }.extended
    (after.rowsOf fork.id)
  isNew : fork.id ∉ before.versions.map (·.id)
  blueprint : fork.blueprintId = source.blueprintId
  number : ∃ highest, before.maxNumber? source.blueprintId = some highest ∧
    fork.number.toInt = highest.toInt + 1
  status : fork.status = .draft
  publishedAt : fork.publishedAt = none

end Store

/-- What the next number is when it does not wrap around. -/
theorem toInt_add_one {number : Int64} (hpositive : 0 < number + 1) :
    (number + 1).toInt = number.toInt + 1 := by
  have hleast := Int64.le_toInt number
  have hmost := Int64.toInt_lt number
  rw [Int64.lt_iff_toInt_lt, Int64.toInt_add] at hpositive
  rw [Int64.toInt_add]
  have hone : (1 : Int64).toInt = 1 := rfl
  have hzero : (0 : Int64).toInt = 0 := rfl
  rw [hone, hzero, Int.bmod_def] at hpositive
  rw [hone, Int.bmod_def]
  split_ifs at hpositive ⊢ <;> omega

theorem Store.maxNumber?_of_version? {store : Store} {versionId : String} {version : Version}
    (hversion : store.version? versionId = .ok (some version)) :
    ∃ highest, store.maxNumber? version.blueprintId = some highest := by
  obtain ⟨row, hrow, hread⟩ := version?_eq_some hversion
  have hmem : row ∈ store.versionsOf version.blueprintId :=
    mem_versionsOf.mpr ⟨mem_of_row? hrow, (VersionRow.eq_of_toVersion hread).2.1.symm⟩
  rw [maxNumber?, ← Option.ne_none_iff_exists']
  intro hnone
  rw [List.max?_eq_none_iff, List.map_eq_nil_iff] at hnone
  rw [hnone] at hmem
  cases hmem

namespace Store

variable {store after : Store} {source fork : Version} {content : Content} {ids : Ids}
  {sourceId : String}

/-- The version goes in before the definitions, and nothing has been written for it by then: all that
it holds in the end is the copy. -/
theorem IsConsistent.written_copy (hconsistent : store.IsConsistent)
    (hholds : store.Holds sourceId content.definitions) (hplaced : content.IsWellPlaced)
    (hinjective : Function.Injective ids) (hnew : ∀ position, ids position ∉ store.definitionIds)
    (hwrites : store.writeAll (fork.writes (some (content.copy ids fork.id))) = .ok after) :
    0 < fork.number ∧ fork.id ∉ store.versions.map (·.id) ∧
      (after.rowsOf fork.id).Perm
        ((store.rowsOf sourceId).renamed (content.copiedIds ids) fork.id) ∧
      after = { store with versions := store.versions ++ [fork.toRow] }.extended
        (after.rowsOf fork.id) ∧
      after.Holds fork.id (content.definitions.renamed (content.copiedIds ids) fork.id) := by
  rw [Version.writes, Option.toList_some, List.flatMap_singleton, writeAll_cons] at hwrites
  obtain ⟨base, hinsert, hwrites⟩ := hwrites
  have hbase : base.IsConsistent := hconsistent.write hinsert
  obtain ⟨hpositive, htaken, rfl⟩ := insertVersion_eq_ok hinsert
  have habsent := not_mem_ids_of_isTaken htaken
  have hgiven : ∀ each ∈ (content.copy ids fork.id).definitions, each.key.1 ∉ store.definitionIds := by
    intro each heach
    obtain ⟨position, -, hposition⟩ :=
      List.mem_map.mp (Content.isWithin_copy content ids fork.id each heach).1
    exact hposition ▸ hnew position
  have hperm : (content.copy ids fork.id).rows.Perm
      ((store.rowsOf sourceId).renamed (content.copiedIds ids) fork.id) := by
    rw [hplaced.copy_eq, DefinitionSet.rows_renamed]
    exact hholds.rows.symm.renamed
  have howned := hperm.isOwned (store.isOwned_rowsOf sourceId).renamed
  have hreadable : (content.copy ids fork.id).IsReadable := by
    rw [hplaced.copy_eq]
    exact hholds.readable.renamed
  obtain ⟨hkept, hrows, hafter⟩ := hbase.holds_written (hconsistent.isBare habsent) howned
    (content.nodup_copy hinjective fork.id) hgiven hreadable hwrites
  refine ⟨hpositive, habsent, ?_, ?_, hplaced.copy_eq ▸ hafter⟩
  · rw [hrows]
    exact hperm
  · rw [hrows]
    exact hkept

theorem toInt_numbered {id : String} {created : Timestamp}
    (hsource : store.version? sourceId = .ok (some source))
    (hdraft : fork = store.numbered (.draft id source.blueprintId 0 created))
    (hpositive : 0 < fork.number) :
    ∃ highest, store.maxNumber? source.blueprintId = some highest ∧
      fork.number.toInt = highest.toInt + 1 := by
  obtain ⟨highest, hhighest⟩ := maxNumber?_of_version? hsource
  have hnumber : fork.number = highest + 1 := by
    rw [hdraft, numbered, nextNumber, Version.draft, hhighest]
  refine ⟨highest, hhighest, ?_⟩
  rw [hnumber] at hpositive ⊢
  exact toInt_add_one hpositive

theorem IsConsistent.isFork (hconsistent : store.IsConsistent) {id : String} {created : Timestamp}
    (hsource : store.version? sourceId = .ok (some source))
    (hdraft : fork = store.numbered (.draft id source.blueprintId 0 created))
    (hholds : store.Holds sourceId content.definitions) (hplaced : content.IsWellPlaced)
    (hinjective : Function.Injective ids) (hnew : ∀ position, ids position ∉ store.definitionIds)
    (hwrites : store.writeAll (fork.writes (some (content.copy ids fork.id))) = .ok after) :
    store.IsFork after source fork (content.copiedIds ids) := by
  obtain ⟨hpositive, habsent, hcopied, hkept, -⟩ :=
    hconsistent.written_copy hholds hplaced hinjective hnew hwrites
  obtain rfl : source.id = sourceId := id_of_version? hsource
  have hidsIn : ∀ table id, id ∈ (store.rowsOf source.id).idsIn table ↔
      id ∈ content.definitions.rows.idsIn table := fun table id =>
    (hholds.rows.idsIn table).mem_iff
  refine ⟨fun table => ?injective, hcopied, fun id hother => ?parents, hkept, habsent, ?blueprint,
    toInt_numbered hsource hdraft hpositive, ?status, ?publishedAt⟩
  case injective =>
    intro first hfirst second hsecond hsame
    exact hplaced.injOn_copiedIds hinjective first ((hidsIn table first).mp hfirst) second
      ((hidsIn table second).mp hsecond) hsame
  case parents => exact Content.copiedIds_of_not_mem (mt (hidsIn .entityTypes id).mpr hother)
  case blueprint => rw [hdraft]; rfl
  case status => rw [hdraft]; rfl
  case publishedAt => rw [hdraft]; rfl

end Store

namespace World

variable {world later : World} {agent after : Agent} {sourceId : String} {fork : Version}

theorem forked (hserving : world.IsServing) (hreachable : world.store.IsReachable)
    (hinjective : Function.Injective world.ids)
    (hfresh : ∀ place, world.idsTaken ≤ place → world.ids place ∉ world.store.definitionIds)
    (hsteady : (world.store.rowsOf sourceId).IsSteady)
    (hfork : world.perform agent (Operation.forkDraft sourceId) = (.ok fork, later, after)) :
    ∃ (source : Version) (blueprint : Blueprint) (content : Content) (ρ : Renaming),
      world.store.version? sourceId = .ok (some source) ∧
      world.store.blueprint? source.blueprintId = .ok (some blueprint) ∧
      world.store.content sourceId = .ok content ∧
      ρ = content.copiedIds (fun position => world.ids (world.idsTaken + 1 + position)) ∧
      world.store.Holds sourceId content.definitions ∧
      world.store.IsFork later.store source fork ρ ∧
      later.store.Holds fork.id (content.definitions.renamed ρ fork.id) ∧
      later.IsServing ∧
      ∀ table, ∀ id ∈ (world.store.rowsOf sourceId).idsIn table,
        ∃ place, world.idsTaken ≤ place ∧ ρ table id = world.ids place := by
  obtain ⟨source, blueprint, content, store, hsource, hblueprint, hcontent, hdraft, hwrites, rfl⟩ :=
    perform_forkDraft hserving hfork
  have hconsistent := hreachable.isConsistent
  have hholds := hconsistent.holds (hreachable.isNormal.isFaithful hsteady) hcontent
  have hplaced := Content.isWellPlaced_of_holds hholds hcontent
  have hids : Function.Injective fun position => world.ids (world.idsTaken + 1 + position) :=
    hinjective.comp (add_right_injective (world.idsTaken + 1))
  have hnew : ∀ position, world.ids (world.idsTaken + 1 + position) ∉ world.store.definitionIds :=
    fun position => hfresh _ (by omega)
  have hisFork := hconsistent.isFork hsource hdraft hholds hplaced hids hnew hwrites
  obtain ⟨-, -, -, -, hafter⟩ := hconsistent.written_copy hholds hplaced hids hnew hwrites
  refine ⟨source, blueprint, content, _, hsource, hblueprint, hcontent, rfl, hholds, hisFork, hafter,
    ⟨hserving.undisturbed, hserving.isOpen, hserving.isWritable⟩, fun table id hid => ?_⟩
  obtain ⟨position, hposition⟩ :=
    hplaced.copiedIds_of_mem ((hholds.rows.idsIn table).mem_iff.mp hid)
  exact ⟨_, by omega, hposition⟩

/-- A fork of a version whose JSON is written as it is read is a copy of it, and all that is new. -/
theorem isFork_forkDraft (hserving : world.IsServing) (hreachable : world.store.IsReachable)
    (hinjective : Function.Injective world.ids)
    (hfresh : ∀ place, world.idsTaken ≤ place → world.ids place ∉ world.store.definitionIds)
    (hsteady : (world.store.rowsOf sourceId).IsSteady)
    (hfork : (world.perform agent (Operation.forkDraft sourceId)).1 = .ok fork) :
    ∃ (source : Version) (ρ : Renaming), world.store.version? sourceId = .ok (some source) ∧
      world.store.IsFork (world.perform agent (Operation.forkDraft sourceId)).2.1.store
        source fork ρ := by
  obtain ⟨later, after, hperform⟩ : ∃ later after,
      world.perform agent (Operation.forkDraft sourceId) = (.ok fork, later, after) :=
    ⟨_, _, Prod.ext hfork rfl⟩
  obtain ⟨source, -, -, ρ, hsource, -, -, -, -, hisFork, -⟩ :=
    forked hserving hreachable hinjective hfresh hsteady hperform
  rw [hperform]
  exact ⟨source, ρ, hsource, hisFork⟩

/-! ### A fork of a chart -/

/-- A draft with some definitions. -/
def drafted (set : DefinitionSet) (ids : Ids) : World where
  store :=
    ((({} : Store).run (.saveBlueprint (.new "b" "Novel" .epoch))).2.run
      (.insertVersionWith (.draft "v" "b" 1 .epoch) set)).2
  ids := ids
  clock := fun _ => .epoch

theorem isReachable_drafted {set : DefinitionSet} {ids : Ids}
    (hnormal : ∀ definition ∈ set.definitions, definition.IsNormal) :
    (drafted set ids).store.IsReachable := by
  refine .run (.run .empty _ ?_) _ ?_
  · simp [Store.Call.writes, Write.IsNormal]
  · simp only [Store.Call.writes, List.forall_mem_cons, List.forall_mem_map]
    exact ⟨trivial, hnormal⟩

theorem isServing_drafted (set : DefinitionSet) (ids : Ids) : (drafted set ids).IsServing :=
  ⟨⟨rfl, rfl⟩, rfl, rfl⟩

theorem tally_ne {id : String} (hhead : id.toList.head? ≠ some 'x') (place : Nat) :
    Ids.tally place ≠ id := by
  rintro rfl
  rw [Ids.tally, String.toList_ofList] at hhead
  exact hhead rfl

/-- A draft with a type that is its own parent, and with one view. -/
def charted (config : Json) : World :=
  drafted
    { entityTypes := [{ EntityType.new "t" "v" .event with parentId := some "t" }]
      fields := [.new "f" "t" "name" .text]
      viewTemplates := [⟨"c", "v", "Chart", none, config⟩] }
    .tally

theorem isReachable_charted {config : Json} (hregular : config.IsRegular) :
    (charted config).store.IsReachable := by
  apply isReachable_drafted
  simp only [DefinitionSet.definitions, List.map_cons, List.map_nil, List.nil_append,
    List.cons_append, Option.toList_none, List.append_nil, List.mem_cons, List.not_mem_nil, or_false,
    forall_eq_or_imp, forall_eq]
  refine ⟨rfl, ⟨rfl, ?_⟩, ?_, hregular⟩
  · intro json hjson
    cases hjson
  · intro kind hkind
    cases hkind

theorem definitionPart_charted (config : Json) : (charted config).store.definitionPart =
    { entityTypes := [{ EntityType.new "t" "v" .event with parentId := some "t" }.toRow]
      fields := [(Field.new "f" "t" "name" .text).toRow]
      viewTemplates := [(⟨"c", "v", "Chart", none, config⟩ : ViewTemplate).toRow] } := rfl

theorem definitionIds_charted (config : Json) :
    (charted config).store.definitionIds = ["t", "c", "f"] := by
  change (charted config).store.definitionPart.definitionIds = ["t", "c", "f"]
  rw [definitionPart_charted]
  rfl

theorem tally_not_mem {store : Store} (hids : store.definitionIds = ["t", "c", "f"]) (place : Nat) :
    Ids.tally place ∉ store.definitionIds := by
  rw [hids]
  simp only [List.mem_cons, List.not_mem_nil, or_false, not_or]
  exact ⟨tally_ne (by decide) place, tally_ne (by decide) place, tally_ne (by decide) place⟩

def plain : Json :=
  .obj [("x", .int 5)]

/-- A number that is read as the next smaller one. -/
def skewed : Json :=
  .obj [("x", .real ⟨0x4C8BE10D40442160⟩)]

theorem isRegular_plain : plain.IsRegular :=
  ⟨1, List.pairwise_singleton _ _, by simp [Json.Fits]⟩

theorem isRegular_skewed : skewed.IsRegular :=
  ⟨1, List.pairwise_singleton _ _, by simp [Json.Fits]⟩

theorem isSteady_plain : ((charted plain).store.rowsOf "v").IsSteady := by
  have htexts : ((charted plain).store.rowsOf "v").jsonTexts = [plain.text] := by
    decide +kernel
  have hread : (Codec.free.parse plain.text).toOption.map Json.text = some plain.text := by
    decide +kernel
  intro text htext json hjson
  rw [htexts, List.mem_singleton] at htext
  rw [htext] at hjson ⊢
  rw [hjson] at hread
  exact Option.some.inj hread

theorem isFork_forkDraft_plain : ∃ (fork source : Version) (ρ : Renaming),
    ((charted plain).perform {} (Operation.forkDraft "v")).1 = .ok fork ∧
      (charted plain).store.version? "v" = .ok (some source) ∧
      (charted plain).store.IsFork
        ((charted plain).perform {} (Operation.forkDraft "v")).2.1.store source fork ρ := by
  obtain ⟨fork, hfork⟩ := Option.isSome_iff_exists.mp (show
    ((charted plain).perform {} (Operation.forkDraft "v")).1.toOption.isSome by decide +kernel)
  rw [Outcome.toOption_eq_some] at hfork
  obtain ⟨source, ρ, hsource, hisFork⟩ := isFork_forkDraft (isServing_drafted _ _)
    (isReachable_charted isRegular_plain) Ids.tally_injective
    (fun place _ => tally_not_mem (definitionIds_charted _) place) isSteady_plain hfork
  exact ⟨fork, source, ρ, hfork, hsource, hisFork⟩

/-- A view of a fork may have another number than the view that it is a copy of. -/
theorem not_isFork_forkDraft_skewed :
    (charted skewed).IsServing ∧ (charted skewed).store.IsReachable ∧
      Function.Injective (charted skewed).ids ∧
      (∀ place, (charted skewed).ids place ∉ (charted skewed).store.definitionIds) ∧
      ∃ fork, ((charted skewed).perform {} (Operation.forkDraft "v")).1 = .ok fork ∧
        ∀ (source : Version) (ρ : Renaming),
          (charted skewed).store.version? "v" = .ok (some source) →
            ¬(charted skewed).store.IsFork
              ((charted skewed).perform {} (Operation.forkDraft "v")).2.1.store source fork ρ := by
  have hfork : (((charted skewed).perform {} (Operation.forkDraft "v")).1.toOption.map
      (·.id)) = some "x" := by decide +kernel
  obtain ⟨fork, hfork, hid⟩ := Option.map_eq_some_iff.mp hfork
  rw [Outcome.toOption_eq_some] at hfork
  refine ⟨isServing_drafted _ _, isReachable_charted isRegular_skewed, Ids.tally_injective,
    tally_not_mem (definitionIds_charted _), fork, hfork, fun source ρ hsource hisFork => ?_⟩
  have hbefore : ((charted skewed).store.rowsOf "v").viewTemplates.map (·.config) =
      ["\x7b\"x\":5.6e+60\x7d"] := by decide +kernel
  have hafter : (((charted skewed).perform {} (Operation.forkDraft "v")).2.1.store.rowsOf
      "x").viewTemplates.map (·.config) = ["\x7b\"x\":5.5999999999999996e+60\x7d"] := by
    decide +kernel
  have hcopied := hisFork.copied.viewTemplates.map ViewTemplateRow.config
  rw [hid, Store.id_of_version? hsource, DefinitionRows.renamed, List.map_map] at hcopied
  have hsame : ["\x7b\"x\":5.5999999999999996e+60\x7d"].Perm ["\x7b\"x\":5.6e+60\x7d"] :=
    hafter ▸ hbefore ▸ hcopied
  exact absurd (List.singleton_perm_singleton.mp hsame) (by decide)

end World

end KnowledgeSchema
