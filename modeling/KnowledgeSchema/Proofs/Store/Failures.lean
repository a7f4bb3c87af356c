import KnowledgeSchema.Proofs.Store.Versions

/-!
# Failures of a store

A call of a store fails because a stored text does not read, because the write is refused for want
of its owner, or because a profile or a version is in its way. There is no other reason, and the
number of a version counts as taken only when its id or its number is.
-/

namespace KnowledgeSchema

/-- A stored text that does not read. -/
def Failure.IsUnreadable : Failure → Prop
  | .other (.invalidTime ..) => True
  | .serialization _ => True
  | _ => False

/-! ### Outcomes with only certain failures -/

/-- Whatever failure there is, it is one that is allowed. -/
def FailsOnly {α : Type} (allowed : Failure → Prop) (outcome : Except Failure α) : Prop :=
  ∀ failure, outcome = .error failure → allowed failure

namespace FailsOnly

variable {α β : Type} {allowed : Failure → Prop}

theorem ok (value : α) : FailsOnly allowed (.ok value) := by
  rintro _ ⟨⟩

theorem error {failure : Failure} (hallowed : allowed failure) :
    FailsOnly allowed (.error failure : Except Failure α) := by
  rintro _ ⟨⟩
  exact hallowed

theorem bind {outcome : Except Failure α} {next : α → Except Failure β}
    (houtcome : FailsOnly allowed outcome) (hnext : ∀ value, FailsOnly allowed (next value)) :
    FailsOnly allowed (outcome >>= next) := by
  cases outcome with
  | ok value => exact hnext value
  | error failure => exact .error (houtcome failure rfl)

theorem map {outcome : Except Failure α} (f : α → β) (houtcome : FailsOnly allowed outcome) :
    FailsOnly allowed (f <$> outcome) := by
  cases outcome with
  | ok value => exact .ok _
  | error failure => exact .error (houtcome failure rfl)

theorem mapM {f : α → Except Failure β} (hf : ∀ item, FailsOnly allowed (f item))
    (items : List α) : FailsOnly allowed (items.mapM f) := by
  induction items with
  | nil => exact .ok []
  | cons item rest ih =>
    rw [List.mapM_cons]
    exact (hf item).bind fun _ => ih.bind fun _ => .ok _

theorem mapM_option {f : α → Except Failure β} (hf : ∀ item, FailsOnly allowed (f item))
    (item? : Option α) : FailsOnly allowed (item?.mapM f) := by
  cases item? with
  | none => exact .ok none
  | some item => exact (hf item).map some

end FailsOnly

/-! ### Reads -/

section Reads

variable {α : Type}

theorem failsOnly_readTime (column : TimeColumn) (text : String) :
    FailsOnly Failure.IsUnreadable (readTime column text) := by
  rw [readTime]
  split
  next => exact .ok _
  next => exact .error trivial

theorem failsOnly_readJson (codec : Codec α) (text : String) :
    FailsOnly Failure.IsUnreadable (readJson codec text) := by
  rw [readJson]
  split
  next => exact .ok _
  next => exact .error trivial

theorem failsOnly_readOptional {allowed : Failure → Prop} {read : String → Except Failure α}
    (hread : ∀ text, FailsOnly allowed (read text)) (text? : Option String) :
    FailsOnly allowed (readOptional read text?) := by
  cases text? with
  | none => exact .ok none
  | some text => exact (hread text).map some

theorem failsOnly_toBlueprint (row : BlueprintRow) :
    FailsOnly Failure.IsUnreadable row.toBlueprint :=
  (failsOnly_readJson _ _).bind fun _ => (failsOnly_readTime _ _).bind fun _ =>
    (failsOnly_readTime _ _).bind fun _ => .ok _

theorem failsOnly_toVersion (row : VersionRow) : FailsOnly Failure.IsUnreadable row.toVersion :=
  (failsOnly_readOptional (failsOnly_readTime _) _).bind fun _ =>
    (failsOnly_readTime _ _).bind fun _ => .ok _

theorem failsOnly_toField (row : FieldRow) : FailsOnly Failure.IsUnreadable row.toDefinition :=
  (failsOnly_readOptional (failsOnly_readJson _) _).bind fun _ => .ok _

theorem failsOnly_toViewTemplate (row : ViewTemplateRow) :
    FailsOnly Failure.IsUnreadable row.toDefinition :=
  (failsOnly_readJson _ _).bind fun _ => .ok _

theorem failsOnly_toMapOfContent (row : MapOfContentRow) :
    FailsOnly Failure.IsUnreadable row.toDefinition :=
  (failsOnly_readJson _ _).bind fun _ => (failsOnly_readJson _ _).bind fun _ => .ok _

end Reads

/-! ### Writes -/

namespace Store

/-- Why a store refuses a call. -/
inductive Refuses (store : Store) (call : Call) : Failure → Prop
  | unavailable : Refuses store call .storeUnavailable
  | unreadable {failure : Failure} (hunreadable : failure.IsUnreadable) :
    Refuses store call failure
  | secondProfile (versionId : String) :
    Refuses store call (.invalidInput (.secondProfile versionId))
  | conflict {version : Version} (hinserted : call.inserted? = some version)
    (hpositive : 0 < version.number) (htaken : store.isTaken version = true) :
    Refuses store call (.versionConflict version.blueprintId version.number)

variable {store : Store} {call : Call}

theorem failsOnly_guarded (allowed : Bool) (written : Store) :
    FailsOnly (store.Refuses call) (guarded allowed written) := by
  rw [guarded]
  split_ifs
  · exact .ok _
  · exact .error .unavailable

theorem failsOnly_save (before : Store) (definition : Definition) :
    FailsOnly (store.Refuses call) (before.save definition) := by
  cases definition with
  | profile profile =>
    simp only [save, saveProfile]
    split_ifs
    · exact .error .unavailable
    · exact .error (.secondProfile _)
    · exact failsOnly_guarded _ _
  | _ => exact failsOnly_guarded _ _

theorem failsOnly_writeAll_definitions (before : Store) (definitions : List Definition) :
    FailsOnly (store.Refuses call) (before.writeAll (definitions.map .definition)) := by
  induction definitions generalizing before with
  | nil => exact .ok _
  | cons definition rest ih => exact (failsOnly_save before definition).bind ih

theorem failsOnly_insertVersion {version : Version} (hinserted : call.inserted? = some version) :
    FailsOnly (store.Refuses call) (store.insertVersion version) := by
  rw [insertVersion]
  split_ifs with hnumber htaken hblueprint
  · exact .error .unavailable
  · exact .error (.conflict hinserted (Int64.not_le.mp hnumber) htaken)
  · exact .ok _
  · exact .error .unavailable

theorem failsOnly_commit {writes : List Write}
    (hwrites : FailsOnly (store.Refuses call) (store.writeAll writes)) :
    FailsOnly (store.Refuses call) (store.commit writes).1 := by
  rw [commit]
  split
  next => exact .ok _
  next failure hfailure => exact .error (hwrites failure hfailure)

/-- There is no other reason for a failure. -/
theorem failsOnly_run (store : Store) (call : Call) :
    FailsOnly (store.Refuses call) (store.run call).1 := by
  have hread : ∀ {α : Type} {outcome : Except Failure α},
      FailsOnly Failure.IsUnreadable outcome → FailsOnly (store.Refuses call) outcome :=
    fun hfails failure herror => .unreadable (hfails failure herror)
  cases call with
  | saveBlueprint blueprint => exact failsOnly_commit (.ok _)
  | getBlueprint id => exact hread (.mapM_option failsOnly_toBlueprint _)
  | listBlueprints => exact hread (.mapM failsOnly_toBlueprint _)
  | insertVersion version =>
    exact failsOnly_commit ((failsOnly_insertVersion rfl).bind fun _ => .ok _)
  | getVersion id => exact hread (.mapM_option failsOnly_toVersion _)
  | listVersions blueprintId => exact hread (.mapM failsOnly_toVersion _)
  | insertVersionWith version set =>
    exact failsOnly_commit ((failsOnly_insertVersion rfl).bind fun between =>
      failsOnly_writeAll_definitions between set.definitions)
  | saveAll set => exact failsOnly_commit (failsOnly_writeAll_definitions store set.definitions)
  | save definition =>
    exact failsOnly_commit ((failsOnly_save store definition).bind fun _ => .ok _)
  | listFields entityTypeId => exact hread (.mapM failsOnly_toField _)
  | listViewTemplates versionId => exact hread (.mapM failsOnly_toViewTemplate _)
  | listMapsOfContent versionId => exact hread (.mapM failsOnly_toMapOfContent _)
  | _ => exact .ok _

end Store

end KnowledgeSchema
