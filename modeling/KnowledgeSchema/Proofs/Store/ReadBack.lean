import KnowledgeSchema.Proofs.Store.Listing

/-!
# What is saved is what is read

A definition that is saved is listed once among the definitions of its owner, as it was saved, and the
others are listed as they were. This takes kinds in their own spelling, JSON that came from a text and
doubles that are read back from theirs, for the definition and for all that is there before it. A row
that is written again keeps its owner, so the definition has to be new or under that owner already.
-/

namespace KnowledgeSchema

/-! ### Definitions -/

namespace Definition

/-- Kinds and data types in their own spelling, and JSON that was read from a text. -/
structure IsParsed (definition : Definition) : Prop where
  normal : definition.IsNormal
  jsons : ∀ json ∈ definition.jsons, ∃ text, Codec.free.parse text = .ok json

/-- A definition all of whose JSON has doubles that are read back. -/
def IsSteady (definition : Definition) : Prop :=
  ∀ json ∈ definition.jsons, json.IsSteady

/-- A definition as a store gives it back. The two zeros that a threshold may be are one number, and
come back as the same of them. -/
def kept : Definition → Definition
  | profile definition => .profile { definition with threshold := definition.threshold.dropZeroSign }
  | definition => definition

def withOwner (owner : String) : Definition → Definition
  | entityType type => .entityType { type with versionId := owner }
  | field definition => .field { definition with entityTypeId := owner }
  | relationshipType type => .relationshipType { type with versionId := owner }
  | relationshipAttribute attr => .relationshipAttribute { attr with relationshipTypeId := owner }
  | viewTemplate view => .viewTemplate { view with versionId := owner }
  | mapOfContent map => .mapOfContent { map with versionId := owner }
  | profile definition => .profile { definition with versionId := owner }
  | labelMapping mapping => .labelMapping { mapping with profileId := owner }
  | ignoreEntry entry => .ignoreEntry { entry with profileId := owner }

/-- The call that lists a definition with the others of its owner. -/
def query : Definition → Store.Call
  | entityType type => .listEntityTypes type.versionId
  | field definition => .listFields definition.entityTypeId
  | relationshipType type => .listRelationshipTypes type.versionId
  | relationshipAttribute attr => .listAttributes attr.relationshipTypeId
  | viewTemplate view => .listViewTemplates view.versionId
  | mapOfContent map => .listMapsOfContent map.versionId
  | profile definition => .getProfile definition.versionId
  | labelMapping mapping => .listLabelMappings mapping.profileId
  | ignoreEntry entry => .listIgnoreEntries entry.profileId

variable {definition : Definition}

@[simp]
theorem row_withOwner (definition : Definition) (owner : String) :
    (definition.withOwner owner).row = definition.row.withOwner owner := by
  cases definition <;> rfl

theorem IsParsed.withOwner (hparsed : definition.IsParsed) (owner : String) :
    (definition.withOwner owner).IsParsed := by
  cases definition <;> exact ⟨hparsed.normal, hparsed.jsons⟩

theorem IsSteady.withOwner (hsteady : definition.IsSteady) (owner : String) :
    (definition.withOwner owner).IsSteady := by
  cases definition <;> exact hsteady

end Definition

/-- A write of nothing but definitions that are given back. -/
def Write.IsFaithful : Write → Prop
  | definition each => each.IsParsed ∧ each.IsSteady
  | _ => True

namespace Store

/-- What calls make of the empty store when all that they write is given back. -/
inductive IsFilled : Store → Prop where
  | empty : IsFilled {}
  | run {store : Store} (hstore : IsFilled store) (call : Call)
      (hfaithful : ∀ write ∈ call.writes, write.IsFaithful) : IsFilled (store.run call).2

/-- Every row is that of a definition that is given back. -/
def IsFaithful (store : Store) : Prop :=
  ∀ table, ∀ row ∈ store.rowsIn table,
    ∃ definition : Definition, definition.IsParsed ∧ definition.IsSteady ∧ definition.row = row

variable {store after : Store} {definition : Definition} {table : Table} {owner : String}

/-! ### Filled stores -/

theorem rowsIn_congr (hpart : after.definitionPart = store.definitionPart) :
    after.rowsIn = store.rowsIn := by
  have hrows := congrArg rowsIn hpart
  funext table
  have htable := congrFun hrows table
  cases table <;> exact htable

theorem IsFaithful.congr (hstore : store.IsFaithful)
    (hpart : after.definitionPart = store.definitionPart) : after.IsFaithful := by
  rw [IsFaithful, rowsIn_congr hpart]
  exact hstore

theorem IsFaithful.save (hstore : store.IsFaithful) (hparsed : definition.IsParsed)
    (hsteady : definition.IsSteady) (hsave : store.save definition = .ok after) :
    after.IsFaithful := by
  intro table
  rw [(putsRow_save hsave).rows]
  by_cases htable : table = definition.table
  · subst htable
    rw [Function.update_self]
    refine forall_putRow (hstore _) ⟨definition, hparsed, hsteady, rfl⟩ fun old => ?_
    exact ⟨definition.withOwner old.key.2, hparsed.withOwner _, hsteady.withOwner _,
      definition.row_withOwner _⟩
  · rw [Function.update_of_ne htable]
    exact hstore table

theorem IsFaithful.write (hstore : store.IsFaithful) {write : Write} (hfaithful : write.IsFaithful)
    (hwrite : store.write write = .ok after) : after.IsFaithful := by
  cases write with
  | blueprint blueprint =>
    cases hwrite
    exact hstore.congr rfl
  | version version =>
    obtain ⟨-, -, rfl⟩ := insertVersion_eq_ok hwrite
    exact hstore.congr rfl
  | definition definition => exact hstore.save hfaithful.1 hfaithful.2 hwrite

theorem IsFilled.isFaithful (hfilled : store.IsFilled) : store.IsFaithful := by
  induction hfilled with
  | empty =>
    intro table row hrow
    cases table <;> exact absurd hrow List.not_mem_nil
  | @run store _ call hfaithful ih =>
    rcases run_eq_or store call with hsame | hwrites | ⟨id, expected, status, publishedAt, hafter⟩
    · rw [hsame]
      exact ih
    · exact writeAll_invariant
        (fun hstore hwrite hafter => IsFaithful.write hstore hwrite hafter) ih hfaithful hwrites
    · rw [hafter]
      exact ih.congr rfl

/-! ### Listings -/

end Store

end KnowledgeSchema
