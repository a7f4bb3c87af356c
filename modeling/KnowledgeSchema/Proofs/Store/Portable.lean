import KnowledgeSchema.Proofs.Documents.Portable
import KnowledgeSchema.Proofs.Store.Consistency

/-!
# Stores of portable definitions

A store that is only ever given portable definitions gives back portable ones. A kind that is kept as a
text is spelled as kinds are when it is read, whatever the text is. Only JSON and thresholds come back
as they went in, so the rows that have them are those of portable definitions.
-/

namespace KnowledgeSchema

variable {depth : Nat}

/-! ### Rows -/

theorem EntityTypeRow.isNormal_kind (row : EntityTypeRow) : row.toDefinition.kind.IsNormal := by
  dsimp only [toDefinition]
  exact EntityKind.isNormal_parse row.kind

theorem RelationshipTypeRow.isNormal_ends (row : RelationshipTypeRow) :
    row.toDefinition.source.IsNormal ∧ row.toDefinition.target.IsNormal := by
  dsimp only [toDefinition]
  exact ⟨EntityKind.isNormal_parse row.source, EntityKind.isNormal_parse row.target⟩

theorem AttributeRow.isNormal_dataType (row : AttributeRow) :
    row.toDefinition.dataType.IsNormal := by
  dsimp only [toDefinition]
  exact DataType.isNormal_parse row.dataType

theorem LabelMappingRow.isNormal_kind (row : LabelMappingRow) : row.toDefinition.kind.IsNormal := by
  dsimp only [toDefinition]
  exact EntityKind.isNormal_parse row.kind

theorem Field.IsPortable.of_row {field read : Field} (hportable : field.IsPortable depth)
    (hread : field.toRow.toDefinition = .ok read) : read.IsPortable depth := by
  obtain ⟨validation, hvalidation, rfl⟩ := (Field.toDefinition_eq_ok hportable.dataType).mp hread
  have horiginal : ∀ json ∈ validation,
      ∃ original ∈ field.validation, Codec.free.parse original.text = .ok json := by
    intro json hjson
    cases hfield : field.validation with
    | none =>
      rw [hfield] at hvalidation
      cases hvalidation
      cases hjson
    | some original =>
      rw [hfield] at hvalidation
      obtain ⟨found, hfound, rfl⟩ := Outcome.map_eq_ok.mp hvalidation
      cases hjson
      exact ⟨original, rfl, readJson_eq_ok.mp hfound⟩
  refine ⟨hportable.dataType, fun json hjson => ?_, fun json hjson => ?_⟩
  · obtain ⟨original, hmem, hparse⟩ := horiginal json hjson
    exact (hportable.validation original hmem).of_parse_text hparse
  · obtain ⟨original, hmem, hparse⟩ := horiginal json hjson
    exact Json.isSolid_of_parse_text (hportable.solid original hmem) hparse

theorem ViewTemplate.IsPortable.of_row {view read : ViewTemplate} (hportable : view.IsPortable depth)
    (hread : view.toRow.toDefinition = .ok read) : read.IsPortable depth := by
  obtain ⟨config, hconfig, rfl⟩ := (ViewTemplate.toDefinition_eq_ok hportable.kind).mp hread
  exact ⟨hportable.kind, hportable.config.of_parse_text (readJson_eq_ok.mp hconfig)⟩

theorem MapOfContent.IsPortable.of_row {map read : MapOfContent} (hportable : map.IsPortable depth)
    (hread : map.toRow.toDefinition = .ok read) : read.IsPortable depth := by
  obtain ⟨config, hconfig, rfl⟩ := (MapOfContent.toDefinition_eq_ok hportable.kinds).mp hread
  exact ⟨hportable.kinds, hportable.config.of_parse_text (readJson_eq_ok.mp hconfig)⟩

theorem ExtractionProfile.IsPortable.of_row {profile : ExtractionProfile}
    (hportable : profile.IsPortable) : profile.toRow.toDefinition.IsPortable :=
  ⟨Double.isFinite_dropZeroSign hportable.threshold⟩

def Write.IsPortable (depth : Nat) : Write → Prop
  | definition each => each.IsPortable depth
  | _ => True

namespace Store

/-- Whether the rows that have JSON or a threshold are those of portable definitions. -/
structure IsPortable (depth : Nat) (store : Store) : Prop where
  fields : ∀ row ∈ store.fields, ∃ field : Field, field.IsPortable depth ∧ field.toRow = row
  views : ∀ row ∈ store.viewTemplates,
    ∃ view : ViewTemplate, view.IsPortable (depth + 2) ∧ view.toRow = row
  maps : ∀ row ∈ store.mapsOfContent,
    ∃ map : MapOfContent, map.IsPortable (depth + 2) ∧ map.toRow = row
  profiles : ∀ row ∈ store.profiles,
    ∃ profile : ExtractionProfile, profile.IsPortable ∧ profile.toRow = row

theorem isPortable_empty : IsPortable depth {} := by
  constructor <;> exact List.forall_mem_nil _

variable {store after : Store} {definition : Definition}

/-! ### Writes -/

theorem IsPortable.congr (hstore : store.IsPortable depth)
    (hpart : after.definitionPart = store.definitionPart) : after.IsPortable depth := by
  have hstored : store.definitionPart.IsPortable depth := { hstore with }
  rw [← hpart] at hstored
  exact { hstored with }

/-- A row that is written again keeps its owner, which no definition is portable by. -/
theorem IsPortable.save (hstore : store.IsPortable depth) (hportable : definition.IsPortable depth)
    (hsave : store.save definition = .ok after) : after.IsPortable depth := by
  cases definition with
  | field field =>
    rw [← (guarded_eq_ok.mp hsave).2]
    refine { hstore with fields := ?_ }
    dsimp only
    refine forall_putRow hstore.fields ⟨field, hportable, rfl⟩ fun old => ?_
    exact ⟨{ field with entityTypeId := old.entityTypeId },
      ⟨hportable.dataType, hportable.validation, hportable.solid⟩, rfl⟩
  | viewTemplate view =>
    rw [← (guarded_eq_ok.mp hsave).2]
    refine { hstore with views := ?_ }
    dsimp only
    refine forall_putRow hstore.views ⟨view, hportable, rfl⟩ fun old => ?_
    exact ⟨{ view with versionId := old.versionId }, ⟨hportable.kind, hportable.config⟩, rfl⟩
  | mapOfContent map =>
    rw [← (guarded_eq_ok.mp hsave).2]
    refine { hstore with maps := ?_ }
    dsimp only
    refine forall_putRow hstore.maps ⟨map, hportable, rfl⟩ fun old => ?_
    exact ⟨{ map with versionId := old.versionId }, ⟨hportable.kinds, hportable.config⟩, rfl⟩
  | profile profile =>
    rw [← (guarded_eq_ok.mp (saveProfile_eq_ok.mp hsave).2).2]
    refine { hstore with profiles := ?_ }
    dsimp only
    refine forall_putRow hstore.profiles ⟨profile, hportable, rfl⟩ fun old => ?_
    exact ⟨{ profile with versionId := old.versionId }, ⟨hportable.threshold⟩, rfl⟩
  | entityType | relationshipType | relationshipAttribute | labelMapping | ignoreEntry =>
    rw [← (guarded_eq_ok.mp hsave).2]
    exact { hstore with }

theorem IsPortable.write (hstore : store.IsPortable depth) {write : Write}
    (hportable : write.IsPortable depth) (hwrite : store.write write = .ok after) :
    after.IsPortable depth := by
  cases write with
  | blueprint blueprint =>
    cases hwrite
    exact hstore.congr rfl
  | version version =>
    obtain ⟨-, -, rfl⟩ := insertVersion_eq_ok hwrite
    exact hstore.congr rfl
  | definition definition => exact hstore.save hportable hwrite

theorem IsPortable.run (hstore : store.IsPortable depth) {call : Call}
    (hportable : ∀ write ∈ call.writes, write.IsPortable depth) :
    (store.run call).2.IsPortable depth := by
  rcases run_eq_or store call with hsame | hwrites | ⟨id, expected, status, publishedAt, hafter⟩
  · rw [hsame]
    exact hstore
  · exact writeAll_invariant (fun hheld hwrite hafter => IsPortable.write hheld hwrite hafter) hstore
      hportable hwrites
  · rw [hafter]
    exact hstore.congr rfl

/-! ### Answers -/

/-- Whether the definitions in the answer to a call are portable. -/
def Call.AnswersPortable (depth : Nat) : (call : Call) → call.Result → Prop
  | .listEntityTypes _, types => ∀ type ∈ types, type.kind.IsNormal
  | .listFields _, fields => ∀ field ∈ fields, field.IsPortable depth
  | .listRelationshipTypes _, types => ∀ type ∈ types, type.source.IsNormal ∧ type.target.IsNormal
  | .listAttributes _, attributes => ∀ attr ∈ attributes, attr.dataType.IsNormal
  | .listViewTemplates _, views => ∀ view ∈ views, view.IsPortable (depth + 2)
  | .listMapsOfContent _, maps => ∀ map ∈ maps, map.IsPortable (depth + 2)
  | .getProfile _, profile? => ∀ profile ∈ profile?, profile.IsPortable
  | .listLabelMappings _, mappings => ∀ mapping ∈ mappings, mapping.kind.IsNormal
  | _, _ => True

theorem mem_of_mem_listed {ρ : Type} {order : ρ → ρ → Ordering} {wanted : ρ → Bool} {rows : List ρ}
    {row : ρ} (hrow : row ∈ ordered order (rows.filter wanted)) : row ∈ rows :=
  List.mem_of_mem_filter (List.mem_mergeSort.mp hrow)

theorem IsPortable.answers (hstore : store.IsPortable depth) (call : Call) {result : call.Result}
    (hrun : (store.run call).1 = .ok result) : call.AnswersPortable depth result := by
  cases call with
  | listEntityTypes versionId =>
    cases hrun
    exact List.forall_mem_map.mpr fun row _ => row.isNormal_kind
  | listFields entityTypeId =>
    intro field hfield
    obtain ⟨row, hrow, hread⟩ := Outcome.exists_of_mem_mapM hrun hfield
    obtain ⟨original, hportable, rfl⟩ := hstore.fields row (mem_of_mem_listed hrow)
    exact hportable.of_row hread
  | listRelationshipTypes versionId =>
    cases hrun
    exact List.forall_mem_map.mpr fun row _ => row.isNormal_ends
  | listAttributes relationshipTypeId =>
    cases hrun
    exact List.forall_mem_map.mpr fun row _ => row.isNormal_dataType
  | listViewTemplates versionId =>
    intro view hview
    obtain ⟨row, hrow, hread⟩ := Outcome.exists_of_mem_mapM hrun hview
    obtain ⟨original, hportable, rfl⟩ := hstore.views row (mem_of_mem_listed hrow)
    exact hportable.of_row hread
  | listMapsOfContent versionId =>
    intro map hmap
    obtain ⟨row, hrow, hread⟩ := Outcome.exists_of_mem_mapM hrun hmap
    obtain ⟨original, hportable, rfl⟩ := hstore.maps row (mem_of_mem_listed hrow)
    exact hportable.of_row hread
  | getProfile versionId =>
    cases hrun
    intro profile hprofile
    obtain ⟨row, hrow, rfl⟩ := Option.map_eq_some_iff.mp hprofile
    obtain ⟨original, hportable, rfl⟩ := hstore.profiles row (List.mem_of_find?_eq_some hrow)
    exact hportable.of_row
  | listLabelMappings profileId =>
    cases hrun
    exact List.forall_mem_map.mpr fun row _ => row.isNormal_kind
  | _ => trivial

end Store

end KnowledgeSchema
