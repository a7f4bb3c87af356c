import KnowledgeSchema.Proofs.Compiling.Assembly

/-!
# Diagnostics of an artifact

Resolving types tells of nothing but their ancestors. So the warnings about relationship types are
those of the relationship types one after another, whatever the types are.
-/

namespace KnowledgeSchema

namespace Warning

/-- Whether a warning is about the ancestors of a type. -/
def isAboutAncestors : Warning → Bool
  | danglingParent _ _ => true
  | depthExceeded _ _ => true
  | inheritanceCycle _ _ => true
  | unknownEndpoint _ _ => false
  | orphanedAttribute _ _ => false

/-- Whether a warning is about a kind that no type has. -/
def isUnknownEndpoint : Warning → Bool
  | unknownEndpoint _ _ => true
  | _ => false

/-- Whether a warning is about an attribute under a relationship type that does not own it. -/
def isOrphanedAttribute : Warning → Bool
  | orphanedAttribute _ _ => true
  | _ => false

end Warning

namespace Resolver

theorem isAboutAncestors_resolve {hierarchy : Hierarchy} {resolver : Resolver}
    (hresolver : ∀ warning ∈ resolver.warnings, warning.isAboutAncestors = true) (id : String) :
    ∀ warning ∈ (resolver.resolve hierarchy id).2.warnings, warning.isAboutAncestors = true := by
  rw [resolve]
  split
  next => exact hresolver
  next =>
    split
    next => exact hresolver
    next target _ =>
      dsimp only
      split
      next warning hwarning =>
        rw [record]
        split_ifs
        · exact hresolver
        · intro other hother
          rcases List.mem_append.mp hother with hother | hother
          · exact hresolver other hother
          · rw [List.mem_singleton.mp hother]
            revert hwarning
            cases (hierarchy.walk resolver.memo target).ending <;> rintro ⟨⟩ <;> rfl
      next => exact hresolver

end Resolver

namespace Content

variable {content : Content} {blueprint : Blueprint} {version : Version} {maxDepth : UInt64}

theorem isAboutAncestors_resolveTypes {hierarchy : Hierarchy} {resolver : Resolver}
    (hresolver : ∀ warning ∈ resolver.warnings, warning.isAboutAncestors = true)
    (types : List EntityType) :
    ∀ warning ∈ (resolveTypes hierarchy resolver types).2.warnings,
      warning.isAboutAncestors = true := by
  induction types generalizing resolver with
  | nil => exact hresolver
  | cons type rest ih => exact ih (Resolver.isAboutAncestors_resolve hresolver type.id)

theorem endpoints_eq (relationship : RelationshipType) :
    endpoints relationship = [relationship.source, relationship.target].eraseDups := by
  rw [endpoints]
  by_cases hsame : relationship.target = relationship.source
  · simp [hsame, List.eraseDups_cons]
  · simp [hsame, List.eraseDups_cons]

/-- Warnings that are not about ancestors are those of the relationship types. -/
theorem filter_diagnostics {wanted : Warning → Bool}
    (hwanted : ∀ warning, wanted warning = true → warning.isAboutAncestors = false) :
    (content.assemble blueprint version maxDepth).diagnostics.filter wanted =
      content.relationships.flatMap fun relationship =>
        (relationshipWarnings (content.types.map (·.kind)) relationship.1 relationship.2).filter
          wanted := by
  have hnone : (resolveTypes (content.hierarchy maxDepth) {} content.types).2.warnings.filter
      wanted = [] := by
    refine List.filter_eq_nil_iff.mpr fun warning hwarning hkept => ?_
    have habout := @isAboutAncestors_resolveTypes (content.hierarchy maxDepth) {}
      (fun _ hmem => nomatch hmem) content.types warning hwarning
    rw [hwanted warning hkept] at habout
    cases habout
  calc
    (content.assemble blueprint version maxDepth).diagnostics.filter wanted =
        ((resolveTypes (content.hierarchy maxDepth) {} content.types).2.warnings ++
          content.relationships.flatMap fun relationship =>
            relationshipWarnings (content.types.map (·.kind)) relationship.1
              relationship.2).filter wanted := rfl
    _ = _ := by rw [List.filter_append, hnone, List.nil_append, List.filter_flatMap]

/-- Kinds that no type has are told once for each relationship type. -/
theorem unknownEndpoints_assemble :
    (content.assemble blueprint version maxDepth).diagnostics.filter (·.isUnknownEndpoint) =
      content.relationships.flatMap fun (relationship, _) =>
        ([relationship.source, relationship.target].eraseDups.filter
          (· ∉ content.types.map (·.kind))).map (.unknownEndpoint relationship.id) := by
  rw [filter_diagnostics fun warning => by cases warning <;> simp [Warning.isUnknownEndpoint,
    Warning.isAboutAncestors]]
  refine List.flatMap_congr fun relationship _ => ?_
  have hnone : ∀ attributes : List RelationshipAttribute, (attributes.map fun attr =>
      Warning.orphanedAttribute attr.id relationship.1.id).filter (·.isUnknownEndpoint) = [] :=
    fun attributes => by simp [Warning.isUnknownEndpoint]
  have hall : ∀ kinds : List EntityKind, (kinds.map
      (Warning.unknownEndpoint relationship.1.id)).filter (·.isUnknownEndpoint) =
        kinds.map (.unknownEndpoint relationship.1.id) :=
    fun kinds => by simp [Warning.isUnknownEndpoint]
  rw [relationshipWarnings, List.filter_append, hnone, hall, List.nil_append, endpoints_eq]
  refine congrArg _ (List.filter_congr fun kind _ => ?_)
  rw [decide_not, List.contains_eq_mem]

/-- Attributes of others are told each time they are listed. -/
theorem orphanedAttributes_assemble :
    (content.assemble blueprint version maxDepth).diagnostics.filter (·.isOrphanedAttribute) =
      content.relationships.flatMap fun (relationship, attributes) =>
        (attributes.filter (·.relationshipTypeId != relationship.id)).map
          fun attr => .orphanedAttribute attr.id relationship.id := by
  rw [filter_diagnostics fun warning => by cases warning <;> simp [Warning.isOrphanedAttribute,
    Warning.isAboutAncestors]]
  refine List.flatMap_congr fun relationship _ => ?_
  have hnone : ∀ kinds : List EntityKind, (kinds.map
      (Warning.unknownEndpoint relationship.1.id)).filter (·.isOrphanedAttribute) = [] :=
    fun kinds => by simp [Warning.isOrphanedAttribute]
  have hall : ∀ attributes : List RelationshipAttribute, (attributes.map fun attr =>
      Warning.orphanedAttribute attr.id relationship.1.id).filter (·.isOrphanedAttribute) =
        attributes.map fun attr => .orphanedAttribute attr.id relationship.1.id :=
    fun attributes => by simp [Warning.isOrphanedAttribute]
  rw [relationshipWarnings, List.filter_append, hnone, hall, List.append_nil]

end Content

end KnowledgeSchema
