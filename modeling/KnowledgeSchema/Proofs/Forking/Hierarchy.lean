import KnowledgeSchema.Proofs.Compiling.Artifact
import KnowledgeSchema.Proofs.Forking.Renaming

/-!
# Inheritance in a renamed version

The types of a renamed version inherit as those of the original do, under the new ids. Of several
fields of one type and one name the last one in the order of positions counts, so this takes that no
two of them share the last position: ids would decide between them.
-/

namespace KnowledgeSchema

/-- Whether the place of the last field with a name is taken only once in each type. -/
def FieldsAreDecided {α : Type} (owner name : α → String) (order : α → Int64) (rows : List α) :
    Prop :=
  ∀ first ∈ rows, ∀ second ∈ rows, owner first = owner second → name first = name second →
    order first = order second → first = second ∨
      ∃ third ∈ rows, owner third = owner first ∧ name third = name first ∧
        order first < order third

/-! ### The last field of a name -/

abbrev Field.inOrder (first second : Field) : Ordering :=
  compareLex (compareOn (·.order)) (Store.byKey (·.name) (·.id)) first second

theorem order_le_of_inOrder {first second : Field} (hle : (first.inOrder second).isLE = true) :
    first.order ≤ second.order := by
  have hcompare : (compare first.order second.order).isLE = true :=
    Ordering.isLE_left_of_isLE_then hle
  exact Std.isLE_compare.mp hcompare

section LastOfName

variable {items : List Field} {field : Field} {name : String}

theorem pairwise_order (items : List Field) :
    (Store.ordered Field.inOrder items).Pairwise fun first second => first.order ≤ second.order :=
  (Store.pairwise_ordered items).imp order_le_of_inOrder

theorem order_le_of_findRev?
    (hsorted : items.Pairwise fun first second => first.order ≤ second.order)
    (hlast : items.findRev? (·.name == name) = some field) :
    ∀ other ∈ items, other.name = name → other.order ≤ field.order := by
  intro other hother hname
  rw [List.findRev?_eq_find?_reverse, List.find?_eq_some_iff_append] at hlast
  obtain ⟨-, after, before, hsplit, hafter⟩ := hlast
  have hmem := List.mem_reverse.mpr hother
  rw [hsplit, List.mem_append, List.mem_cons] at hmem
  rcases hmem with hmem | rfl | hmem
  · simpa [hname] using hafter other hmem
  · exact Int64.le_refl _
  · have hreverse := List.pairwise_reverse.mpr hsorted
    rw [hsplit, List.pairwise_append, List.pairwise_cons] at hreverse
    exact hreverse.2.1.1 other hmem

theorem findRev?_eq_some (hsorted : items.Pairwise fun first second => first.order ≤ second.order)
    (hmem : field ∈ items)
    (hgreatest : ∀ other ∈ items, other.name = field.name →
      other = field ∨ other.order < field.order) :
    items.findRev? (·.name == field.name) = some field := by
  cases hlast : items.findRev? (·.name == field.name) with
  | none =>
    rw [List.findRev?_eq_find?_reverse, List.find?_eq_none] at hlast
    exact absurd (beq_self_eq_true field.name) (hlast field (List.mem_reverse.mpr hmem))
  | some last =>
    have hle := order_le_of_findRev? hsorted hlast field hmem rfl
    rw [List.findRev?_eq_find?_reverse] at hlast
    have hname : last.name = field.name := by simpa using List.find?_some hlast
    rcases hgreatest last (List.mem_reverse.mp (List.mem_of_find?_eq_some hlast)) hname with
      rfl | hlt
    · rfl
    · exact absurd hle (Int64.not_le.mpr hlt)

/-- The last field of a name stays the last one under another id. -/
theorem findRev?_ordered_map {rename : Field → Field}
    (hname : ∀ field, (rename field).name = field.name)
    (horder : ∀ field, (rename field).order = field.order)
    (hdecided : ∀ first ∈ items, ∀ second ∈ items, first.name = second.name →
      first.order = second.order → first = second ∨
        ∃ third ∈ items, third.name = first.name ∧ first.order < third.order) :
    (Store.ordered Field.inOrder (items.map rename)).findRev? (·.name == name) =
      ((Store.ordered Field.inOrder items).findRev? (·.name == name)).map rename := by
  cases hlast : (Store.ordered Field.inOrder items).findRev? (·.name == name) with
  | none =>
    rw [List.findRev?_eq_find?_reverse, List.find?_eq_none] at hlast
    rw [List.findRev?_eq_find?_reverse, Option.map_none, List.find?_eq_none]
    intro field hfield
    rw [List.mem_reverse, Store.mem_ordered] at hfield
    obtain ⟨original, horiginal, rfl⟩ := List.mem_map.mp hfield
    rw [hname]
    exact hlast original (List.mem_reverse.mpr (Store.mem_ordered.mpr horiginal))
  | some field =>
    have hle := order_le_of_findRev? (pairwise_order items) hlast
    rw [List.findRev?_eq_find?_reverse] at hlast
    have hmem : field ∈ items :=
      Store.mem_ordered.mp (List.mem_reverse.mp (List.mem_of_find?_eq_some hlast))
    obtain rfl : field.name = name := by simpa using List.find?_some hlast
    have hgreatest : ∀ other ∈ items, other.name = field.name →
        other = field ∨ other.order < field.order := by
      intro other hother hsame
      by_cases heq : other.order = field.order
      · rcases hdecided other hother field hmem hsame heq with rfl | ⟨third, hthird, hnamed, hlt⟩
        · exact Or.inl rfl
        · have hbound := hle third (Store.mem_ordered.mpr hthird) (hnamed.trans hsame)
          exact absurd (heq ▸ hlt) (Int64.not_lt.mpr hbound)
      · have hbound := hle other (Store.mem_ordered.mpr hother) hsame
        exact Or.inr (Int64.lt_of_le_of_ne hbound heq)
    rw [Option.map_some, ← hname field]
    refine findRev?_eq_some (pairwise_order _)
      (Store.mem_ordered.mpr (List.mem_map_of_mem hmem)) fun other hother hsame => ?_
    obtain ⟨original, horiginal, rfl⟩ := List.mem_map.mp (Store.mem_ordered.mp hother)
    rw [hname, hname] at hsame
    rw [horder, horder]
    exact (hgreatest original horiginal hsame).imp_left (congrArg rename)

end LastOfName

/-! ### Ids told apart -/

/-- Whether what is told apart by old ids is told apart by the new ones. A parent need not be there. -/
structure Renaming.Separates (ρ : Renaming) (set : DefinitionSet) : Prop where
  entityTypes : ∀ type ∈ set.entityTypes, ∀ other ∈ set.entityTypes,
    ρ .entityTypes other.id = ρ .entityTypes type.id → other.id = type.id
  parents : ∀ type ∈ set.entityTypes, ∀ child ∈ set.entityTypes, ∀ parentId ∈ child.parentId,
    ρ .entityTypes parentId = ρ .entityTypes type.id → parentId = type.id
  relationshipTypes : ∀ type ∈ set.relationshipTypes, ∀ other ∈ set.relationshipTypes,
    ρ .relationshipTypes other.id = ρ .relationshipTypes type.id → other.id = type.id

/-- Children of one owner stay together. -/
theorem filter_renamed {α : Type} {owner : α → String} {rename : α → α} {f : String → String}
    {items : List α} {wanted : String} (howner : ∀ item, owner (rename item) = f (owner item))
    (hapart : ∀ item ∈ items, f (owner item) = f wanted → owner item = wanted) :
    (items.map rename).filter (owner · == f wanted) =
      (items.filter (owner · == wanted)).map rename := by
  rw [List.filter_map]
  refine congrArg _ (List.filter_congr fun item hitem => Bool.eq_iff_iff.mpr ?_)
  rw [Function.comp_apply, howner, beq_iff_eq, beq_iff_eq]
  exact ⟨hapart item hitem, congrArg f⟩

/-! ### The hierarchy of a renamed version -/

namespace DefinitionSet

variable {set : DefinitionSet} {versionId : String} {ρ : Renaming} {other : String}
  {maxDepth : UInt64}

theorem types_renamed_perm (set : DefinitionSet) (ρ : Renaming) (other : String) :
    (set.renamed ρ other).arranged.types.Perm (set.arranged.types.map (·.renamed ρ other)) := by
  rw [types_arranged, types_arranged]
  exact (Store.ordered_perm _ _).trans ((Store.ordered_perm _ _).symm.map _)

section Renamed

variable (hset : set.IsOf versionId) (hrenamed : (set.renamed ρ other).IsOf other)
  (hseparates : ρ.Separates set)
include hset hrenamed hseparates

theorem type?_renamed {child : EntityType} (hchild : child ∈ set.entityTypes)
    {parentId : String} (hparentId : child.parentId = some parentId) :
    ((set.renamed ρ other).arranged.hierarchy maxDepth).type? (ρ .entityTypes parentId) =
      ((set.arranged.hierarchy maxDepth).type? parentId).map (·.renamed ρ other) := by
  cases hfound : (set.arranged.hierarchy maxDepth).type? parentId with
  | some parent =>
    have hparent : parent ∈ set.entityTypes :=
      mem_types_arranged.mp (List.mem_reverse.mp (List.mem_of_find?_eq_some hfound))
    obtain rfl : parent.id = parentId := Hierarchy.id_of_type? hfound
    exact hrenamed.knows (List.mem_map_of_mem hparent)
  | none =>
    rw [Option.map_none, Hierarchy.type?, List.find?_eq_none]
    intro type htype hid
    obtain ⟨original, horiginal, rfl⟩ :=
      List.mem_map.mp (mem_types_arranged.mp (List.mem_reverse.mp htype))
    have hsame : parentId = original.id :=
      hseparates.parents original horiginal child hchild parentId hparentId (beq_iff_eq.mp hid).symm
    have hknown : (set.arranged.hierarchy maxDepth).Knows original := hset.knows horiginal
    rw [Hierarchy.Knows, ← hsame, hfound] at hknown
    cases hknown

theorem renames (hdecided : FieldsAreDecided Field.entityTypeId Field.name Field.order set.fields) :
    (set.arranged.hierarchy maxDepth).Renames ((set.renamed ρ other).arranged.hierarchy maxDepth)
      (·.renamed ρ other) (·.renamed ρ) (ρ .entityTypes) where
  depth := rfl
  id _ := rfl
  parentId _ := rfl
  injective first hfirst second hsecond hsame :=
    hseparates.entityTypes second (mem_types_arranged.mp hsecond) first
      (mem_types_arranged.mp hfirst) hsame
  known type htype := hrenamed.knows (List.mem_map_of_mem (mem_types_arranged.mp htype))
  parent type htype := by
    have hmem := mem_types_arranged.mp htype
    rw [hset.parent?_eq hmem, hrenamed.parent?_eq (List.mem_map_of_mem hmem), EntityType.renamed]
    cases hparentId : type.parentId with
    | none => rfl
    | some parentId => exact type?_renamed hset hrenamed hseparates hmem hparentId
  own type htype name := by
    have hmem := mem_types_arranged.mp htype
    have hown : ((set.renamed ρ other).arranged.hierarchy maxDepth).own (ρ .entityTypes type.id) =
        Store.ordered Field.inOrder
          ((set.fields.filter (·.entityTypeId == type.id)).map (·.renamed ρ)) := by
      have hfields := @fieldsOf_arranged (set.renamed ρ other) _ (List.mem_map_of_mem hmem)
      refine hfields.trans (congrArg (Store.ordered Field.inOrder)
        (filter_renamed (fun _ => rfl) fun field hfield hsame => ?_))
      obtain ⟨owner, howner, hid⟩ := hset.entityTypeId_mem hfield
      rw [hid] at hsame ⊢
      exact hseparates.entityTypes type hmem owner howner hsame
    have hsource : (set.arranged.hierarchy maxDepth).own type.id =
        Store.ordered Field.inOrder (set.fields.filter (·.entityTypeId == type.id)) :=
      fieldsOf_arranged hmem
    rw [hown, hsource]
    refine findRev?_ordered_map (fun _ => rfl) (fun _ => rfl) fun first hfirst second hsecond => ?_
    obtain ⟨hfirst, hfirstOwner⟩ := List.mem_filter.mp hfirst
    obtain ⟨hsecond, hsecondOwner⟩ := List.mem_filter.mp hsecond
    rw [beq_iff_eq] at hfirstOwner hsecondOwner
    intro hname horder
    refine (hdecided first hfirst second hsecond (hfirstOwner.trans hsecondOwner.symm) hname
      horder).imp_right ?_
    rintro ⟨third, hthird, howner, hnamed, hlt⟩
    exact ⟨third, List.mem_filter.mpr ⟨hthird, beq_iff_eq.mpr (howner.trans hfirstOwner)⟩, hnamed,
      hlt⟩
  name _ := rfl
  order _ := rfl

end Renamed

end DefinitionSet

end KnowledgeSchema
