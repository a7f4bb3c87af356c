import KnowledgeSchema.Proofs.Importing.Resolved
import KnowledgeSchema.Proofs.Inheritance.Renaming

/-!
# Inheritance in an imported bundle

Where each type of a bundle has become an entity type with its declarations, following ids comes to
the same as following kinds: there are the same ancestors, and of every name the same declaration
counts.
-/

namespace KnowledgeSchema

theorem find?_key_perm {α κ : Type} [BEq κ] [LawfulBEq κ] {key : α → κ} {items others : List α}
    (hperm : items.Perm others) (hnodup : (others.map key).Nodup) (wanted : κ) :
    items.find? (key · == wanted) = others.find? (key · == wanted) := by
  cases hfound : items.find? (key · == wanted) with
  | none =>
    rw [List.find?_eq_none] at hfound
    exact (List.find?_eq_none.mpr fun other hother =>
      hfound other (hperm.mem_iff.mpr hother)).symm
  | some item =>
    have hkey : key item = wanted := by simpa using List.find?_some hfound
    subst hkey
    exact (find?_key_eq_some hnodup (hperm.mem_iff.mp (List.mem_of_find?_eq_some hfound))).symm

namespace Declaration

/-- A field that says the same. -/
def toField (declaration : Declaration) : Field :=
  { Field.new "" "" declaration.name declaration.dataType with
    label := declaration.label
    isRequired := declaration.isRequired
    order := declaration.order
    default := declaration.default
    validation := declaration.validation }

theorem showsBefore_trans (a b c : Declaration) (hab : a.showsBefore b = true)
    (hbc : b.showsBefore c = true) : a.showsBefore c = true :=
  Field.showsBefore_trans a.toField b.toField c.toField hab hbc

theorem showsBefore_total (a b : Declaration) : (a.showsBefore b || b.showsBefore a) = true :=
  Field.showsBefore_total a.toField b.toField

theorem name_eq_of_showsBefore {a b : Declaration} (hab : a.showsBefore b = true)
    (hba : b.showsBefore a = true) : a.name = b.name :=
  @Field.name_eq_of_showsBefore a.toField b.toField hab hba

end Declaration

/-! ### The nearest declaration -/

namespace Bundle

variable {bundle : Bundle} {chain : List BundledType} {name : String} {declaration : Declaration}

theorem mem_of_parent? {type parent : BundledType} (hparent : bundle.parent? type = some parent) :
    parent ∈ bundle.entityTypes := by
  obtain ⟨kind, -, hfound⟩ := Option.bind_eq_some_iff.mp hparent
  exact List.mem_of_find?_eq_some hfound

theorem mem_ancestorsFrom {bound : Nat} {path : List BundledType} {type ancestor : BundledType}
    (hancestor : ancestor ∈ bundle.ancestorsFrom bound path type) :
    ancestor ∈ bundle.entityTypes := by
  induction bound generalizing type path with
  | zero => cases hancestor
  | succ bound ih =>
    simp only [ancestorsFrom] at hancestor
    cases hfound : bundle.parent? type with
    | none => simp [hfound] at hancestor
    | some parent =>
      simp only [hfound] at hancestor
      split_ifs at hancestor with honPath
      · cases hancestor
      · rcases List.mem_cons.mp hancestor with rfl | hrest
        · exact mem_of_parent? hfound
        · exact ih hrest

theorem names_declarations (type : BundledType) :
    type.declarations.map (·.name) = type.members.map (·.name) := by
  rw [BundledType.declarations, List.map_map]
  exact map_zipIdx_congr fun _ _ => rfl

theorem name_of_nearest? (hnearest : nearest? chain name = some declaration) :
    declaration.name = name := by
  obtain ⟨type, -, hfound⟩ := List.exists_of_findSome?_eq_some hnearest
  simpa using List.find?_some hfound

theorem nearest?_of_mem_effective (hmem : declaration ∈ effective chain) :
    nearest? chain declaration.name = some declaration := by
  rw [effective, List.mem_mergeSort] at hmem
  obtain ⟨name, -, hnearest⟩ := List.mem_filterMap.mp hmem
  rwa [name_of_nearest? hnearest]

/-- A list of the nearest declarations in the order they are shown is the list of them. -/
theorem eq_effective {declarations : List Declaration}
    (hperm : declarations.Perm (effective chain))
    (hsorted : declarations.Pairwise fun a b => a.showsBefore b = true) :
    declarations = effective chain := by
  refine hperm.eq_of_pairwise (fun a b ha hb hab hba => ?_) hsorted
    (List.pairwise_mergeSort Declaration.showsBefore_trans Declaration.showsBefore_total _)
  have hfirst := nearest?_of_mem_effective (hperm.mem_iff.mp ha)
  rw [Declaration.name_eq_of_showsBefore hab hba, nearest?_of_mem_effective hb] at hfirst
  exact (Option.some.inj hfirst).symm

end Bundle

/-! ### A hierarchy of the types of a bundle -/

/-- A hierarchy with an entity type for each type of a bundle, under ids that tell kinds apart. -/
structure Hierarchy.Embodies (hierarchy : Hierarchy) (bundle : Bundle)
    (embody : BundledType → EntityType) : Prop where
  apart : ∀ first ∈ bundle.entityTypes, ∀ second ∈ bundle.entityTypes,
    (embody first).id = (embody second).id ↔ first.kind = second.kind
  known : ∀ type ∈ bundle.entityTypes, hierarchy.Knows (embody type)
  parent : ∀ type ∈ bundle.entityTypes,
    hierarchy.parent? (embody type) = (bundle.parent? type).map embody
  own : ∀ type ∈ bundle.entityTypes,
    ((hierarchy.own (embody type).id).map Field.declaration).Perm type.declarations

namespace Hierarchy.Embodies

variable {hierarchy : Hierarchy} {bundle : Bundle} {embody : BundledType → EntityType}
  {type : BundledType} {chain path : List BundledType}
  (hembodies : hierarchy.Embodies bundle embody)
include hembodies

/-- Kinds and ids lead to the same ancestors. -/
theorem ancestorsFrom {bound : Nat} (htype : type ∈ bundle.entityTypes)
    (hpath : path ⊆ bundle.entityTypes) :
    hierarchy.ancestorsFrom bound (path.map embody) (embody type) =
      (bundle.ancestorsFrom bound path type).map embody := by
  induction bound generalizing type path with
  | zero => rfl
  | succ bound ih =>
    simp only [Hierarchy.ancestorsFrom, Bundle.ancestorsFrom, hembodies.parent type htype]
    cases hfound : bundle.parent? type with
    | none => rfl
    | some parent =>
      have hparent := Bundle.mem_of_parent? hfound
      have hany : (path.map embody).any (·.id == (embody parent).id) =
          path.any (·.kind == parent.kind) := by
        rw [List.any_map, Bool.eq_iff_iff, List.any_eq_true, List.any_eq_true]
        refine exists_congr fun other => and_congr_right fun hother => ?_
        rw [Function.comp_apply, beq_iff_eq, beq_iff_eq]
        exact hembodies.apart other (hpath hother) parent hparent
      simp only [Option.map_some, hany]
      by_cases honPath : path.any (·.kind == parent.kind) = true
      · rw [if_pos honPath, if_pos honPath]
        rfl
      · rw [if_neg honPath, if_neg honPath, List.map_cons,
          ← ih hparent (List.cons_subset.mpr ⟨hparent, hpath⟩)]
        rfl

section Declared

variable (hnames : ∀ type ∈ bundle.entityTypes, (type.members.map (·.name)).Nodup)
include hnames

theorem nearest? (hchain : chain ⊆ bundle.entityTypes) (name : String) :
    (hierarchy.nearest? (chain.map fun type => (embody type).id) name).map Field.declaration =
      Bundle.nearest? chain name := by
  induction chain with
  | nil => rfl
  | cons type rest ih =>
    obtain ⟨htype, hrest⟩ := List.cons_subset.mp hchain
    have hown : ((hierarchy.own (embody type).id).findRev? (·.name == name)).map
        Field.declaration = type.declarations.find? (·.name == name) := by
      have hperm := ((hierarchy.own (embody type).id).reverse_perm.map Field.declaration).trans
        (hembodies.own type htype)
      have hnodup : (type.declarations.map (·.name)).Nodup := by
        rw [Bundle.names_declarations]
        exact hnames type htype
      rw [← find?_key_perm hperm hnodup, List.findRev?_eq_find?_reverse, List.find?_map]
      rfl
    have hothers := ih hrest
    simp only [Hierarchy.nearest?, Bundle.nearest?, List.map_cons, List.findSome?_cons]
      at hothers ⊢
    rw [← hown]
    cases (hierarchy.own (embody type).id).findRev? (·.name == name) with
    | none => exact hothers
    | some field => rfl

theorem effectiveFields (hchain : chain ⊆ bundle.entityTypes) :
    (hierarchy.effectiveFields (chain.map fun type => (embody type).id)).map Field.declaration =
      Bundle.effective chain := by
  refine Bundle.eq_effective ?perm (List.pairwise_map.mpr (pairwise_effectiveFields _))
  have hnamed : (hierarchy.declaredNames (chain.map fun type => (embody type).id)).Perm
      ((chain.flatMap BundledType.declarations).map (·.name)).dedup := by
    refine List.Perm.dedup ?_
    have hdeclared : ((chain.flatMap fun type => hierarchy.own (embody type).id).map
        Field.declaration).Perm (chain.flatMap BundledType.declarations) := by
      rw [List.map_flatMap]
      exact List.Perm.flatMap_left chain fun type htype => hembodies.own type (hchain htype)
    have hperm := hdeclared.map (·.name)
    rw [List.map_map] at hperm
    rw [List.flatMap_map]
    exact hperm
  calc
    ((hierarchy.effectiveFields (chain.map fun type => (embody type).id)).map
        Field.declaration).Perm
        (((hierarchy.declaredNames (chain.map fun type => (embody type).id)).filterMap
          (hierarchy.nearest? (chain.map fun type => (embody type).id))).map Field.declaration) :=
      (List.mergeSort_perm _ _).map _
    _ = (hierarchy.declaredNames (chain.map fun type => (embody type).id)).filterMap
          (Bundle.nearest? chain) := by
      rw [List.map_filterMap]
      exact List.filterMap_congr fun name _ => hembodies.nearest? hnames hchain name
    List.Perm _ (((chain.flatMap BundledType.declarations).map (·.name)).dedup.filterMap
        (Bundle.nearest? chain)) := hnamed.filterMap _
    List.Perm _ (Bundle.effective chain) := (List.mergeSort_perm _ _).symm

/-- A type of a bundle has the fields that following parent kinds gives it. -/
theorem effective (htype : type ∈ bundle.entityTypes) :
    (hierarchy.effective (embody type).id).fields.map Field.declaration =
      Bundle.effective (bundle.chain hierarchy.maxDepth type) := by
  have hancestors := @ancestorsFrom _ _ _ _ [type] hembodies hierarchy.maxDepth.toNat htype
    (by simpa using htype)
  have hlineage : hierarchy.lineageOf (embody type).id =
      (bundle.ancestorsFrom hierarchy.maxDepth.toNat [type] type).map fun type =>
        (embody type).id := by
    rw [lineageOf, hembodies.known type htype]
    dsimp only
    rw [ancestors, ← List.map_singleton, hancestors, List.map_map]
    rfl
  have hchain : bundle.chain hierarchy.maxDepth type ⊆ bundle.entityTypes :=
    List.cons_subset.mpr ⟨htype, fun ancestor hmem => Bundle.mem_ancestorsFrom hmem⟩
  rw [← hembodies.effectiveFields hnames hchain, Hierarchy.effective, hlineage]
  rfl

end Declared

end Hierarchy.Embodies

end KnowledgeSchema
