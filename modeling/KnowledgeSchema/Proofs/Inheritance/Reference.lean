import Mathlib.Data.List.Dedup
import Mathlib.Data.String.Basic
import KnowledgeSchema.Inheritance.Resolver

/-!
# What a type inherits, without a memo

The value that every resolution has to agree with. It is worked out from the types alone: the chain
of ancestors is followed from the type itself, and of every name the nearest declaration counts.

Inherited fields are kept sorted by name, and a nearer declaration takes the place of a farther one.
What the fields of a chain of types come to when they are laid over one another, the farthest first,
is for every name its nearest declaration.
-/

namespace KnowledgeSchema

namespace Hierarchy

/-- The ancestors of the head of a path, nearest first: at most `bound` of them, and none that is on
the path already. -/
def ancestorsFrom (hierarchy : Hierarchy) : Nat → List EntityType → EntityType → List EntityType
  | 0, _, _ => []
  | bound + 1, path, current =>
    match hierarchy.parent? current with
    | none => []
    | some parent =>
      if path.any (·.id == parent.id) then []
      else parent :: hierarchy.ancestorsFrom bound (parent :: path) parent

def ancestors (hierarchy : Hierarchy) (target : EntityType) : List EntityType :=
  hierarchy.ancestorsFrom hierarchy.maxDepth.toNat [target] target

/-- The ids of the ancestors of the type with an id. A type that is not known has none. -/
def lineageOf (hierarchy : Hierarchy) (id : String) : List String :=
  match hierarchy.type? id with
  | some target => (hierarchy.ancestors target).map (·.id)
  | none => []

/-- The declaration of a name that counts: the last one of the first type that declares it. -/
def nearest? (hierarchy : Hierarchy) (ids : List String) (name : String) : Option Field :=
  ids.findSome? fun id => (hierarchy.own id).findRev? (·.name == name)

def declaredNames (hierarchy : Hierarchy) (ids : List String) : List String :=
  ((ids.flatMap hierarchy.own).map (·.name)).dedup

/-- One field for every name that some of the types declare, in the order they are shown. -/
def effectiveFields (hierarchy : Hierarchy) (ids : List String) : List Field :=
  ((hierarchy.declaredNames ids).filterMap (hierarchy.nearest? ids)).mergeSort Field.showsBefore

/-- The fields and the lineage that the type with an id has by definition. -/
def effective (hierarchy : Hierarchy) (id : String) : ResolvedFields where
  fields := hierarchy.effectiveFields (id :: hierarchy.lineageOf id)
  lineage := hierarchy.lineageOf id

end Hierarchy

/-! ### Order of the fields -/

namespace Field

theorem showsBefore_iff (first second : Field) :
    first.showsBefore second = true ↔
      first.order < second.order ∨ first.order = second.order ∧ first.name ≤ second.name := by
  simp [showsBefore]

theorem showsBefore_trans (a b c : Field) (hab : a.showsBefore b = true)
    (hbc : b.showsBefore c = true) : a.showsBefore c = true := by
  rw [showsBefore_iff] at *
  rcases hab with hab | ⟨habOrder, habName⟩
  · rcases hbc with hbc | ⟨hbcOrder, -⟩
    · exact Or.inl (Int64.lt_trans hab hbc)
    · exact Or.inl (hbcOrder ▸ hab)
  · rcases hbc with hbc | ⟨hbcOrder, hbcName⟩
    · exact Or.inl (habOrder ▸ hbc)
    · exact Or.inr ⟨habOrder.trans hbcOrder, String.le_trans habName hbcName⟩

theorem showsBefore_total (a b : Field) : (a.showsBefore b || b.showsBefore a) = true := by
  rw [Bool.or_eq_true, showsBefore_iff, showsBefore_iff]
  by_cases horder : a.order = b.order
  · rcases String.le_total a.name b.name with hname | hname
    · exact Or.inl (Or.inr ⟨horder, hname⟩)
    · exact Or.inr (Or.inr ⟨horder.symm, hname⟩)
  · rcases Int64.lt_or_lt_of_ne horder with hlt | hlt
    · exact Or.inl (Or.inl hlt)
    · exact Or.inr (Or.inl hlt)

theorem name_eq_of_showsBefore {a b : Field} (hab : a.showsBefore b = true)
    (hba : b.showsBefore a = true) : a.name = b.name := by
  rw [showsBefore_iff] at *
  rcases hab with hab | ⟨habOrder, habName⟩
  · rcases hba with hba | ⟨hbaOrder, -⟩
    · exact absurd (Int64.lt_trans hab hba) (Int64.lt_irrefl)
    · exact absurd (hbaOrder ▸ hab) Int64.lt_irrefl
  · rcases hba with hba | ⟨-, hbaName⟩
    · exact absurd (habOrder ▸ hba) Int64.lt_irrefl
    · exact String.le_antisymm habName hbaName

end Field

namespace Hierarchy

variable {hierarchy : Hierarchy}

/-! ### The nearest declaration -/

theorem name_of_nearest? {ids : List String} {name : String} {field : Field}
    (hnearest : hierarchy.nearest? ids name = some field) : field.name = name := by
  obtain ⟨id, -, hfield⟩ := List.exists_of_findSome?_eq_some hnearest
  rw [List.findRev?_eq_find?_reverse] at hfield
  simpa using List.find?_some hfield

theorem mem_own_of_nearest? {ids : List String} {name : String} {field : Field}
    (hnearest : hierarchy.nearest? ids name = some field) :
    ∃ id ∈ ids, field ∈ hierarchy.own id := by
  obtain ⟨id, hid, hfield⟩ := List.exists_of_findSome?_eq_some hnearest
  rw [List.findRev?_eq_find?_reverse] at hfield
  exact ⟨id, hid, List.mem_reverse.mp (List.mem_of_find?_eq_some hfield)⟩

theorem mem_declaredNames_of_nearest? {ids : List String} {name : String} {field : Field}
    (hnearest : hierarchy.nearest? ids name = some field) :
    name ∈ hierarchy.declaredNames ids := by
  obtain ⟨id, hid, hfield⟩ := mem_own_of_nearest? hnearest
  rw [declaredNames, List.mem_dedup, List.mem_map]
  exact ⟨field, List.mem_flatMap.mpr ⟨id, hid, hfield⟩, name_of_nearest? hnearest⟩

theorem mem_effectiveFields {ids : List String} {field : Field} :
    field ∈ hierarchy.effectiveFields ids ↔ hierarchy.nearest? ids field.name = some field := by
  rw [effectiveFields, List.mem_mergeSort, List.mem_filterMap]
  constructor
  · rintro ⟨name, -, hnearest⟩
    rwa [name_of_nearest? hnearest]
  · intro hnearest
    exact ⟨field.name, mem_declaredNames_of_nearest? hnearest, hnearest⟩

theorem nodup_names_effectiveFields (ids : List String) :
    ((hierarchy.effectiveFields ids).map (·.name)).Nodup := by
  have hsame : (((hierarchy.declaredNames ids).filterMap (hierarchy.nearest? ids)).map (·.name)) =
      (hierarchy.declaredNames ids).filter fun name => (hierarchy.nearest? ids name).isSome := by
    induction hierarchy.declaredNames ids with
    | nil => rfl
    | cons name rest ih =>
      cases hnearest : hierarchy.nearest? ids name with
      | none => simp [hnearest, ih]
      | some field => simp [hnearest, ih, name_of_nearest? hnearest]
  apply ((List.mergeSort_perm _ _).map _).nodup_iff.mpr
  rw [hsame]
  exact (List.nodup_dedup _).filter _

theorem pairwise_effectiveFields (ids : List String) :
    (hierarchy.effectiveFields ids).Pairwise fun a b => a.showsBefore b = true :=
  List.pairwise_mergeSort Field.showsBefore_trans Field.showsBefore_total _

theorem mem_names_effectiveFields {ids : List String} {name : String} :
    name ∈ (hierarchy.effectiveFields ids).map (·.name) ↔
      ∃ id ∈ ids, ∃ field ∈ hierarchy.own id, field.name = name := by
  constructor
  · intro hname
    obtain ⟨field, hfield, rfl⟩ := List.mem_map.mp hname
    obtain ⟨id, hid, hown⟩ := mem_own_of_nearest? (mem_effectiveFields.mp hfield)
    exact ⟨id, hid, field, hown, rfl⟩
  · rintro ⟨id, hid, field, hfield, rfl⟩
    cases hnearest : hierarchy.nearest? ids field.name with
    | some nearest =>
      refine List.mem_map.mpr ⟨nearest, mem_effectiveFields.mpr ?_, name_of_nearest? hnearest⟩
      rw [name_of_nearest? hnearest, hnearest]
    | none =>
      have hnone := List.findSome?_eq_none_iff.mp hnearest id hid
      rw [List.findRev?_eq_find?_reverse, List.find?_eq_none] at hnone
      exact absurd (beq_self_eq_true field.name) (hnone field (List.mem_reverse.mpr hfield))

/-- A field comes before another one by its position, or by its name at the same position. -/
theorem strictlyBefore_effectiveFields (ids : List String) :
    (hierarchy.effectiveFields ids).Pairwise fun first second =>
      first.order < second.order ∨ first.order = second.order ∧ first.name < second.name := by
  have hnames : (hierarchy.effectiveFields ids).Pairwise fun first second =>
      first.name ≠ second.name := List.pairwise_map.mp (nodup_names_effectiveFields ids)
  refine ((pairwise_effectiveFields ids).and hnames).imp fun {first second} hboth => ?_
  rcases (Field.showsBefore_iff first second).mp hboth.1 with hlt | ⟨horder, hname⟩
  · exact Or.inl hlt
  · exact Or.inr ⟨horder, lt_of_le_of_ne hname hboth.2⟩

/-- Fields that are the nearest declarations of their names, in the order they are shown, are the
effective ones. -/
theorem eq_effectiveFields {ids : List String} {fields : List Field}
    (hmem : ∀ field, field ∈ fields ↔ hierarchy.nearest? ids field.name = some field)
    (hnodup : fields.Nodup) (hsorted : fields.Pairwise fun a b => a.showsBefore b = true) :
    fields = hierarchy.effectiveFields ids := by
  have hperm : fields.Perm (hierarchy.effectiveFields ids) := by
    refine (List.perm_ext_iff_of_nodup hnodup ?_).mpr fun field => ?_
    · exact List.Nodup.of_map _ (nodup_names_effectiveFields ids)
    · rw [hmem, mem_effectiveFields]
  refine hperm.eq_of_pairwise (fun a b ha hb hab hba => ?_) hsorted (pairwise_effectiveFields ids)
  have hname : a.name = b.name := Field.name_eq_of_showsBefore hab hba
  have hnearest := (hmem a).mp ha
  rw [hname, mem_effectiveFields.mp hb] at hnearest
  exact (Option.some.inj hnearest).symm

end Hierarchy

/-! ### Fields laid over fields -/

def SortedByName (fields : List Field) : Prop :=
  fields.Pairwise fun first second => first.name < second.name

theorem SortedByName.nodup {fields : List Field} (hsorted : SortedByName fields) :
    (fields.map (·.name)).Nodup := by
  refine List.pairwise_map.mpr (hsorted.imp fun hlt heq => ?_)
  exact String.lt_irrefl _ (heq ▸ hlt)

theorem SortedByName.mem_iff_find? {fields : List Field} (hsorted : SortedByName fields)
    {field : Field} :
    field ∈ fields ↔ fields.find? (·.name == field.name) = some field := by
  constructor
  · intro hmem
    cases hfind : fields.find? (·.name == field.name) with
    | none => exact absurd (List.find?_eq_none.mp hfind field hmem) (by simp)
    | some other =>
      have hname : other.name = field.name := by simpa using List.find?_some hfind
      have hother : other ∈ fields := List.mem_of_find?_eq_some hfind
      rw [List.inj_on_of_nodup_map hsorted.nodup hother hmem hname]
  · exact List.mem_of_find?_eq_some

theorem eq_or_mem_of_mem_insertField {field other : Field} {fields : List Field}
    (hmem : other ∈ insertField field fields) : other = field ∨ other ∈ fields := by
  induction fields with
  | nil => exact Or.inl (by simpa [insertField] using hmem)
  | cons head rest ih =>
    simp only [insertField] at hmem
    split_ifs at hmem with hlt heq
    · simpa using hmem
    · rcases List.mem_cons.mp hmem with hmem | hmem
      · exact Or.inl hmem
      · exact Or.inr (List.mem_cons_of_mem _ hmem)
    · rcases List.mem_cons.mp hmem with hmem | hmem
      · exact Or.inr (by simp [hmem])
      · exact (ih hmem).imp_right (List.mem_cons_of_mem _)

theorem SortedByName.insertField {fields : List Field} (hsorted : SortedByName fields)
    (field : Field) : SortedByName (insertField field fields) := by
  induction fields with
  | nil => simp [SortedByName, KnowledgeSchema.insertField]
  | cons head rest ih =>
    obtain ⟨hhead, hrest⟩ := List.pairwise_cons.mp hsorted
    simp only [KnowledgeSchema.insertField]
    split_ifs with hlt heq
    · refine List.pairwise_cons.mpr ⟨fun other hother => ?_, hsorted⟩
      rcases List.mem_cons.mp hother with rfl | hother
      · exact hlt
      · exact String.lt_trans hlt (hhead other hother)
    · exact List.pairwise_cons.mpr ⟨fun other hother => heq ▸ hhead other hother, hrest⟩
    · refine List.pairwise_cons.mpr ⟨fun other hother => ?_, ih hrest⟩
      rcases eq_or_mem_of_mem_insertField hother with rfl | hother
      · exact lt_of_le_of_ne (not_lt.mp hlt) (Ne.symm heq)
      · exact hhead other hother

theorem find?_insertField (field : Field) (fields : List Field) (name : String) :
    (insertField field fields).find? (·.name == name) =
      if field.name = name then some field else fields.find? (·.name == name) := by
  induction fields with
  | nil => by_cases hname : field.name = name <;> simp [insertField, hname]
  | cons head rest ih =>
    simp only [insertField]
    by_cases hname : field.name = name
    · split_ifs with hlt heq
      · simp [hname]
      · simp [hname]
      · have hhead : head.name ≠ name := fun h => heq (hname.trans h.symm)
        simp [hhead, ih, hname]
    · split_ifs with hlt heq
      · simp [hname]
      · have hhead : head.name ≠ name := fun h => hname (heq.trans h)
        simp [hname, hhead]
      · simp [List.find?_cons, ih, hname]

theorem SortedByName.overlay {merged : List Field} (hsorted : SortedByName merged)
    (own : List Field) : SortedByName (overlay own merged) := by
  induction own generalizing merged with
  | nil => exact hsorted
  | cons field rest ih => exact ih (hsorted.insertField field)

/-- Of the fields laid over others the last one with a name counts. -/
theorem find?_overlay (own merged : List Field) (name : String) :
    (overlay own merged).find? (·.name == name) =
      (own.findRev? (·.name == name)).or (merged.find? (·.name == name)) := by
  induction own generalizing merged with
  | nil => rfl
  | cons field rest ih =>
    change (overlay rest (insertField field merged)).find? _ = _
    rw [ih, find?_insertField, List.findRev?]
    cases hlater : rest.findRev? (·.name == name) with
    | some later => rfl
    | none => by_cases hname : field.name = name <;> simp [hname]

namespace Hierarchy

variable {hierarchy : Hierarchy}

/-- The fields of a chain of types, laid over one another from the farthest to the nearest. -/
def mergedOf (hierarchy : Hierarchy) (ids : List String) : List Field :=
  ids.foldr (fun id merged => overlay (hierarchy.own id) merged) []

theorem sortedByName_mergedOf (ids : List String) : SortedByName (hierarchy.mergedOf ids) := by
  induction ids with
  | nil => exact List.Pairwise.nil
  | cons id rest ih => exact ih.overlay _

theorem find?_mergedOf (ids : List String) (name : String) :
    (hierarchy.mergedOf ids).find? (·.name == name) = hierarchy.nearest? ids name := by
  induction ids with
  | nil => rfl
  | cons id rest ih =>
    change (overlay (hierarchy.own id) (hierarchy.mergedOf rest)).find? _ = _
    rw [find?_overlay, ih, nearest?, nearest?, List.findSome?_cons]
    cases (hierarchy.own id).findRev? (·.name == name) <;> rfl

theorem mergeSort_mergedOf (ids : List String) :
    (hierarchy.mergedOf ids).mergeSort Field.showsBefore = hierarchy.effectiveFields ids := by
  have hsorted : SortedByName (hierarchy.mergedOf ids) := sortedByName_mergedOf ids
  refine eq_effectiveFields (fun field => ?_) ?_ ?_
  · rw [List.mem_mergeSort, hsorted.mem_iff_find?, find?_mergedOf]
  · exact (List.mergeSort_perm _ _).nodup_iff.mpr (List.Nodup.of_map _ hsorted.nodup)
  · exact List.pairwise_mergeSort Field.showsBefore_trans Field.showsBefore_total _

end Hierarchy

end KnowledgeSchema
