import KnowledgeSchema.Proofs.Store.Versions

/-!
# Numbers of versions

The numbers of a blueprint's versions are a sequence from one on when each row has the number of its
place. Whoever works out the next number from an earlier look at the store then either has the
number of the next place or one that is taken.
-/

namespace KnowledgeSchema

namespace Store

/-- The numbers of a blueprint's versions, in the order in which the versions were inserted, count
from one on. -/
def IsNumbered (store : Store) (blueprintId : String) : Prop :=
  (store.versionsOf blueprintId).map (·.number.toInt) =
    (List.range (store.versionsOf blueprintId).length).map fun place : Nat => (place : Int) + 1

variable {store after : Store} {blueprintId : String}

theorem mem_versionsOf {row : VersionRow} :
    row ∈ store.versionsOf blueprintId ↔ row ∈ store.versions ∧ row.blueprintId = blueprintId := by
  simp [versionsOf]

theorem IsNumbered.number_le (hnumbered : store.IsNumbered blueprintId) {row : VersionRow}
    (hrow : row ∈ store.versionsOf blueprintId) :
    row.number.toInt ≤ (store.versionsOf blueprintId).length := by
  have hmem := List.mem_map_of_mem (f := fun row : VersionRow => row.number.toInt) hrow
  rw [hnumbered, List.mem_map] at hmem
  obtain ⟨place, hplace, hnumber⟩ := hmem
  rw [List.mem_range] at hplace
  omega

theorem IsNumbered.exists_row (hnumbered : store.IsNumbered blueprintId) {number : Int64}
    (hpositive : 0 < number.toInt)
    (hle : number.toInt ≤ (store.versionsOf blueprintId).length) :
    ∃ row ∈ store.versionsOf blueprintId, row.number = number := by
  have hmem : number.toInt ∈ (store.versionsOf blueprintId).map (·.number.toInt) := by
    rw [hnumbered, List.mem_map]
    refine ⟨(number.toInt - 1).toNat, List.mem_range.mpr (by omega), by omega⟩
  obtain ⟨row, hrow, hnumber⟩ := List.mem_map.mp hmem
  exact ⟨row, hrow, Int64.toInt_inj.mp hnumber⟩

/-! ### The highest number -/

theorem max_le_iff {a b c : Int64} : max a b ≤ c ↔ a ≤ c ∧ b ≤ c := by
  rw [show max a b = if a ≤ b then b else a from rfl]
  simp only [Int64.le_iff_toInt_le]
  split_ifs <;> omega

instance : Std.LawfulOrderMax Int64 where
  max_le_iff _ _ _ := max_le_iff
  max_eq_or a b := by
    rw [show max a b = if a ≤ b then b else a from rfl]
    split_ifs
    · exact Or.inr rfl
    · exact Or.inl rfl

theorem IsNumbered.maxNumber? (hnumbered : store.IsNumbered blueprintId) :
    (store.versionsOf blueprintId = [] ∧ store.maxNumber? blueprintId = none) ∨
      ∃ number, store.maxNumber? blueprintId = some number ∧
        number.toInt = (store.versionsOf blueprintId).length := by
  rw [Store.maxNumber?]
  cases hmax : ((store.versionsOf blueprintId).map (·.number)).max? with
  | none =>
    rw [List.max?_eq_none_iff, List.map_eq_nil_iff] at hmax
    exact Or.inl ⟨hmax, rfl⟩
  | some number =>
    refine Or.inr ⟨number, rfl, ?_⟩
    obtain ⟨hmem, hmost⟩ := List.max?_eq_some_iff.mp hmax
    obtain ⟨row, hrow, rfl⟩ := List.mem_map.mp hmem
    have hle := hnumbered.number_le hrow
    have hlast : ((store.versionsOf blueprintId).length : Int) ∈
        (store.versionsOf blueprintId).map (·.number.toInt) := by
      have hpositive := List.length_pos_of_mem hrow
      rw [hnumbered, List.mem_map]
      exact ⟨(store.versionsOf blueprintId).length - 1, List.mem_range.mpr (by omega), by omega⟩
    obtain ⟨last, hlastRow, hlast⟩ := List.mem_map.mp hlast
    have hbound := hmost _ (List.mem_map_of_mem hlastRow)
    rw [Int64.le_iff_toInt_le] at hbound
    omega

end Store

/-- A number worked out from a look at a store with so many versions of the blueprint. The sum
wraps around behind the highest number that there is, which makes a number that no store takes. -/
def IsNextAfter (count : Nat) (number : Int64) : Prop :=
  0 < number → number.toInt = count + 1

theorem isNextAfter_one : IsNextAfter 0 1 := fun _ => rfl

/-- The sum that does not wrap around. -/
theorem toInt_add_one_of_pos {number : Int64} (hpositive : 0 < number + 1) :
    (number + 1).toInt = number.toInt + 1 := by
  have hmost := Int64.toInt_lt number
  have hleast := Int64.le_toInt number
  rw [Int64.lt_iff_toInt_lt, Int64.toInt_add] at hpositive
  rw [Int64.toInt_add]
  have hone : (1 : Int64).toInt = 1 := rfl
  have hzero : (0 : Int64).toInt = 0 := rfl
  rw [hone, hzero] at hpositive
  rw [hone]
  rw [Int.bmod_def] at hpositive ⊢
  split_ifs at hpositive ⊢ <;> omega

theorem isNextAfter_add_one {count : Nat} {number : Int64} (hnumber : number.toInt = count) :
    IsNextAfter count (number + 1) := by
  intro hpositive
  rw [toInt_add_one_of_pos hpositive, hnumber]

namespace Store

variable {store after : Store} {blueprintId : String}

/-! ### Insertions -/

theorem versionsOf_inserted {version : Version}
    (hversions : after.versions = store.versions ++ [version.toRow]) :
    after.versionsOf blueprintId =
      if version.blueprintId = blueprintId then store.versionsOf blueprintId ++ [version.toRow]
      else store.versionsOf blueprintId := by
  rw [versionsOf, hversions, List.filter_append]
  split_ifs with hblueprint
  · rw [List.filter_cons_of_pos (by simp [Version.toRow, hblueprint])]
    rfl
  · rw [List.filter_cons_of_neg (by simp [Version.toRow, hblueprint])]
    exact List.append_nil _

/-- A stale number is taken, so a version that is inserted has the number of the next place. -/
theorem IsNumbered.number_eq (hnumbered : store.IsNumbered blueprintId) {version : Version}
    {count : Nat} (hblueprint : version.blueprintId = blueprintId)
    (hnext : IsNextAfter count version.number)
    (hcount : count ≤ (store.versionsOf blueprintId).length) (hpositive : 0 < version.number)
    (htaken : store.isTaken version = false) :
    version.number.toInt = (store.versionsOf blueprintId).length + 1 := by
  have hnumber := hnext hpositive
  by_contra hother
  have hfrom : 0 < version.number.toInt := by omega
  obtain ⟨row, hrow, hsame⟩ := hnumbered.exists_row hfrom (by omega)
  obtain ⟨hmem, hof⟩ := mem_versionsOf.mp hrow
  exact number_ne_of_isTaken htaken hmem (hof.trans hblueprint.symm) hsame

theorem IsNumbered.inserted (hnumbered : store.IsNumbered blueprintId) {version : Version}
    (hversions : after.versions = store.versions ++ [version.toRow])
    (hnumber : version.blueprintId = blueprintId →
      version.number.toInt = (store.versionsOf blueprintId).length + 1) :
    after.IsNumbered blueprintId := by
  rw [IsNumbered, versionsOf_inserted hversions]
  split_ifs with hblueprint
  · rw [List.map_append, hnumbered, List.length_append, List.length_singleton, List.range_succ,
      List.map_append]
    apply congrArg _
    rw [List.map_singleton, List.map_singleton, ← hnumber hblueprint]
    rfl
  · exact hnumbered

theorem versionsOf_congr (hkeys : after.keys = store.keys) (blueprintId : String) :
    (after.versionsOf blueprintId).map (·.number) =
      (store.versionsOf blueprintId).map (·.number) := by
  have hnumbers : ∀ store : Store, (store.versionsOf blueprintId).map (·.number) =
      (store.keys.filter (·.2.1 == blueprintId)).map (·.2.2) := by
    intro store
    rw [keys, List.filter_map, List.map_map]
    rfl
  calc (after.versionsOf blueprintId).map (·.number)
      = (after.keys.filter (·.2.1 == blueprintId)).map (·.2.2) := hnumbers after
    _ = (store.keys.filter (·.2.1 == blueprintId)).map (·.2.2) := by rw [hkeys]
    _ = (store.versionsOf blueprintId).map (·.number) := (hnumbers store).symm

theorem IsNumbered.congr (hnumbered : store.IsNumbered blueprintId)
    (hkeys : after.keys = store.keys) : after.IsNumbered blueprintId := by
  have hnumbers := versionsOf_congr hkeys blueprintId
  have hlength := congrArg List.length hnumbers
  rw [List.length_map, List.length_map] at hlength
  have hints := congrArg (List.map Int64.toInt) hnumbers
  rw [List.map_map, List.map_map] at hints
  rw [IsNumbered, hlength]
  exact hints.trans hnumbered

theorem length_versionsOf (store : Store) (blueprintId : String) :
    (store.versionsOf blueprintId).length =
      (store.keys.filter (·.2.1 == blueprintId)).length := by
  rw [keys, List.filter_map, List.length_map]
  rfl

theorem length_versionsOf_le (hkeys : store.keys <+: after.keys) (blueprintId : String) :
    (store.versionsOf blueprintId).length ≤ (after.versionsOf blueprintId).length :=
  calc (store.versionsOf blueprintId).length
      = (store.keys.filter (·.2.1 == blueprintId)).length := length_versionsOf store blueprintId
    _ ≤ (after.keys.filter (·.2.1 == blueprintId)).length := (hkeys.filter _).length_le
    _ = (after.versionsOf blueprintId).length := (length_versionsOf after blueprintId).symm

end Store

end KnowledgeSchema
