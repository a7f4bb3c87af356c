import KnowledgeSchema.Proofs.Compiling.Arrangement

/-!
# Lists up to ties

Rows are ordered by a key and, where it is the same, by their ids. Under other ids they stand in an
order with the same keys, in which only rows with one key may have changed places.
-/

namespace KnowledgeSchema

/-- Two lists agree item by item, but for the order of items with one key. -/
structure UpToTies {α κ : Type} (agree : α → α → Prop) (key : α → κ) (first second : List α) :
    Prop where
  keys : second.map key = first.map key
  items : ∃ placed : List α, placed.Perm second ∧ List.Forall₂ agree first placed

namespace UpToTies

variable {α β κ : Type} {agree : α → α → Prop} {key : α → κ} {first second : List α}

theorem forall₂_map {agree' : β → β → Prop} {f g : α → β} (hall : List.Forall₂ agree first second)
    (hagree : ∀ item ∈ first, ∀ other ∈ second, agree item other → agree' (f item) (g other)) :
    List.Forall₂ agree' (first.map f) (second.map g) := by
  induction hall with
  | nil => exact .nil
  | cons hitem _ ih =>
    refine .cons (hagree _ List.mem_cons_self _ List.mem_cons_self hitem) (ih ?_)
    exact fun item hmem other hother =>
      hagree item (List.mem_cons_of_mem _ hmem) other (List.mem_cons_of_mem _ hother)

theorem map {agree' : β → β → Prop} {key' : β → κ} {f g : α → β}
    (htied : UpToTies agree key first second) (hfirst : ∀ item, key' (f item) = key item)
    (hsecond : ∀ item, key' (g item) = key item)
    (hagree : ∀ item ∈ first, ∀ other ∈ second, agree item other → agree' (f item) (g other)) :
    UpToTies agree' key' (first.map f) (second.map g) := by
  obtain ⟨hkeys, placed, hperm, hall⟩ := htied
  refine ⟨?_, placed.map g, hperm.map g, forall₂_map hall fun item hmem other hother =>
    hagree item hmem other (hperm.mem_iff.mp hother)⟩
  rw [List.map_map, List.map_map]
  calc
    second.map (key' ∘ g) = second.map key := List.map_congr_left fun item _ => hsecond item
    _ = first.map key := hkeys
    _ = first.map (key' ∘ f) := List.map_congr_left fun item _ => (hfirst item).symm

theorem perm {rename : α → α} (htied : UpToTies (fun item other => other = rename item) key first
    second) : second.Perm (first.map rename) := by
  obtain ⟨-, placed, hperm, hall⟩ := htied
  have hplaced : placed = first.map rename := by
    clear hperm
    induction hall with
    | nil => rfl
    | cons hitem _ ih => rw [List.map_cons, ← hitem, ih]
  exact hplaced ▸ hperm.symm

/-- What new ids do not change is there as often as it was. -/
theorem perm_map {rename : α → α} {g : α → β}
    (htied : UpToTies (fun item other => other = rename item) key first second)
    (hkept : ∀ item, g (rename item) = g item) : (second.map g).Perm (first.map g) := by
  have hperm := htied.perm.map g
  rw [List.map_map] at hperm
  exact hperm.trans (List.Perm.of_eq (List.map_congr_left fun item _ => hkept item))

end UpToTies

namespace Store

open Std

variable {α κ : Type} {order : α → α → Ordering} {key : α → κ} {keyOrder : κ → κ → Ordering}

/-- The keys in an order do not depend on how its items stood before, nor on their ids. -/
theorem keys_ordered [TransCmp order] [TransCmp keyOrder] [LawfulEqCmp keyOrder]
    (hkey : ∀ first second, (order first second).isLE = true →
      (keyOrder (key first) (key second)).isLE = true) {first second : List α}
    (hperm : (second.map key).Perm (first.map key)) :
    (ordered order second).map key = (ordered order first).map key := by
  have hsorted : ∀ items : List α, ((ordered order items).map key).Pairwise
      fun first second => (keyOrder first second).isLE = true := fun items =>
    List.pairwise_map.mpr ((pairwise_ordered items).imp fun {first second} => hkey first second)
  have hordered : ((ordered order second).map key).Perm ((ordered order first).map key) :=
    (((ordered_perm order second).map key).trans hperm).trans ((ordered_perm order first).map key).symm
  refine hordered.eq_of_pairwise (fun _ _ _ _ hle hge => ?_) (hsorted second) (hsorted first)
  exact LawfulEqCmp.eq_of_compare (OrientedCmp.isLE_antisymm hle hge)

/-- Items that keep their keys stay in their order up to ties. -/
theorem upToTies_ordered [TransCmp order] [TransCmp keyOrder] [LawfulEqCmp keyOrder]
    (hkey : ∀ first second, (order first second).isLE = true →
      (keyOrder (key first) (key second)).isLE = true) {rename : α → α}
    (hrename : ∀ item, key (rename item) = key item) (items : List α) :
    UpToTies (fun item other => other = rename item) key (ordered order items)
      (ordered order (items.map rename)) where
  keys := by
    refine keys_ordered hkey ?_
    rw [List.map_map]
    exact (List.map_congr_left fun item _ => hrename item) ▸ .refl _
  items := by
    refine ⟨(ordered order items).map rename, ?_, ?_⟩
    · exact ((ordered_perm order items).map rename).trans (ordered_perm order _).symm
    · rw [List.forall₂_map_right_iff, List.forall₂_same]
      exact fun _ _ => rfl

theorem upToTies_byKey [Ord κ] [TransOrd κ] [LawfulEqOrd κ] {id : α → String} {rename : α → α}
    (hrename : ∀ item, key (rename item) = key item) (items : List α) :
    UpToTies (fun item other => other = rename item) key (ordered (byKey key id) items)
      (ordered (byKey key id) (items.map rename)) :=
  @upToTies_ordered _ _ (byKey key id) key compare _ _ _
    (fun _ _ hle => Ordering.isLE_left_of_isLE_then hle) rename hrename items

/-- As by one key, when there are two of them. -/
theorem upToTies_byKeys {κ' : Type} [Ord κ] [TransOrd κ] [LawfulEqOrd κ] [Ord κ'] [TransOrd κ']
    [LawfulEqOrd κ'] {key' : α → κ'} {id : α → String} {rename : α → α}
    (hkey : ∀ item, key (rename item) = key item) (hkey' : ∀ item, key' (rename item) = key' item)
    (items : List α) :
    UpToTies (fun item other => other = rename item) (fun item => (key item, key' item))
      (ordered (compareLex (compareOn key) (byKey key' id)) items)
      (ordered (compareLex (compareOn key) (byKey key' id)) (items.map rename)) := by
  let keyOrder : κ × κ' → κ × κ' → Ordering := compareLex (compareOn Prod.fst) (compareOn Prod.snd)
  have hlawful : LawfulEqCmp keyOrder := by
    refine ⟨fun {first second} hsame => ?_⟩
    obtain ⟨hfst, hsnd⟩ := compareLex_eq_eq.mp hsame
    exact Prod.ext (LawfulEqCmp.eq_of_compare hfst) (LawfulEqCmp.eq_of_compare hsnd)
  refine @upToTies_ordered _ _ _ _ keyOrder _ _ hlawful (fun first second hle => ?_) rename
    (fun item => by rw [hkey, hkey']) items
  rw [compareLex, byKey, compareLex, ← Ordering.then_assoc] at hle
  exact Ordering.isLE_left_of_isLE_then hle

end Store

end KnowledgeSchema
