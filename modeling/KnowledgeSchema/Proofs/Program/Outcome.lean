import Mathlib.Control.Basic
import Mathlib.Data.List.Forall2

/-!
# Outcomes

A sequence of steps comes to a value when each of them does, and a list of steps when all of them do.
-/

namespace KnowledgeSchema.Outcome

variable {ε α β γ : Type}

theorem bind_eq_ok {first : Except ε α} {next : α → Except ε β} {result : β} :
    first >>= next = .ok result ↔ ∃ value, first = .ok value ∧ next value = .ok result := by
  cases first with
  | error flaw =>
    constructor
    · intro hresult
      cases hresult
    · rintro ⟨_, hvalue, -⟩
      cases hvalue
  | ok value =>
    constructor
    · intro hresult
      exact ⟨value, rfl, hresult⟩
    · rintro ⟨_, hvalue, hresult⟩
      cases hvalue
      exact hresult

theorem toOption_eq_some {outcome : Except ε α} {value : α} :
    outcome.toOption = some value ↔ outcome = .ok value := by
  cases outcome with
  | error flaw => exact ⟨fun h => (nomatch h), fun h => (nomatch h)⟩
  | ok found =>
    constructor
    · intro h
      cases h
      rfl
    · intro h
      cases h
      rfl

theorem map_eq_ok {f : α → β} {outcome : Except ε α} {result : β} :
    f <$> outcome = .ok result ↔ ∃ value, outcome = .ok value ∧ f value = result := by
  cases outcome with
  | error flaw =>
    constructor
    · intro hresult
      cases hresult
    · rintro ⟨_, hvalue, -⟩
      cases hvalue
  | ok value =>
    constructor
    · intro hresult
      exact ⟨value, rfl, Except.ok.inj hresult⟩
    · rintro ⟨_, hvalue, rfl⟩
      cases hvalue
      rfl

theorem mapM_congr {items : List α} {f g : α → Except ε β} (hitems : ∀ item ∈ items, f item = g item) :
    items.mapM f = items.mapM g := by
  induction items with
  | nil => rfl
  | cons item rest ih =>
    rw [List.mapM_cons, List.mapM_cons, hitems item List.mem_cons_self,
      ih fun other hother => hitems other (List.mem_cons_of_mem _ hother)]

theorem mapM_eq_ok {items : List α} {f : α → Except ε β} {results : List β} :
    items.mapM f = .ok results ↔ List.Forall₂ (fun item result => f item = .ok result) items results := by
  induction items generalizing results with
  | nil =>
    rw [List.mapM_nil, List.forall₂_nil_left_iff]
    exact ⟨fun h => by cases h; rfl, fun h => by rw [h]; rfl⟩
  | cons item rest ih =>
    simp only [List.mapM_cons, bind_eq_ok, List.forall₂_cons_left_iff]
    constructor
    · rintro ⟨first, hfirst, others, hothers, hresults⟩
      cases hresults
      exact ⟨first, others, hfirst, ih.mp hothers, rfl⟩
    · rintro ⟨first, others, hfirst, hothers, rfl⟩
      exact ⟨first, hfirst, others, ih.mpr hothers, rfl⟩

theorem mapM_ok {items : List α} {f : α → Except ε β} {g : α → β}
    (hitems : ∀ item ∈ items, f item = .ok (g item)) : items.mapM f = .ok (items.map g) :=
  mapM_eq_ok.mpr (List.forall₂_map_right_iff.mpr (List.forall₂_same.mpr hitems))

theorem exists_of_mem_mapM {items : List α} {f : α → Except ε β} {results : List β}
    (hmapM : items.mapM f = .ok results) {result : β} (hmem : result ∈ results) :
    ∃ item ∈ items, f item = .ok result := by
  have hall := mapM_eq_ok.mp hmapM
  clear hmapM
  induction hall with
  | nil => cases hmem
  | cons hfirst _ ih =>
    rcases List.mem_cons.mp hmem with rfl | hmem
    · exact ⟨_, List.mem_cons_self, hfirst⟩
    · obtain ⟨item, hitem, hvalue⟩ := ih hmem
      exact ⟨item, List.mem_cons_of_mem _ hitem, hvalue⟩

theorem exists_mem_of_mapM {items : List α} {f : α → Except ε β} {results : List β}
    (hmapM : items.mapM f = .ok results) {item : α} (hmem : item ∈ items) :
    ∃ result ∈ results, f item = .ok result := by
  have hall := mapM_eq_ok.mp hmapM
  clear hmapM
  induction hall with
  | nil => cases hmem
  | cons hfirst _ ih =>
    rcases List.mem_cons.mp hmem with rfl | hmem
    · exact ⟨_, List.mem_cons_self, hfirst⟩
    · obtain ⟨result, hresult, hvalue⟩ := ih hmem
      exact ⟨result, List.mem_cons_of_mem _ hresult, hvalue⟩

end KnowledgeSchema.Outcome
