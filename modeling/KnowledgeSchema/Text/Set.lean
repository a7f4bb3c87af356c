/-!
# Sets of texts

Texts in the order of their characters' code points, each of them once.
-/

namespace KnowledgeSchema

structure TextSet where
  texts : List String
  sorted : texts.Pairwise (· < ·)
deriving DecidableEq

namespace TextSet

def empty : TextSet :=
  ⟨[], .nil⟩

def insertText (text : String) : List String → List String
  | [] => [text]
  | other :: rest =>
    if text < other then text :: other :: rest
    else if text = other then other :: rest
    else other :: insertText text rest

theorem mem_insertText {text other : String} {texts : List String} :
    other ∈ insertText text texts ↔ other = text ∨ other ∈ texts := by
  induction texts with
  | nil => simp [insertText]
  | cons head rest ih =>
    by_cases below : text < head
    · simp [insertText, below]
    · by_cases equal : text = head
      · subst equal
        simp [insertText]
      · simp [insertText, below, equal, ih, or_left_comm]

theorem pairwise_insertText (text : String) {texts : List String}
    (sorted : texts.Pairwise (· < ·)) : (insertText text texts).Pairwise (· < ·) := by
  induction texts with
  | nil => simp [insertText]
  | cons head rest ih =>
    obtain ⟨above, restSorted⟩ := List.pairwise_cons.mp sorted
    by_cases below : text < head
    · rw [insertText, if_pos below]
      refine List.pairwise_cons.mpr ⟨fun other member => ?_, sorted⟩
      rcases List.mem_cons.mp member with rfl | member
      · exact below
      · exact String.lt_trans below (above other member)
    · by_cases equal : text = head
      · subst equal
        simpa [insertText] using sorted
      · simp only [insertText, below, equal, ↓reduceIte, List.pairwise_cons]
        refine ⟨fun other member => ?_, ih restSorted⟩
        rcases mem_insertText.mp member with rfl | member
        · exact Std.lt_of_le_of_ne (String.not_lt.mp below) (Ne.symm equal)
        · exact above other member

def insert (set : TextSet) (text : String) : TextSet :=
  ⟨insertText text set.texts, pairwise_insertText text set.sorted⟩

def insertAll (set : TextSet) (texts : List String) : TextSet :=
  texts.foldl insert set

def ofList (texts : List String) : TextSet :=
  empty.insertAll texts

def isEmpty (set : TextSet) : Bool :=
  set.texts.isEmpty

end TextSet

end KnowledgeSchema
