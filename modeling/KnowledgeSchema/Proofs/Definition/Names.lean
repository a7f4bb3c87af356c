import KnowledgeSchema.Definition.DataType
import KnowledgeSchema.Definition.Kind
import KnowledgeSchema.Proofs.Text.Casing

/-!
# Kinds and data types in their own spelling

A kind or a data type that was read from a text is read again from its own name.
-/

namespace KnowledgeSchema

namespace EntityKind

/-- A kind that its own text names. -/
def IsNormal (kind : EntityKind) : Prop :=
  parse kind.text = kind

theorem isNormal_ofTag {tag : String} (htrimmed : Text.IsTrimmed tag.toList)
    (hupper : Text.upper tag.toList = tag.toList) : (ofTag tag).IsNormal := by
  have hparse : parse tag = ofTag tag := by
    rw [parse, htrimmed.trim, hupper, String.ofList_toList]
  rw [IsNormal]
  unfold ofTag at hparse ⊢
  split
  case h_8 =>
    simp only at hparse
    exact hparse
  all_goals decide +kernel

theorem isNormal_parse (text : String) : (parse text).IsNormal := by
  refine isNormal_ofTag ?_ ?_
  · rw [String.toList_ofList]
    exact Text.isTrimmed_upper (Text.isTrimmed_trim _)
  · rw [String.toList_ofList, Text.upper_upper]

end EntityKind

namespace DataType

/-- A data type that its own name names. -/
def IsNormal (dataType : DataType) : Prop :=
  parse dataType.name = dataType

theorem isNormal_ofName {name : String} (htrimmed : Text.IsTrimmed name.toList)
    (hlower : Text.lower name.toList = name.toList) : (ofName name).IsNormal := by
  have hparse : parse name = ofName name := by
    rw [parse, htrimmed.trim, hlower, String.ofList_toList]
  rw [IsNormal]
  unfold ofName at hparse ⊢
  split
  case h_22 =>
    simp only at hparse
    exact hparse
  all_goals decide +kernel

theorem isNormal_parse (text : String) : (parse text).IsNormal := by
  refine isNormal_ofName ?_ ?_
  · rw [String.toList_ofList]
    exact Text.isTrimmed_lower (Text.isTrimmed_trim _)
  · rw [String.toList_ofList, Text.lower_lower]

end DataType

end KnowledgeSchema
