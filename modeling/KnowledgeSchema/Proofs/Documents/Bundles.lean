import KnowledgeSchema.Bundle.Basic
import KnowledgeSchema.Proofs.Documents.Definitions

/-!
# Documents of bundles

Whatever is read as a bundle is reread from the document that is written for it, where nothing is left
out any more.
-/

namespace KnowledgeSchema

open Json

variable {depth : Nat}

namespace Codec

theorem isStable_optional_signed : signed.optional.IsStable depth :=
  isStable_signed.optional nofun

/-- A list that stands empty for one that is left out. -/
theorem rereads_nil {α : Type} {codec : Codec α} : (list codec).Rereads (depth + 1) [] :=
  Rereads.list nofun

end Codec

theorem Json.fits_emptyObject : emptyObject.Fits (depth + 1) :=
  ⟨.nil, nofun⟩

theorem BundledField.isExact : fields.IsExact mk := ⟨by decide, fun _ => rfl, fun _ => rfl⟩

theorem BundledField.isStable : codec.IsStable (depth + 1) :=
  Codec.isStable_record isExact
    ⟨Codec.isStable_text, Codec.isStable_optional_text, Codec.rereads_none, DataType.isStable,
      Codec.isStable_flag, Codec.rereads_flag _, Codec.isStable_optional_signed,
      Codec.rereads_none, Codec.isStable_optional_text, Codec.rereads_none,
      Codec.isStable_optional_free, Codec.rereads_none, trivial⟩ _ _

theorem BundledType.isExact : fields.IsExact mk := ⟨by decide, fun _ => rfl, fun _ => rfl⟩

theorem BundledType.isStable : codec.IsStable (depth + 3) :=
  Codec.isStable_record isExact
    ⟨EntityKind.isStable, Codec.isStable_optional_text, Codec.rereads_none,
      Codec.isStable_optional_text, Codec.rereads_none, EntityKind.isStable.optional nofun,
      Codec.rereads_none, Codec.isStable_flag, Codec.rereads_flag _, BundledField.isStable.list,
      Codec.rereads_nil, trivial⟩ _ _

theorem BundledAttribute.isExact : fields.IsExact mk := ⟨by decide, fun _ => rfl, fun _ => rfl⟩

theorem BundledAttribute.isStable : codec.IsStable (depth + 1) :=
  Codec.isStable_record isExact
    ⟨Codec.isStable_text, DataType.isStable, Codec.isStable_flag, Codec.rereads_flag _, trivial⟩ _ _

theorem BundledRelationship.isExact : fields.IsExact mk := ⟨by decide, fun _ => rfl, fun _ => rfl⟩

theorem BundledRelationship.isStable : codec.IsStable (depth + 3) :=
  Codec.isStable_record isExact
    ⟨Codec.isStable_text, Codec.isStable_optional_text, Codec.rereads_none, EntityKind.isStable,
      EntityKind.isStable, Direction.isStable, Codec.rereads_named Direction.directed.pick_name,
      Cardinality.isStable, Codec.rereads_named Cardinality.manyToMany.pick_name,
      Codec.isStable_optional_text, Codec.rereads_none, BundledAttribute.isStable.list,
      Codec.rereads_nil, trivial⟩ _ _

theorem BundledView.isExact : fields.IsExact mk := ⟨by decide, fun _ => rfl, fun _ => rfl⟩

theorem BundledView.isStable : codec.IsStable (depth + 2) :=
  Codec.isStable_record isExact
    ⟨Codec.isStable_text, EntityKind.isStable.optional nofun, Codec.rereads_none,
      Codec.isStable_free, Codec.rereads_free fits_emptyObject, trivial⟩ _ _

theorem BundledMap.isExact : fields.IsExact mk := ⟨by decide, fun _ => rfl, fun _ => rfl⟩

theorem BundledMap.isStable : codec.IsStable (depth + 2) :=
  Codec.isStable_record isExact
    ⟨Codec.isStable_text, EntityKind.isStable.list, Codec.rereads_nil, Codec.isStable_free,
      Codec.rereads_free fits_emptyObject, trivial⟩ _ _

theorem BundledMapping.isExact : fields.IsExact mk := ⟨by decide, fun _ => rfl, fun _ => rfl⟩

theorem BundledMapping.isStable : codec.IsStable (depth + 1) :=
  Codec.isStable_record isExact
    ⟨Codec.isStable_text, EntityKind.isStable, Codec.isStable_signed, Codec.rereads_signed _,
      trivial⟩ _ _

theorem BundledTerm.isExact : fields.IsExact mk := ⟨by decide, fun _ => rfl, fun _ => rfl⟩

theorem BundledTerm.isStable : codec.IsStable (depth + 1) :=
  Codec.isStable_record isExact
    ⟨Codec.isStable_text, Codec.isStable_flag, Codec.rereads_flag _, trivial⟩ _ _

theorem BundledProfile.isExact : fields.IsExact mk := ⟨by decide, fun _ => rfl, fun _ => rfl⟩

theorem BundledProfile.isStable : codec.IsStable (depth + 3) :=
  Codec.isStable_record isExact
    ⟨Codec.isStable_text, Codec.isStable_flag, Codec.rereads_flag _, Codec.isStable_double,
      Codec.rereads_double _, BundledMapping.isStable.list, Codec.rereads_nil,
      BundledTerm.isStable.list, Codec.rereads_nil, trivial⟩ _ _

theorem Bundle.isExact : fields.IsExact mk := ⟨by decide, fun _ => rfl, fun _ => rfl⟩

theorem Bundle.isStable : codec.IsStable (depth + 5) :=
  Codec.isStable_record isExact
    ⟨BundledType.isStable.list, Codec.rereads_nil, BundledRelationship.isStable.list,
      Codec.rereads_nil, BundledView.isStable.list, Codec.rereads_nil, BundledMap.isStable.list,
      Codec.rereads_nil, BundledProfile.isStable.optional nofun, Codec.rereads_none, trivial⟩ _ _

end KnowledgeSchema
