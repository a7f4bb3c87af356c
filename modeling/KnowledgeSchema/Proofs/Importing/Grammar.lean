import KnowledgeSchema.Bundle.Basic
import KnowledgeSchema.Proofs.Definition.Names
import KnowledgeSchema.Proofs.Json.Sources

/-!
# Bundles that are read from texts

Kinds and data types of a bundle that is read from a text are in their own spelling, wherever they
stand in it.

What a codec reads from a text, at whatever place, or has for a value that is left out. A record has
a property when all that is made of such values of its fields has it.
-/

namespace KnowledgeSchema

open Json

/-! ### What codecs give -/

namespace Codec

variable {α β : Type} {codec : Codec α} {holds : α → Prop}

/-- Whether a codec can give a value, for a text or for nothing. -/
def MayGive (codec : Codec α) (value : α) : Prop :=
  (∃ depth input rest, codec.read depth input = .ok (value, rest)) ∨ codec.absent = some value

/-- Whether all that a codec can give has a property. -/
def Gives (codec : Codec α) (holds : α → Prop) : Prop :=
  ∀ value, codec.MayGive value → holds value

theorem mayGive_iff {value : α} : codec.MayGive value ↔ ∃ depth, codec.MayGiveAt depth value := by
  constructor
  · rintro (⟨depth, input, rest, hread⟩ | habsent)
    · exact ⟨depth, Or.inl ⟨input, rest, hread⟩⟩
    · exact ⟨0, Or.inr habsent⟩
  · rintro ⟨depth, ⟨input, rest, hread⟩ | habsent⟩
    · exact Or.inl ⟨depth, input, rest, hread⟩
    · exact Or.inr habsent

theorem MayGiveAt.mayGive {depth : Nat} {value : α} (hgives : codec.MayGiveAt depth value) :
    codec.MayGive value :=
  mayGive_iff.mpr ⟨depth, hgives⟩

theorem mayGive_of_parse {text : String} {value : α} (hparse : codec.parse text = .ok value) :
    codec.MayGive value :=
  (mayGiveAt_of_parse hparse).mayGive

theorem Gives.map {holds' : β → Prop} (hgives : codec.Gives holds) {of : α → β} (back : β → α)
    (himplies : ∀ value, holds value → holds' (of value)) : (codec.map of back).Gives holds' := by
  intro value hvalue
  obtain ⟨depth, hvalue⟩ := mayGive_iff.mp hvalue
  obtain ⟨original, horiginal, rfl⟩ := mayGiveAt_of_map hvalue
  exact himplies original (hgives original horiginal.mayGive)

theorem Gives.optional (hgives : codec.Gives holds) :
    codec.optional.Gives fun value => ∀ item ∈ value, holds item := by
  intro value hvalue item hitem
  obtain rfl := Option.mem_def.mp hitem
  obtain ⟨depth, hvalue⟩ := mayGive_iff.mp hvalue
  obtain ⟨input, rest, -, hread⟩ := optional_eq_some hvalue
  exact hgives item (Or.inl ⟨depth, input, rest, hread⟩)

theorem Gives.list (hgives : codec.Gives holds) :
    (list codec).Gives fun items => ∀ item ∈ items, holds item := by
  intro items hitems item hitem
  obtain ⟨depth, hitems⟩ := mayGive_iff.mp hitems
  obtain ⟨below, -, hall⟩ := mayGiveAt_of_list hitems
  exact hgives item (hall item hitem).mayGive

end Codec

/-! ### Records -/

namespace Fields

open Codec

variable {ρ σ τ : Type} {holds : σ → Prop}

/-- Whether all that is made of values of the fields has a property. -/
def Makes (holds : σ → Prop) {τ : Type} : Fields ρ σ τ → τ → Prop
  | .done, result => holds result
  | .field _ codec _ fallback rest, make =>
    ∀ value, codec.MayGive value ∨ fallback = some value → rest.Makes holds (make value)

theorem Makes.build {fields : Fields ρ σ τ} {make : τ} {values : fields.Values}
    (hmakes : fields.Makes holds make) (hfrom : fields.From MayGive values) :
    holds (fields.build make values) := by
  induction fields with
  | done => exact hmakes
  | field name codec get fallback rest ih => exact ih (hmakes values.1 hfrom.1) hfrom.2

/-- A record has what everything made of values of its fields has. -/
theorem Makes.gives {fields : Fields σ σ τ} {make : τ} (hmakes : fields.Makes holds make)
    (name : String) (closed : Bool) : (Codec.record name closed fields make).Gives holds := by
  rintro value (⟨depth, input, rest, hread⟩ | habsent)
  · obtain ⟨below, values, -, rfl, hfrom⟩ := from_read_record hread
    exact hmakes.build (hfrom.mono fun codec value hgives => hgives.mayGive)
  · cases habsent

end Fields

/-! ### Bundles -/

namespace Codec

variable {α : Type} {codec : Codec α} {holds : α → Prop} {value : α} {fallback : Option α}

/-- A value of a field is one that its codec gives or the one that stands for a field left out. -/
theorem Gives.of_field (hgives : codec.Gives holds)
    (hvalue : codec.MayGive value ∨ fallback = some value)
    (hfallback : ∀ other ∈ fallback, holds other) : holds value :=
  hvalue.elim (hgives value) (hfallback value)

theorem gives_any (codec : Codec α) : codec.Gives fun _ => True :=
  fun _ _ => trivial

end Codec

theorem EntityKind.gives : EntityKind.codec.Gives IsNormal :=
  (Codec.gives_any _).map _ fun text _ => isNormal_parse text

theorem DataType.gives : DataType.codec.Gives IsNormal :=
  (Codec.gives_any _).map _ fun text _ => isNormal_parse text

/-- A field that is never left out. -/
theorem not_mem_none {α : Type} {holds : α → Prop} : ∀ other ∈ (none : Option α), holds other :=
  fun _ hother => nomatch hother

/-! ### Definitions of a bundle -/

structure BundledType.IsNormal (type : BundledType) : Prop where
  kind : type.kind.IsNormal
  dataTypes : ∀ field ∈ type.members, field.dataType.IsNormal

structure BundledRelationship.IsNormal (relationship : BundledRelationship) : Prop where
  source : relationship.source.IsNormal
  target : relationship.target.IsNormal
  dataTypes : ∀ attr ∈ relationship.attributes, attr.dataType.IsNormal

def BundledView.IsNormal (view : BundledView) : Prop :=
  ∀ kind ∈ view.kind, kind.IsNormal

def BundledMap.IsNormal (map : BundledMap) : Prop :=
  ∀ kind ∈ map.kinds, kind.IsNormal

def BundledProfile.IsNormal (profile : BundledProfile) : Prop :=
  ∀ mapping ∈ profile.mappings, mapping.kind.IsNormal

structure Bundle.IsNormal (bundle : Bundle) : Prop where
  entityTypes : ∀ type ∈ bundle.entityTypes, type.IsNormal
  relationships : ∀ relationship ∈ bundle.relationships, relationship.IsNormal
  views : ∀ view ∈ bundle.views, view.IsNormal
  maps : ∀ map ∈ bundle.maps, map.IsNormal
  profile : ∀ profile ∈ bundle.profile, profile.IsNormal

theorem BundledField.gives : BundledField.codec.Gives fun field => field.dataType.IsNormal := by
  have hmakes : BundledField.fields.Makes (fun field : BundledField => field.dataType.IsNormal)
      BundledField.mk := by
    intro name _ label _ dataType hdataType isRequired _ order _ default _ validation _
    exact DataType.gives.of_field hdataType not_mem_none
  exact hmakes.gives _ _

theorem BundledType.gives : BundledType.codec.Gives IsNormal := by
  have hmakes : BundledType.fields.Makes IsNormal BundledType.mk := by
    intro kind hkind displayName _ description _ parent _ isAbstract _ members hmembers
    exact ⟨EntityKind.gives.of_field hkind not_mem_none,
      BundledField.gives.list.of_field hmembers (by simp)⟩
  exact hmakes.gives _ _

theorem BundledAttribute.gives :
    BundledAttribute.codec.Gives fun attr => attr.dataType.IsNormal := by
  have hmakes : BundledAttribute.fields.Makes
      (fun attr : BundledAttribute => attr.dataType.IsNormal) BundledAttribute.mk := by
    intro name _ dataType hdataType isRequired _
    exact DataType.gives.of_field hdataType not_mem_none
  exact hmakes.gives _ _

theorem BundledRelationship.gives : BundledRelationship.codec.Gives IsNormal := by
  have hmakes : BundledRelationship.fields.Makes IsNormal BundledRelationship.mk := by
    intro name _ label _ source hsource target htarget direction _ cardinality _ reverseLabel _
      attributes hattributes
    exact ⟨EntityKind.gives.of_field hsource not_mem_none,
      EntityKind.gives.of_field htarget not_mem_none,
      BundledAttribute.gives.list.of_field hattributes (by simp)⟩
  exact hmakes.gives _ _

theorem BundledView.gives : BundledView.codec.Gives IsNormal := by
  have hmakes : BundledView.fields.Makes IsNormal BundledView.mk := by
    intro name _ kind hkind config _
    exact EntityKind.gives.optional.of_field hkind (by simp)
  exact hmakes.gives _ _

theorem BundledMap.gives : BundledMap.codec.Gives IsNormal := by
  have hmakes : BundledMap.fields.Makes IsNormal BundledMap.mk := by
    intro name _ kinds hkinds config _
    exact EntityKind.gives.list.of_field hkinds (by simp)
  exact hmakes.gives _ _

theorem BundledMapping.gives : BundledMapping.codec.Gives fun mapping => mapping.kind.IsNormal := by
  have hmakes : BundledMapping.fields.Makes
      (fun mapping : BundledMapping => mapping.kind.IsNormal) BundledMapping.mk := by
    intro label _ kind hkind priority _
    exact EntityKind.gives.of_field hkind not_mem_none
  exact hmakes.gives _ _

theorem BundledProfile.gives : BundledProfile.codec.Gives IsNormal := by
  have hmakes : BundledProfile.fields.Makes IsNormal BundledProfile.mk := by
    intro name _ enabled _ threshold _ mappings hmappings ignored _
    exact BundledMapping.gives.list.of_field hmappings (by simp)
  exact hmakes.gives _ _

namespace Bundle

theorem gives : Bundle.codec.Gives IsNormal := by
  have hmakes : Bundle.fields.Makes IsNormal Bundle.mk := by
    intro entityTypes htypes relationships hrelationships views hviews maps hmaps profile hprofile
    exact ⟨BundledType.gives.list.of_field htypes (by simp),
      BundledRelationship.gives.list.of_field hrelationships (by simp),
      BundledView.gives.list.of_field hviews (by simp),
      BundledMap.gives.list.of_field hmaps (by simp),
      BundledProfile.gives.optional.of_field hprofile (by simp)⟩
  exact hmakes.gives _ _

theorem isNormal_of_parse {text : String} {bundle : Bundle}
    (hparse : Bundle.codec.parse text = .ok bundle) : bundle.IsNormal :=
  gives bundle (Codec.mayGive_of_parse hparse)

end Bundle

end KnowledgeSchema
