import KnowledgeSchema.Blueprint.Basic
import KnowledgeSchema.Blueprint.Version
import KnowledgeSchema.Definition.Set
import KnowledgeSchema.Proofs.Definition.Names
import KnowledgeSchema.Proofs.Json.Stable
import KnowledgeSchema.Proofs.Time.Texts

/-!
# Documents of definitions

Blueprints, versions and definitions are reread from their own documents, and whatever is read as one
of them is reread.
-/

namespace KnowledgeSchema

open Json

variable {depth : Nat}

/-! ### Names -/

namespace EntityKind

theorem isNormal_of_mayGiveAt {kind : EntityKind} (hgives : codec.MayGiveAt depth kind) :
    kind.IsNormal := by
  obtain ⟨text, -, rfl⟩ := Codec.mayGiveAt_of_map hgives
  exact isNormal_parse text

theorem isNormal_of_mayTake {kind : EntityKind} (htake : codec.MayTake kind) : kind.IsNormal := by
  obtain ⟨text, -, rfl⟩ := Codec.mayTake_of_map htake
  exact isNormal_parse text

theorem rereads {kind : EntityKind} (hnormal : kind.IsNormal) : codec.Rereads depth kind :=
  (Codec.rereads_text kind.text).map hnormal

theorem restores {kind : EntityKind} (hnormal : kind.IsNormal) : codec.Restores depth kind :=
  (Codec.restores_text kind.text).map hnormal

theorem isStable : codec.IsStable depth := fun _ hgives => rereads (isNormal_of_mayGiveAt hgives)

end EntityKind

namespace DataType

theorem isNormal_of_mayGiveAt {dataType : DataType} (hgives : codec.MayGiveAt depth dataType) :
    dataType.IsNormal := by
  obtain ⟨text, -, rfl⟩ := Codec.mayGiveAt_of_map hgives
  exact isNormal_parse text

theorem rereads {dataType : DataType} (hnormal : dataType.IsNormal) :
    codec.Rereads depth dataType :=
  (Codec.rereads_text dataType.name).map hnormal

theorem isStable : codec.IsStable depth := fun _ hgives => rereads (isNormal_of_mayGiveAt hgives)

end DataType

theorem Status.pick_name (status : Status) : Codec.pick known status.name = .ok status := by
  cases status <;> rfl

theorem Direction.pick_name (direction : Direction) :
    Codec.pick known direction.name = .ok direction := by
  cases direction <;> rfl

theorem Cardinality.pick_name (cardinality : Cardinality) :
    Codec.pick known cardinality.name = .ok cardinality := by
  cases cardinality <;> rfl

theorem Direction.isStable : Direction.codec.IsStable depth :=
  fun direction _ => Codec.rereads_named direction.pick_name

theorem Cardinality.isStable : Cardinality.codec.IsStable depth :=
  fun cardinality _ => Codec.rereads_named cardinality.pick_name

namespace Codec

theorem restores_timestamp (t : Timestamp) : timestamp.Restores depth t := by
  refine restores_scalar trivial ?_
  simp only [timestamp, scalar, Timestamp.ofText?_text]

theorem rereads_timestamp (t : Timestamp) : timestamp.Rereads depth t :=
  rereads_scalar (restores_timestamp t)

theorem rereads_optional_text (text? : Option String) : Codec.text.optional.Rereads depth text? :=
  rereads_optional (fun text _ => rereads_text text) fun _ _ => nofun

theorem restores_optional_text (text? : Option String) : Codec.text.optional.Restores depth text? := by
  cases text? with
  | none => exact restores_none
  | some text => exact (restores_text text).optional nofun

theorem isStable_optional_text : Codec.text.optional.IsStable depth :=
  fun text? _ => rereads_optional_text text?

theorem rereads_optional_timestamp (time? : Option Timestamp) :
    timestamp.optional.Rereads depth time? :=
  rereads_optional (fun time _ => rereads_timestamp time) fun _ _ => nofun

theorem rereads_list_text (texts : List String) : (list Codec.text).Rereads (depth + 1) texts :=
  Rereads.list fun text _ => rereads_text text

theorem isStable_list_text : (list Codec.text).IsStable (depth + 1) :=
  fun texts _ => rereads_list_text texts

end Codec

/-! ### Sets of texts -/

namespace TextSet

theorem insertText_last {text : String} {texts : List String} (hlast : ∀ other ∈ texts, other < text) :
    insertText text texts = texts ++ [text] := by
  induction texts with
  | nil => rfl
  | cons other rest ih =>
    have hother : other < text := hlast other List.mem_cons_self
    have hne : text ≠ other := fun hsame => String.lt_irrefl _ (hsame ▸ hother)
    rw [insertText, if_neg (String.lt_asymm hother), if_neg hne,
      ih fun each heach => hlast each (List.mem_cons_of_mem _ heach), List.cons_append]

/-- Texts in their order make the set that they are the texts of. -/
theorem ofList_texts (set : TextSet) : ofList set.texts = set := by
  have hfold : ∀ (rest : List String) (placed : TextSet),
      (placed.texts ++ rest).Pairwise (· < ·) →
      (rest.foldl insert placed).texts = placed.texts ++ rest := by
    intro rest
    induction rest with
    | nil => exact fun placed _ => (List.append_nil _).symm
    | cons text rest ih =>
      intro placed hsorted
      have hplaced : (placed.insert text).texts = placed.texts ++ [text] :=
        insertText_last fun other hother =>
          (List.pairwise_append.mp hsorted).2.2 other hother text List.mem_cons_self
      rw [List.foldl_cons, ih _ (by rwa [hplaced, List.append_assoc]), hplaced, List.append_assoc,
        List.singleton_append]
  have htexts : (ofList set.texts).texts = set.texts := hfold set.texts empty set.sorted
  rcases set with ⟨texts, hsorted⟩
  rcases hset : ofList texts with ⟨others, hothers⟩
  rw [hset] at htexts
  cases htexts
  rfl

end TextSet

theorem Codec.rereads_textSet (set : TextSet) : textSet.Rereads (depth + 1) set :=
  (rereads_list_text set.texts).map set.ofList_texts

/-! ### Blueprints and versions -/

namespace Blueprint

theorem isExact : fields.IsExact mk := ⟨by decide, fun _ => rfl, fun _ => rfl⟩

theorem rereads (blueprint : Blueprint) : codec.Rereads (depth + 2) blueprint :=
  Codec.rereads_record isExact
    ⟨Codec.rereads_text _, Codec.rereads_text _, Codec.rereads_optional_text _,
      Codec.rereads_textSet _, Codec.rereads_flag _, Codec.rereads_timestamp _,
      Codec.rereads_timestamp _, trivial⟩ _ _

end Blueprint

namespace Version

theorem isExact : fields.IsExact mk := ⟨by decide, fun _ => rfl, fun _ => rfl⟩

theorem rereads (version : Version) : codec.Rereads (depth + 1) version :=
  Codec.rereads_record isExact
    ⟨Codec.rereads_text _, Codec.rereads_text _, Codec.rereads_signed _,
      Codec.rereads_named version.status.pick_name, Codec.rereads_optional_text _,
      Codec.rereads_timestamp _, Codec.rereads_optional_timestamp _, trivial⟩ _ _

end Version

/-! ### Definitions -/

namespace EntityType

theorem isExact : fields.IsExact mk := ⟨by decide, fun _ => rfl, fun _ => rfl⟩

theorem restored {type : EntityType} (hnormal : type.kind.IsNormal) : fields.Restored depth type :=
  ⟨Codec.restores_text _, Codec.restores_text _, EntityKind.restores hnormal, Codec.restores_text _,
    Codec.restores_optional_text _, Codec.restores_optional_text _, Codec.restores_flag _, trivial⟩

theorem isStable : codec.IsStable (depth + 1) :=
  Codec.isStable_record isExact
    ⟨Codec.isStable_text, Codec.isStable_text, EntityKind.isStable, Codec.isStable_text,
      Codec.isStable_optional_text, Codec.isStable_optional_text, Codec.isStable_flag, trivial⟩ _ _

end EntityType

namespace Field

theorem isExact : fields.IsExact mk := ⟨by decide, fun _ => rfl, fun _ => rfl⟩

theorem rereads {field : Field} (hnormal : field.dataType.IsNormal)
    (hvalidation : ∀ json ∈ field.validation, json.Fits depth ∧ json ≠ .null) :
    codec.Rereads (depth + 1) field :=
  Codec.rereads_record isExact
    ⟨Codec.rereads_text _, Codec.rereads_text _, Codec.rereads_text _, Codec.rereads_text _,
      DataType.rereads hnormal, Codec.rereads_flag _, Codec.rereads_signed _,
      Codec.rereads_optional_text _, Codec.rereads_optional_free hvalidation, trivial⟩ _ _

theorem isStable : codec.IsStable (depth + 1) :=
  Codec.isStable_record isExact
    ⟨Codec.isStable_text, Codec.isStable_text, Codec.isStable_text, Codec.isStable_text,
      DataType.isStable, Codec.isStable_flag, Codec.isStable_signed, Codec.isStable_optional_text,
      Codec.isStable_optional_free, trivial⟩ _ _

end Field

namespace RelationshipType

theorem isExact : fields.IsExact mk := ⟨by decide, fun _ => rfl, fun _ => rfl⟩

theorem restored {type : RelationshipType} (hsource : type.source.IsNormal)
    (htarget : type.target.IsNormal) : fields.Restored depth type :=
  ⟨Codec.restores_text _, Codec.restores_text _, Codec.restores_text _, Codec.restores_text _,
    EntityKind.restores hsource, EntityKind.restores htarget,
    Codec.restores_named type.direction.pick_name, Codec.restores_named type.cardinality.pick_name,
    Codec.restores_optional_text _, trivial⟩

theorem isStable : codec.IsStable (depth + 1) :=
  Codec.isStable_record isExact
    ⟨Codec.isStable_text, Codec.isStable_text, Codec.isStable_text, Codec.isStable_text,
      EntityKind.isStable, EntityKind.isStable, Direction.isStable, Cardinality.isStable,
      Codec.isStable_optional_text, trivial⟩ _ _

end RelationshipType

namespace RelationshipAttribute

theorem isExact : fields.IsExact mk := ⟨by decide, fun _ => rfl, fun _ => rfl⟩

theorem rereads {attr : RelationshipAttribute} (hnormal : attr.dataType.IsNormal) :
    codec.Rereads (depth + 1) attr :=
  Codec.rereads_record isExact
    ⟨Codec.rereads_text _, Codec.rereads_text _, Codec.rereads_text _, DataType.rereads hnormal,
      Codec.rereads_flag _, trivial⟩ _ _

theorem isStable : codec.IsStable (depth + 1) :=
  Codec.isStable_record isExact
    ⟨Codec.isStable_text, Codec.isStable_text, Codec.isStable_text, DataType.isStable,
      Codec.isStable_flag, trivial⟩ _ _

end RelationshipAttribute

namespace ViewTemplate

theorem isExact : fields.IsExact mk := ⟨by decide, fun _ => rfl, fun _ => rfl⟩

theorem rereads {template : ViewTemplate} (hnormal : ∀ kind ∈ template.kind, kind.IsNormal)
    (hconfig : template.config.Fits depth) : codec.Rereads (depth + 1) template :=
  Codec.rereads_record isExact
    ⟨Codec.rereads_text _, Codec.rereads_text _, Codec.rereads_text _,
      Codec.rereads_optional (fun kind hkind => EntityKind.rereads (hnormal kind hkind))
        fun _ _ => nofun,
      Codec.rereads_free hconfig, trivial⟩ _ _

theorem isStable : codec.IsStable (depth + 1) :=
  Codec.isStable_record isExact
    ⟨Codec.isStable_text, Codec.isStable_text, Codec.isStable_text,
      EntityKind.isStable.optional nofun, Codec.isStable_free, trivial⟩ _ _

end ViewTemplate

namespace MapOfContent

theorem isExact : fields.IsExact mk := ⟨by decide, fun _ => rfl, fun _ => rfl⟩

theorem rereads {map : MapOfContent} (hnormal : ∀ kind ∈ map.kinds, kind.IsNormal)
    (hconfig : map.config.Fits (depth + 1)) : codec.Rereads (depth + 2) map :=
  Codec.rereads_record isExact
    ⟨Codec.rereads_text _, Codec.rereads_text _, Codec.rereads_text _,
      Codec.Rereads.list fun kind hkind => EntityKind.rereads (hnormal kind hkind),
      Codec.rereads_free hconfig, trivial⟩ _ _

theorem isStable : codec.IsStable (depth + 2) :=
  Codec.isStable_record isExact
    ⟨Codec.isStable_text, Codec.isStable_text, Codec.isStable_text, EntityKind.isStable.list,
      Codec.isStable_free, trivial⟩ _ _

end MapOfContent

namespace ExtractionProfile

theorem isExact : fields.IsExact mk := ⟨by decide, fun _ => rfl, fun _ => rfl⟩

theorem restored (profile : ExtractionProfile) : fields.Restored depth profile :=
  ⟨Codec.restores_text _, Codec.restores_text _, Codec.restores_text _, Codec.restores_flag _,
    Codec.restores_double _, trivial⟩

theorem isStable : codec.IsStable (depth + 1) :=
  Codec.isStable_record isExact
    ⟨Codec.isStable_text, Codec.isStable_text, Codec.isStable_text, Codec.isStable_flag,
      Codec.isStable_double, trivial⟩ _ _

end ExtractionProfile

namespace LabelMapping

theorem isExact : fields.IsExact mk := ⟨by decide, fun _ => rfl, fun _ => rfl⟩

theorem rereads {mapping : LabelMapping} (hnormal : mapping.kind.IsNormal) :
    codec.Rereads (depth + 1) mapping :=
  Codec.rereads_record isExact
    ⟨Codec.rereads_text _, Codec.rereads_text _, Codec.rereads_text _, EntityKind.rereads hnormal,
      Codec.rereads_signed _, trivial⟩ _ _

theorem isStable : codec.IsStable (depth + 1) :=
  Codec.isStable_record isExact
    ⟨Codec.isStable_text, Codec.isStable_text, Codec.isStable_text, EntityKind.isStable,
      Codec.isStable_signed, trivial⟩ _ _

end LabelMapping

namespace IgnoreEntry

theorem isExact : fields.IsExact mk := ⟨by decide, fun _ => rfl, fun _ => rfl⟩

theorem rereads (entry : IgnoreEntry) : codec.Rereads (depth + 1) entry :=
  Codec.rereads_record isExact
    ⟨Codec.rereads_text _, Codec.rereads_text _, Codec.rereads_text _, Codec.rereads_flag _, trivial⟩ _ _

end IgnoreEntry

end KnowledgeSchema
