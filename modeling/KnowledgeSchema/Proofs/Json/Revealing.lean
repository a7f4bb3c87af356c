import Mathlib.Data.List.Forall2
import KnowledgeSchema.Blueprint.Version
import KnowledgeSchema.Definition.Relationship
import KnowledgeSchema.Proofs.Definition.Names
import KnowledgeSchema.Proofs.Time.Texts

/-!
# What is seen of an encoded value

Two values are encoded alike exactly when they look alike. For most types that is when they are
equal, and kinds and data types have to be in their own spelling for it.
-/

namespace KnowledgeSchema

namespace Codec

variable {α β : Type}

/-- Whether good values are encoded alike exactly when they have the same view. -/
def Reveals (codec : Codec α) (good : α → Prop) (view : α → β) : Prop :=
  ∀ a b, good a → good b → (codec.encode a = codec.encode b ↔ view a = view b)

/-- Whether good values are encoded alike only when they are equal. -/
abbrev Tells (codec : Codec α) (good : α → Prop) : Prop :=
  codec.Reveals good fun value => value

variable {codec : Codec α} {good : α → Prop} {view : α → β}

@[simp]
theorem text_encode_inj {text other : String} :
    Codec.text.encode text = Codec.text.encode other ↔ text = other :=
  Json.str.injEq _ _ ▸ Iff.rfl

@[simp]
theorem flag_encode_inj {value other : Bool} : flag.encode value = flag.encode other ↔ value = other :=
  Json.bool.injEq _ _ ▸ Iff.rfl

@[simp]
theorem signed_encode_inj {n k : Int64} : signed.encode n = signed.encode k ↔ n = k :=
  ⟨fun hsame => Int64.toInt.inj (Json.int.inj hsame), fun hsame => congrArg _ hsame⟩

@[simp]
theorem double_encode_inj {x y : Double} : double.encode x = double.encode y ↔ x = y :=
  Json.real.injEq _ _ ▸ Iff.rfl

@[simp]
theorem free_encode_inj {value other : Json} : free.encode value = free.encode other ↔ value = other :=
  Iff.rfl

@[simp]
theorem timestamp_encode_inj {time other : Timestamp} :
    timestamp.encode time = timestamp.encode other ↔ time = other :=
  ⟨fun hsame => Timestamp.text_injective (Json.str.inj hsame), fun hsame => congrArg _ hsame⟩

@[simp]
theorem list_text_encode_inj {texts others : List String} :
    text.list.encode texts = text.list.encode others ↔ texts = others := by
  refine ⟨fun hsame => ?_, fun hsame => congrArg _ hsame⟩
  exact List.map_injective_iff.mpr (fun _ _ hstr => Json.str.inj hstr) (Json.arr.inj hsame)

@[simp]
theorem textSet_encode_inj {texts others : TextSet} :
    textSet.encode texts = textSet.encode others ↔ texts = others := by
  refine list_text_encode_inj.trans ⟨fun hsame => ?_, fun hsame => congrArg _ hsame⟩
  obtain ⟨texts, _⟩ := texts
  obtain ⟨others, _⟩ := others
  obtain rfl : texts = others := hsame
  rfl

theorem named_encode_inj {known : List (String × α)} {name : α → String} {value other : α} :
    (named known name).encode value = (named known name).encode other ↔ name value = name other :=
  Json.str.injEq _ _ ▸ Iff.rfl

/-- A value or none, where none is told from all values. -/
theorem Tells.optional (htells : codec.Tells good) (hnull : ∀ value, codec.encode value ≠ .null) :
    codec.optional.Tells fun value? => ∀ value ∈ value?, good value := by
  rintro (_ | a) (_ | b) ha hb
  · exact ⟨fun _ => rfl, fun _ => rfl⟩
  · exact ⟨fun hsame => absurd hsame.symm (hnull b), fun hsame => nomatch hsame⟩
  · exact ⟨fun hsame => absurd hsame (hnull a), fun hsame => nomatch hsame⟩
  · exact (htells a b (ha a rfl) (hb b rfl)).trans (Option.some.injEq a b ▸ Iff.rfl)

theorem optional_encode_inj (hinj : ∀ a b, codec.encode a = codec.encode b ↔ a = b)
    (hnull : ∀ value, codec.encode value ≠ .null) {value? other? : Option α} :
    codec.optional.encode value? = codec.optional.encode other? ↔ value? = other? :=
  Tells.optional (fun a b _ _ => hinj a b) hnull value? other? (fun _ _ => trivial)
    fun _ _ => trivial

@[simp]
theorem optional_text_encode_inj {text? other? : Option String} :
    text.optional.encode text? = text.optional.encode other? ↔ text? = other? :=
  optional_encode_inj (fun _ _ => text_encode_inj) fun _ hnull => nomatch hnull

@[simp]
theorem optional_timestamp_encode_inj {time? other? : Option Timestamp} :
    timestamp.optional.encode time? = timestamp.optional.encode other? ↔ time? = other? :=
  optional_encode_inj (fun _ _ => timestamp_encode_inj) fun _ hnull => nomatch hnull

/-- JSON that may be left out: none is the same as null. -/
@[simp]
theorem optional_free_encode_inj {value? other? : Option Json} :
    free.optional.encode value? = free.optional.encode other? ↔
      value?.getD .null = other?.getD .null := by
  cases value? <;> cases other? <;> exact Iff.rfl

/-- A list shows what its items show. -/
theorem Reveals.list (hreveals : codec.Reveals good view) :
    codec.list.Reveals (fun items => ∀ item ∈ items, good item) (List.map view) := by
  have hmap : ∀ items others : List α, (∀ item ∈ items, good item) → (∀ item ∈ others, good item) →
      (items.map codec.encode = others.map codec.encode ↔ items.map view = others.map view) := by
    intro items
    induction items with
    | nil => intro others _ _; cases others <;> simp
    | cons item items ih =>
      rintro (_ | ⟨other, others⟩) hitems hothers
      · simp
      · rw [List.map_cons, List.map_cons, List.cons.injEq, List.map_cons, List.map_cons,
          List.cons.injEq,
          hreveals item other (hitems item List.mem_cons_self) (hothers other List.mem_cons_self),
          ih others (fun each heach => hitems each (List.mem_cons_of_mem _ heach))
            (fun each heach => hothers each (List.mem_cons_of_mem _ heach))]
  intro items others hitems hothers
  rw [← hmap items others hitems hothers]
  exact Json.arr.injEq _ _ ▸ Iff.rfl

theorem Tells.list (htells : codec.Tells good) :
    codec.list.Tells fun items => ∀ item ∈ items, good item := by
  intro items others hitems hothers
  rw [Reveals.list htells items others hitems hothers, List.map_id', List.map_id']

end Codec

/-! ### Spellings -/

theorem EntityKind.tells : EntityKind.codec.Tells EntityKind.IsNormal := by
  intro kind other hkind hother
  refine ⟨fun hsame => ?_, fun hsame => congrArg _ hsame⟩
  have htext : kind.text = other.text := Json.str.inj hsame
  rw [IsNormal, htext] at hkind
  exact hkind.symm.trans hother

theorem DataType.tells : DataType.codec.Tells DataType.IsNormal := by
  intro dataType other hdataType hother
  refine ⟨fun hsame => ?_, fun hsame => congrArg _ hsame⟩
  have hname : dataType.name = other.name := Json.str.inj hsame
  rw [IsNormal, hname] at hdataType
  exact hdataType.symm.trans hother

@[simp]
theorem Status.encode_inj {status other : Status} :
    codec.encode status = codec.encode other ↔ status = other := by
  rw [codec, Codec.named_encode_inj]
  cases status <;> cases other <;> decide

@[simp]
theorem Direction.encode_inj {direction other : Direction} :
    codec.encode direction = codec.encode other ↔ direction = other := by
  rw [codec, Codec.named_encode_inj]
  cases direction <;> cases other <;> decide

@[simp]
theorem Cardinality.encode_inj {cardinality other : Cardinality} :
    codec.encode cardinality = codec.encode other ↔ cardinality = other := by
  rw [codec, Codec.named_encode_inj]
  cases cardinality <;> cases other <;> decide

/-! ### Records -/

namespace Fields

variable {ρ σ τ : Type}

/-- Whether the fields of records are encoded alike, field by field. -/
@[simp]
def Alike : {τ : Type} → Fields ρ σ τ → ρ → ρ → Prop
  | _, .done, _, _ => True
  | _, .field _ codec get _ rest, record, other =>
    codec.encode (get record) = codec.encode (get other) ∧ rest.Alike record other

theorem encode_eq_iff (fields : Fields ρ σ τ) (record other : ρ) :
    fields.encode record = fields.encode other ↔ fields.Alike record other := by
  induction fields with
  | done => exact ⟨fun _ => trivial, fun _ => rfl⟩
  | field name codec get fallback rest ih =>
    rw [encode, encode, List.cons.injEq, Prod.mk.injEq, ih, Alike]
    exact and_congr_left fun _ => and_iff_right rfl

theorem length_encode (fields : Fields ρ σ τ) (record : ρ) :
    (fields.encode record).length = fields.names.length := by
  induction fields with
  | done => rfl
  | field name codec get fallback rest ih => rw [encode, names, List.length_cons, ih, List.length_cons]

end Fields

namespace Codec

variable {ρ δ τ υ β : Type} {name : String} {closed : Bool} {make : τ} {makeInner : υ}
  {good : ρ → Prop} {view : ρ → β}

theorem record_reveals {fields : Fields ρ ρ τ}
    (halike : ∀ record other, good record → good other →
      (fields.Alike record other ↔ view record = view other)) :
    (record name closed fields make).Reveals good view := by
  intro record other hrecord hother
  rw [← halike record other hrecord hother, ← fields.encode_eq_iff]
  exact Json.obj.injEq _ _ ▸ Iff.rfl

/-- A record that holds another shows what the fields of both show. -/
theorem extended_reveals {inner : Fields δ δ υ} {own : Fields ρ (δ → ρ) τ} {part : ρ → δ}
    (halike : ∀ record other, good record → good other →
      (inner.Alike (part record) (part other) ∧ own.Alike record other ↔ view record = view other)) :
    (extended name inner makeInner own make part).Reveals good view := by
  intro record other hrecord hother
  have hlength : (inner.encode (part record)).length = (inner.encode (part other)).length := by
    rw [inner.length_encode, inner.length_encode]
  rw [← halike record other hrecord hother, ← inner.encode_eq_iff, ← own.encode_eq_iff]
  constructor
  · exact fun hsame => List.append_inj (Json.obj.inj hsame) hlength
  · rintro ⟨hinner, hown⟩
    exact congrArg Json.obj (congrArg₂ (· ++ ·) hinner hown)

end Codec

end KnowledgeSchema
