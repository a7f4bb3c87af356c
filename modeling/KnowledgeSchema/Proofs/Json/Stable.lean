import KnowledgeSchema.Proofs.Json.Nesting
import KnowledgeSchema.Proofs.Json.Sources

/-!
# Codecs that reread whatever they give

A codec is stable when it rereads all that it gives: what it was read from may have been laid out in
another way, with parts left out or spelled otherwise, but once it is read its own text stands for
it. Codecs are stable when those that they are put together from are.
-/

namespace KnowledgeSchema

open Json

namespace Codec

variable {α : Type} {codec : Codec α} {depth : Nat}

/-- Whether a codec rereads all that it gives at a depth. -/
def IsStable (codec : Codec α) (depth : Nat) : Prop :=
  ∀ value, codec.MayGiveAt depth value → codec.Rereads depth value

/-! ### Scalars -/

theorem isStable_text : Codec.text.IsStable depth := fun value _ => rereads_text value

theorem isStable_flag : flag.IsStable depth := fun value _ => rereads_flag value

theorem isStable_signed : signed.IsStable depth := fun value _ => rereads_signed value

theorem isStable_double : double.IsStable depth := fun value _ => rereads_double value

/-! ### Values that may be left out -/

theorem IsStable.optional (hstable : codec.IsStable depth) (hnull : ∀ value, codec.encode value ≠ .null) :
    codec.optional.IsStable depth := by
  intro value? hgives
  refine rereads_optional (fun value hvalue => ?_) fun value _ => hnull value
  subst hvalue
  obtain ⟨input, rest, -, hread⟩ := optional_eq_some hgives
  exact hstable value (Or.inl ⟨_, _, hread⟩)

/-! ### JSON kept for its content -/

theorem fits_of_free {json : Json} (hgives : free.MayGiveAt depth json) : json.Fits depth := by
  rcases hgives with ⟨input, rest, hread⟩ | habsent
  · obtain ⟨⟨found, after⟩, hfound, hvalue⟩ := Outcome.bind_eq_ok.mp hread
    cases hvalue
    exact fits_canonical hfound
  · cases habsent

theorem isStable_free : free.IsStable depth := fun _ hgives => rereads_free (fits_of_free hgives)

/-- JSON beside which nothing may stand is not the null that stands for nothing. -/
theorem fits_of_optional_free {json : Json} (hgives : free.optional.MayGiveAt depth (some json)) :
    json.Fits depth ∧ json.IsSolid := by
  obtain ⟨input, rest, hother, hread⟩ := optional_eq_some hgives
  refine ⟨fits_of_free (Or.inl ⟨_, _, hread⟩), ?_⟩
  obtain ⟨⟨found, after⟩, hfound, hvalue⟩ := Outcome.bind_eq_ok.mp hread
  cases hvalue
  exact isSolid_of_readValue hother hfound

theorem isStable_optional_free : free.optional.IsStable depth := by
  refine fun json? hgives => rereads_optional_free fun json hjson => ?_
  subst hjson
  exact (fits_of_optional_free hgives).imp_right IsSolid.ne_null

/-! ### Lists -/

theorem IsStable.list (hstable : codec.IsStable depth) : (list codec).IsStable (depth + 1) := by
  intro items hgives
  obtain ⟨below, hbelow, hitems⟩ := mayGiveAt_of_list hgives
  cases hbelow
  exact Rereads.list fun item hitem => hstable item (hitems item hitem)

end Codec

/-! ### Records -/

namespace Fields

open Codec

variable {ρ σ τ : Type} {fields : Fields ρ σ τ} {record : ρ} {depth : Nat}

/-- Whether each field is reread, be it read or left out. -/
def AreStable (depth : Nat) {τ : Type} : Fields ρ σ τ → Prop
  | .done => True
  | .field _ codec _ none rest => codec.IsStable depth ∧ rest.AreStable depth
  | .field _ codec _ (some value) rest =>
    codec.IsStable depth ∧ codec.Rereads depth value ∧ rest.AreStable depth

theorem AreStable.reread (hstable : fields.AreStable depth)
    (hfrom : fields.From (MayGiveAt depth) (fields.valuesOf record)) :
    fields.Reread depth record := by
  induction fields with
  | done => trivial
  | field name codec get fallback rest ih =>
    cases fallback with
    | none =>
      refine ⟨hfrom.1.elim (hstable.1 _) nofun, ih hstable.2 hfrom.2⟩
    | some value =>
      refine ⟨hfrom.1.elim (hstable.1 _) fun hvalue => ?_, ih hstable.2.2 hfrom.2⟩
      have hget : value = get record := Option.some.inj hvalue
      exact hget ▸ hstable.2.1

end Fields

namespace Codec

variable {ρ τ : Type} {depth : Nat}

theorem from_record {name : String} {closed : Bool} {fields : Fields ρ ρ τ} {make : τ}
    (hexact : fields.IsExact make) {record : ρ}
    (hgives : (Codec.record name closed fields make).MayGiveAt (depth + 1) record) :
    fields.From (MayGiveAt depth) (fields.valuesOf record) := by
  rcases hgives with ⟨input, rest, hread⟩ | habsent
  · obtain ⟨below, values, hbelow, rfl, hfrom⟩ := from_read_record hread
    cases hbelow
    rwa [hexact.valuesOf_build]
  · cases habsent

theorem isStable_record {fields : Fields ρ ρ τ} {make : τ} (hexact : fields.IsExact make)
    (hstable : fields.AreStable depth) (name : String) (closed : Bool) :
    (Codec.record name closed fields make).IsStable (depth + 1) := fun _ hgives =>
  rereads_record hexact (hstable.reread (from_record hexact hgives)) name closed

theorem isStable_extended {δ υ : Type} {inner : Fields δ δ υ} {makeInner : υ}
    {own : Fields ρ (δ → ρ) τ} {make : τ} {part : ρ → δ} (hinner : inner.IsExact makeInner)
    (hnodup : (inner.names ++ own.names).Nodup)
    (hrestored : ∀ each, inner.From MayTake (inner.valuesOf each) → inner.Restored depth each)
    (hstable : own.AreStable depth)
    (hvalues : ∀ values each, own.valuesOf (own.build make values each) = values)
    (hpart : ∀ values each, part (own.build make values each) = each) (name : String) :
    (extended name inner makeInner own make part).IsStable (depth + 1) := by
  rintro record (⟨input, rest, hread⟩ | habsent)
  · obtain ⟨below, values, others, hbelow, rfl, hfrom, hinnerFrom⟩ := from_read_extended hread
    cases hbelow
    refine rereads_extended hinner hnodup (hstable.reread ?_) (hrestored _ ?_) ?_ name
    · rwa [hvalues]
    · rwa [hpart, hinner.valuesOf_build]
    · rw [hvalues, hpart]
  · cases habsent

end Codec

end KnowledgeSchema
