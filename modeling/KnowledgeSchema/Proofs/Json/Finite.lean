import KnowledgeSchema.Proofs.Json.Sources

/-!
# Finite doubles

A double that is read is finite, or it comes from an integer and is at least a number, which becomes
finite when it is moved into the unit interval. The doubles of a document are those that are written
for its parts.
-/

namespace KnowledgeSchema

open Json

/-! ### Numbers -/

namespace Double

theorem magnitude_le_bits (x : Double) : x.magnitude ≤ x.bits :=
  UInt64.and_le_left

theorem isNumber_of_isFinite {x : Double} (hfinite : x.isFinite = true) : x.isNumber = true := by
  rw [isFinite, decide_eq_true_eq] at hfinite
  rw [isNumber, decide_eq_true_eq]
  exact UInt64.le_of_lt hfinite

theorem isNumber_nearest (num den : Nat) : (nearest num den).isNumber = true := by
  rw [isNumber, decide_eq_true_eq]
  refine UInt64.le_trans (magnitude_le_bits _) ?_
  rw [nearest]
  split_ifs
  · decide
  · rw [UInt64.le_iff_toNat_le, UInt64.toNat_ofNat']
    exact (Nat.mod_le _ _).trans (Nat.min_le_right _ _)

theorem isNumber_ofInt (n : Int) : (ofInt n).isNumber = true := by
  rw [ofInt]
  split_ifs
  · rw [isNumber, magnitude_negate]
    exact isNumber_nearest _ _
  · exact isNumber_nearest _ _

theorem isFinite_of_isZero {x : Double} (hzero : x.isZero = true) : x.isFinite = true := by
  rw [isZero, beq_iff_eq] at hzero
  rw [isFinite, hzero]
  decide

theorem isFinite_clampUnit {x : Double} (hnumber : x.isNumber = true) :
    x.clampUnit.isFinite = true := by
  rw [clampUnit]
  split_ifs with hkept hnegative hlarge
  · rw [hnumber, Bool.not_true, Bool.or_false] at hkept
    exact isFinite_of_isZero hkept
  · decide
  · decide
  · rw [isFinite, decide_eq_true_eq]
    exact UInt64.lt_of_le_of_lt
      (UInt64.le_trans (magnitude_le_bits x) (UInt64.not_lt.mp hlarge)) (by decide)

theorem isFinite_dropZeroSign {x : Double} (hfinite : x.isFinite = true) :
    x.dropZeroSign.isFinite = true := by
  rw [dropZeroSign]
  split_ifs
  · decide
  · exact hfinite

end Double

namespace Codec

variable {α : Type} {codec : Codec α} {depth : Nat}

/-! ### What is read -/

theorem isFinite_of_free {json : Json} (hgives : free.MayGiveAt depth json) : json.IsFinite := by
  rcases hgives with ⟨input, rest, hread⟩ | habsent
  · obtain ⟨⟨found, after⟩, hfound, hvalue⟩ := Outcome.bind_eq_ok.mp hread
    cases hvalue
    exact isFinite_canonical hfound
  · cases habsent

theorem isNumber_of_double {x : Double} (hgives : double.MayGiveAt depth x) : x.isNumber = true := by
  rcases hgives with ⟨input, rest, hread⟩ | habsent
  · obtain ⟨⟨head, after⟩, hhead, hread⟩ := Outcome.bind_eq_ok.mp hread
    obtain ⟨found, hfound, hvalue⟩ := Outcome.bind_eq_ok.mp hread
    cases hvalue
    have hof := eq_ok_of_inText hfound
    cases head with
    | scalar value =>
      have hscalar := isScalar_of_readHead hhead
      cases value with
      | real y =>
        cases hof
        exact Double.isNumber_of_isFinite hscalar
      | int n =>
        cases hof
        exact Double.isNumber_ofInt n
      | _ => cases hof
    | array => cases hof
    | object => cases hof
  · cases habsent

/-! ### What is written -/

/-- Whether the doubles that are written for a value are finite. -/
def WritesFinite (codec : Codec α) (value : α) : Prop :=
  (codec.encode value).IsFinite

theorem WritesFinite.of_nil {value : α} (hnone : (codec.encode value).doubles = []) :
    codec.WritesFinite value := by
  rw [WritesFinite, IsFinite, hnone]
  exact List.forall_mem_nil _

theorem WritesFinite.optional {value? : Option α}
    (hvalue : ∀ value ∈ value?, codec.WritesFinite value) : codec.optional.WritesFinite value? := by
  cases value? with
  | none => exact WritesFinite.of_nil rfl
  | some value => exact hvalue value rfl

theorem WritesFinite.list {items : List α} (hitems : ∀ item ∈ items, codec.WritesFinite item) :
    (list codec).WritesFinite items :=
  isFinite_arr (List.forall_mem_map.mpr hitems)

theorem WritesFinite.double {x : Double} (hfinite : x.isFinite = true) : double.WritesFinite x :=
  List.forall_mem_singleton.mpr hfinite

theorem WritesFinite.optional_text (text? : Option String) :
    Codec.text.optional.WritesFinite text? :=
  WritesFinite.optional fun _ _ => WritesFinite.of_nil rfl

theorem WritesFinite.texts (texts : List String) : (Codec.list Codec.text).WritesFinite texts :=
  WritesFinite.list fun _ _ => WritesFinite.of_nil rfl

end Codec

namespace Fields

variable {ρ σ τ : Type} {fields : Fields ρ σ τ} {record : ρ}

/-- Whether the doubles that are written for the value of each field are finite. -/
def WriteFinite {τ : Type} : Fields ρ σ τ → ρ → Prop
  | .done, _ => True
  | .field _ codec get _ rest, record => codec.WritesFinite (get record) ∧ rest.WriteFinite record

theorem WriteFinite.member (hfinite : fields.WriteFinite record) :
    ∀ member ∈ fields.encode record, member.2.IsFinite := by
  induction fields with
  | done => exact List.forall_mem_nil _
  | field name codec get fallback rest ih => exact List.forall_mem_cons.mpr ⟨hfinite.1, ih hfinite.2⟩

end Fields

namespace Codec

variable {ρ δ τ υ : Type}

theorem writesFinite_record (fields : Fields ρ ρ τ) {make : τ} {record : ρ}
    (hfinite : fields.WriteFinite record) (name : String) (closed : Bool) :
    (Codec.record name closed fields make).WritesFinite record :=
  isFinite_obj hfinite.member

theorem writesFinite_extended {inner : Fields δ δ υ} {makeInner : υ} (own : Fields ρ (δ → ρ) τ)
    {make : τ} {part : ρ → δ} {record : ρ} (hinner : inner.WriteFinite (part record))
    (hown : own.WriteFinite record) (name : String) :
    (extended name inner makeInner own make part).WritesFinite record :=
  isFinite_obj (List.forall_mem_append.mpr ⟨hinner.member, hown.member⟩)

end Codec

end KnowledgeSchema
