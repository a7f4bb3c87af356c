import KnowledgeSchema.Json.Tagged
import KnowledgeSchema.Proofs.Json.Depth
import KnowledgeSchema.Proofs.Json.Unique

/-!
# Values read from their own texts

A codec rereads a value when it reads it from the text that it writes for it, in front of whatever is
no part of it. Doubles are left out of account: each one is asked to be read back alone. Lists,
records and their kin reread what is made of values that are reread.
-/

namespace KnowledgeSchema

namespace Json

variable {value : Json}

/-! ### Doubles -/

instance : DecidablePred ReadsBack := fun x =>
  decidable_of_iff ((match readHead (writeReal x) with
    | .ok (.scalar (.real y), []) => y == x
    | _ => false) = true) <| by
    rw [ReadsBack]
    split
    next y hread => rw [hread, beq_iff_eq, Except.ok.injEq, Prod.mk.injEq, Head.scalar.injEq,
      real.injEq, and_iff_left rfl]
    next hother => exact iff_of_false nofun fun hread => hother x hread

instance (value : Json) : Decidable value.IsSteady :=
  inferInstanceAs (Decidable (∀ x ∈ value.doubles, ReadsBack x))

theorem ReadsBack.isFinite {x : Double} (hreads : ReadsBack x) : x.isFinite = true := by
  by_contra hinfinite
  rw [ReadsBack, writeReal, if_neg hinfinite] at hreads
  cases hreads

theorem IsSteady.isFinite (hsteady : value.IsSteady) (x : Double) (hx : x ∈ value.doubles) :
    x.isFinite = true :=
  (hsteady x hx).isFinite

/-! ### First characters -/

theorem isSpace_of_sort {c : Char} (hsort : sortOf c = value.sort) : isSpace c = false := by
  rw [Bool.eq_false_iff]
  intro hspace
  simp only [isSpace, Bool.or_eq_true, beq_iff_eq] at hspace
  rcases value with _ | (_ | _) | _ | _ | _ | _ | _ <;>
    rcases hspace with ((rfl | rfl) | rfl) | rfl <;>
    simp [sort, sortOf, isNumberChar, isDigit] at hsort

theorem eq_null_of_sort (hsort : value.sort = 'n') : value = .null := by
  rcases value with _ | (_ | _) | _ | _ | _ | _ | _ <;>
    simp_all [sort]

/-- The text of a value begins with it, as all texts of its sort do. -/
theorem head_write (hfinite : ∀ x ∈ value.doubles, x.isFinite = true) :
    ∃ c rest, write value = c :: rest ∧ sortOf c = value.sort ∧ isSpace c = false := by
  obtain ⟨c, rest, hwrite, hsort⟩ := sort_write hfinite
  exact ⟨c, rest, hwrite, hsort, isSpace_of_sort hsort⟩

/-- Neither a blank nor the end of an array is where a value begins. -/
theorem first_write (value : Json) :
    ∃ c rest, write value = c :: rest ∧ isSpace c = false ∧ c ≠ ']' := by
  have hsorted : (∀ x ∈ value.doubles, x.isFinite = true) →
      ∃ c rest, write value = c :: rest ∧ isSpace c = false ∧ c ≠ ']' := by
    intro hfinite
    obtain ⟨c, rest, hwrite, hsort, hspace⟩ := head_write hfinite
    refine ⟨c, rest, hwrite, hspace, ?_⟩
    rintro rfl
    exact sort_ne_bracket value hsort.symm
  cases value with
  | real x =>
    by_cases hfinite : x.isFinite = true
    · exact hsorted fun y hy => List.mem_singleton.mp hy ▸ hfinite
    · exact ⟨'n', _, by rw [write, writeReal, if_neg hfinite]; rfl, by decide, by decide⟩
  | arr items => exact ⟨'[', _, rfl, by decide, by decide⟩
  | obj members => exact ⟨'\x7b', _, rfl, by decide, by decide⟩
  | null | bool | int | str => exact hsorted fun x hx => absurd hx List.not_mem_nil

theorem skipSpace_write (value : Json) (rest : List Char) :
    skipSpace (write value ++ rest) = write value ++ rest := by
  obtain ⟨c, tail, hwrite, hspace, -⟩ := first_write value
  rw [hwrite, List.cons_append, skipSpace_cons hspace]

theorem nextItem_write (value : Json) (first : Bool) (rest : List Char) :
    nextItem first ((if first then [] else [',']) ++ (write value ++ rest)) =
      .ok (some (write value ++ rest)) := by
  obtain ⟨c, tail, hwrite, hspace, hbracket⟩ := first_write value
  rw [hwrite, List.cons_append]
  cases first with
  | true =>
    rw [if_pos rfl, List.nil_append, nextItem, skipSpace_cons hspace]
    split
    next heq => cases heq
    next heq => exact absurd (List.cons.inj heq).1 hbracket
    next heq =>
      cases heq
      rfl
  | false =>
    rw [if_neg Bool.false_ne_true, List.singleton_append, nextItem, skipSpace_cons (by decide)]
    split
    next heq => cases heq
    next heq => cases heq
    next heq =>
      cases heq
      rw [if_neg Bool.false_ne_true, if_pos rfl, skipSpace_cons hspace]
      split
      next heq => cases heq
      next heq => exact absurd (List.cons.inj heq).1 hbracket
      next => rfl

end Json

open Json

namespace Codec

variable {α β : Type} {codec : Codec α} {depth : Nat} {value : α}

/-- Whether the text of a value is read as that value, whatever follows that is no part of it, if the
doubles in it are read back. -/
def Rereads (codec : Codec α) (depth : Nat) (value : α) : Prop :=
  (codec.encode value).IsSteady → ∀ rest, EndsNumber rest →
    codec.read depth (Json.write (codec.encode value) ++ rest) = .ok (value, rest)

theorem Rereads.parse_write (hrereads : codec.Rereads maxDepth value)
    (hsteady : (codec.encode value).IsSteady) : codec.parse (codec.write value) = .ok value := by
  have hread := hrereads hsteady [] endsNumber_nil
  rw [List.append_nil] at hread
  rw [parse, Codec.write, Json.text, String.toList_ofList, hread]
  rfl

/-- Whether a value that is set aside as JSON, no deeper than it may be, is taken from there again. -/
structure Restores (codec : Codec α) (depth : Nat) (value : α) : Prop where
  fits : (codec.encode value).Fits depth
  ofJson : codec.ofJson (codec.encode value) = .ok value

/-! ### Scalars -/

theorem restores_scalar (hfits : (codec.encode value).Fits 0)
    (hof : codec.ofJson (codec.encode value) = .ok value) : codec.Restores depth value :=
  ⟨hfits.mono (Nat.zero_le depth), hof⟩

/-- A scalar is read for what it is set aside as. -/
theorem rereads_scalar {encode : α → Json} {ofJson : Json → Except Reason α}
    (hrestores : (scalar encode ofJson).Restores 0 value) :
    (scalar encode ofJson).Rereads depth value := by
  have hfits : (encode value).Fits 0 := hrestores.fits
  have hof : ofJson (encode value) = .ok value := hrestores.ofJson
  intro hsteady rest hrest
  have hhead : readHead (Json.write (encode value) ++ rest) = .ok (.scalar (encode value), rest) := by
    refine readHead_write ?_ ?_ hfits hsteady hrest
    · intro items heq
      rw [heq] at hfits
      exact hfits
    · intro members heq
      rw [heq] at hfits
      exact hfits
  change (readHead (Json.write (encode value) ++ rest) >>= _) = _
  rw [hhead]
  change (inText (ofJson (encode value)) >>= _) = _
  rw [hof]
  rfl

theorem restores_text (text : String) : Codec.text.Restores depth text :=
  restores_scalar trivial rfl

theorem restores_flag (value : Bool) : flag.Restores depth value :=
  restores_scalar trivial rfl

theorem restores_double (x : Double) : double.Restores depth x :=
  restores_scalar trivial rfl

theorem restores_signed (n : Int64) : signed.Restores depth n := by
  have hlow := Int64.le_toInt n
  have hhigh := Int64.toInt_lt n
  refine restores_scalar ⟨by omega, by omega⟩ ?_
  have hrange : (decide (Int64.minValue.toInt ≤ n.toInt) &&
      decide (n.toInt ≤ Int64.maxValue.toInt)) = true := by
    rw [Int64.toInt_minValue, Int64.toInt_maxValue, Bool.and_eq_true, decide_eq_true_eq,
      decide_eq_true_eq]
    omega
  exact (if_pos hrange).trans (congrArg Except.ok (Int64.ofInt_toInt n))

theorem restores_count (n : UInt64) : count.Restores depth n := by
  have hhigh := UInt64.toNat_lt n
  refine restores_scalar ⟨by omega, by omega⟩ ?_
  have hrange : (decide (0 ≤ (n.toNat : Int)) &&
      decide ((n.toNat : Int).toNat ≤ largestWord)) = true := by
    rw [Bool.and_eq_true, decide_eq_true_eq, decide_eq_true_eq, largestWord]
    omega
  exact (if_pos hrange).trans (congrArg Except.ok UInt64.ofNat_toNat)

theorem rereads_text (text : String) : Codec.text.Rereads depth text :=
  rereads_scalar (restores_text text)

theorem rereads_flag (value : Bool) : flag.Rereads depth value :=
  rereads_scalar (restores_flag value)

theorem rereads_double (x : Double) : double.Rereads depth x :=
  rereads_scalar (restores_double x)

theorem rereads_signed (n : Int64) : signed.Rereads depth n :=
  rereads_scalar (restores_signed n)

theorem rereads_free {json : Json} (hfits : json.Fits depth) : free.Rereads depth json := by
  intro hsteady rest hrest
  change (readValue depth (Json.write json ++ rest) >>= _) = _
  rw [readValue_write hfits hsteady hrest]
  exact congrArg (fun json => Except.ok (json, rest)) (canonical_of_fits hfits)

/-! ### Named values -/

theorem restores_named {known : List (String × α)} {name : α → String}
    (hpick : pick known (name value) = .ok value) : (named known name).Restores depth value :=
  restores_scalar trivial hpick

theorem rereads_named {known : List (String × α)} {name : α → String}
    (hpick : pick known (name value) = .ok value) : (named known name).Rereads depth value := by
  intro _ rest _
  obtain ⟨escaped, hescaped, hread⟩ := readText_writeText (name value) rest
  change (named known name).read depth (writeText (name value) ++ rest) = _
  rw [hescaped]
  change (readText (escaped ++ rest) >>= _) = _
  rw [hread]
  change (inText (pick known (name value)) >>= _) = _
  rw [hpick]
  rfl

/-! ### Values of other types -/

theorem Rereads.map {of : α → β} {back : β → α} {value : β}
    (hrereads : codec.Rereads depth (back value)) (hof : of (back value) = value) :
    (codec.map of back).Rereads depth value := by
  intro hsteady rest hrest
  change (codec.read depth (Json.write (codec.encode (back value)) ++ rest) >>= _) = _
  rw [hrereads hsteady rest hrest]
  exact congrArg (fun value => Except.ok (value, rest)) hof

theorem Restores.map {of : α → β} {back : β → α} {value : β}
    (hrestores : codec.Restores depth (back value)) (hof : of (back value) = value) :
    (codec.map of back).Restores depth value := by
  refine ⟨hrestores.fits, ?_⟩
  change of <$> codec.ofJson (codec.encode (back value)) = _
  rw [hrestores.ofJson]
  exact congrArg Except.ok hof

theorem rereads_none : codec.optional.Rereads depth none := fun _ _ _ => rfl

theorem restores_none : codec.optional.Restores depth none :=
  restores_scalar trivial rfl

/-- A value that is not written as nothing is not read as nothing. -/
theorem Rereads.optional (hrereads : codec.Rereads depth value) (hnull : codec.encode value ≠ .null) :
    codec.optional.Rereads depth (some value) := by
  intro hsteady rest hrest
  have hread := hrereads hsteady rest hrest
  obtain ⟨c, tail, hwrite, hsort, hspace⟩ := @head_write (codec.encode value) hsteady.isFinite
  have hc : c ≠ 'n' := by
    rintro rfl
    exact hnull (eq_null_of_sort (hsort.symm.trans (by decide)))
  have hskip : skipSpace (Json.write (codec.encode value) ++ rest) =
      Json.write (codec.encode value) ++ rest := by
    rw [hwrite, List.cons_append, skipSpace_cons hspace]
  dsimp only [Codec.optional]
  split
  next heq =>
    rw [hskip, hwrite, List.cons_append] at heq
    exact absurd (List.cons.inj heq).1 hc
  next =>
    rw [hskip, hread]
    rfl

theorem rereads_optional {value? : Option α} (hrereads : ∀ value ∈ value?, codec.Rereads depth value)
    (hnull : ∀ value ∈ value?, codec.encode value ≠ .null) : codec.optional.Rereads depth value? := by
  cases value? with
  | none => exact rereads_none
  | some value => exact (hrereads value rfl).optional (hnull value rfl)

theorem rereads_optional_free {json? : Option Json}
    (hjson : ∀ json ∈ json?, json.Fits depth ∧ json ≠ .null) : free.optional.Rereads depth json? :=
  rereads_optional (fun json hmem => rereads_free (hjson json hmem).1) fun json hmem =>
    (hjson json hmem).2

theorem Restores.optional (hrestores : codec.Restores depth value)
    (hnull : codec.encode value ≠ .null) : codec.optional.Restores depth (some value) := by
  refine ⟨hrestores.fits, ?_⟩
  dsimp only [Codec.optional]
  split
  next heq => exact absurd heq hnull
  next =>
    rw [hrestores.ofJson]
    rfl

/-! ### Lists -/

theorem Rereads.list {items : List α} (hrereads : ∀ item ∈ items, codec.Rereads depth item) :
    (list codec).Rereads (depth + 1) items := by
  intro hsteady rest _
  have hitems : ∀ item ∈ items, (codec.encode item).IsSteady := fun item hitem =>
    @IsSteady.item (items.map codec.encode) hsteady _ (List.mem_map_of_mem hitem)
  change (readArray _ [] (writeItems true (items.map codec.encode) ++ rest) >>= _) = _
  rw [@readArray_write α (List α) codec.encode (fun state item => item :: state) _ items ?next ?step]
  case next =>
    intro item _ first rest _
    rw [nextItem_write, skipSpace_write]
  case step =>
    intro item hitem state rest hrest
    rw [skipSpace_write, hrereads item hitem (hitems item hitem) rest hrest]
    rfl
  rw [List.foldl_flip_cons_eq_append', List.append_nil]
  change Except.ok (items.reverse.reverse, rest) = _
  rw [List.reverse_reverse]

theorem Restores.list {items : List α} (hrestores : ∀ item ∈ items, codec.Restores depth item) :
    (list codec).Restores (depth + 1) items := by
  refine ⟨List.forall_mem_map.mpr fun item hitem => (hrestores item hitem).fits, ?_⟩
  change (items.map codec.encode).mapM codec.ofJson = _
  rw [Outcome.mapM_eq_ok, List.forall₂_map_left_iff, List.forall₂_same]
  exact fun item hitem => (hrestores item hitem).ofJson

end Codec

end KnowledgeSchema
