import KnowledgeSchema.Proofs.Json.RoundTrip

/-!
# What readers give

A reader that may go deeper reads no text differently. What it gives is kept for its content as a
value of the depth that it was allowed, and each double in it is finite.
-/

namespace KnowledgeSchema.Double

theorem magnitude_negate (x : Double) : x.negate.magnitude = x.magnitude := by
  apply UInt64.eq_of_toBitVec_eq
  apply BitVec.eq_of_getLsbD_eq
  intro i hi
  simp only [magnitude, negate, UInt64.toBitVec_and, UInt64.toBitVec_xor, BitVec.getLsbD_and,
    BitVec.getLsbD_xor]
  rcases Nat.lt_or_eq_of_le (Nat.le_of_lt_succ hi) with hlow | rfl
  · have hsign : ∀ i : Fin 63, (UInt64.toBitVec 9223372036854775808).getLsbD i = false := by decide
    rw [hsign ⟨i, hlow⟩, Bool.xor_false]
  · have hmask : (UInt64.toBitVec 9223372036854775807).getLsbD 63 = false := by decide
    rw [hmask, Bool.and_false, Bool.and_false]

theorem isFinite_of_ofDecimal? {negative : Bool} {significand : Nat} {exponent : Int} {x : Double}
    (hx : ofDecimal? negative significand exponent = some x) : x.isFinite = true := by
  rw [ofDecimal?] at hx
  by_cases hfinite : (scaled significand exponent).isFinite = true
  · rw [if_pos hfinite] at hx
    obtain rfl := Option.some.inj hx
    split_ifs
    · rw [isFinite, magnitude_negate]
      exact hfinite
    · exact hfinite
  · rw [if_neg hfinite] at hx
    cases hx

end KnowledgeSchema.Double

namespace KnowledgeSchema.Json

variable {σ : Type} {depth : Nat} {input left : List Char} {value : Json}

/-! ### Walks over items and members -/

theorem foldItems_mono {step wider : σ → Reader σ}
    (hstep : ∀ state input result, step state input = .ok result → wider state input = .ok result)
    {fuel : Nat} {first : Bool} {state : σ} {result : σ × List Char}
    (hfold : foldItems step fuel first state input = .ok result) :
    foldItems wider fuel first state input = .ok result := by
  induction fuel generalizing first state input with
  | zero => cases hfold
  | succ fuel ih =>
    rw [foldItems] at hfold ⊢
    obtain ⟨next, hnext, hfold⟩ := Outcome.bind_eq_ok.mp hfold
    refine Outcome.bind_eq_ok.mpr ⟨next, hnext, ?_⟩
    cases next with
    | none => exact hfold
    | some rest =>
      obtain ⟨after, hafter, hfold⟩ := Outcome.bind_eq_ok.mp hfold
      exact Outcome.bind_eq_ok.mpr ⟨after, hstep _ _ _ hafter, ih hfold⟩

theorem foldMembers_mono {step wider : σ → String → Reader σ}
    (hstep : ∀ state key input result, step state key input = .ok result →
      wider state key input = .ok result)
    {fuel : Nat} {first : Bool} {state : σ} {result : σ × List Char}
    (hfold : foldMembers step fuel first state input = .ok result) :
    foldMembers wider fuel first state input = .ok result := by
  induction fuel generalizing first state input with
  | zero => cases hfold
  | succ fuel ih =>
    rw [foldMembers] at hfold ⊢
    obtain ⟨next, hnext, hfold⟩ := Outcome.bind_eq_ok.mp hfold
    refine Outcome.bind_eq_ok.mpr ⟨next, hnext, ?_⟩
    cases next with
    | none => exact hfold
    | some found =>
      obtain ⟨after, hafter, hfold⟩ := Outcome.bind_eq_ok.mp hfold
      exact Outcome.bind_eq_ok.mpr ⟨after, hstep _ _ _ _ hafter, ih hfold⟩

theorem foldItems_invariant {step : σ → Reader σ} (holds : σ → Prop)
    (hstep : ∀ state input after rest, holds state → step state input = .ok (after, rest) →
      holds after)
    {fuel : Nat} {first : Bool} {state after : σ} (hstate : holds state)
    (hfold : foldItems step fuel first state input = .ok (after, left)) : holds after := by
  induction fuel generalizing first state input with
  | zero => cases hfold
  | succ fuel ih =>
    rw [foldItems] at hfold
    obtain ⟨next, -, hfold⟩ := Outcome.bind_eq_ok.mp hfold
    cases next with
    | none =>
      cases hfold
      exact hstate
    | some rest =>
      obtain ⟨⟨between, rest⟩, hbetween, hfold⟩ := Outcome.bind_eq_ok.mp hfold
      exact ih (hstep _ _ _ _ hstate hbetween) hfold

theorem foldMembers_invariant {step : σ → String → Reader σ} (holds : σ → Prop)
    (hstep : ∀ state key input after rest, holds state →
      step state key input = .ok (after, rest) → holds after)
    {fuel : Nat} {first : Bool} {state after : σ} (hstate : holds state)
    (hfold : foldMembers step fuel first state input = .ok (after, left)) : holds after := by
  induction fuel generalizing first state input with
  | zero => cases hfold
  | succ fuel ih =>
    rw [foldMembers] at hfold
    obtain ⟨next, -, hfold⟩ := Outcome.bind_eq_ok.mp hfold
    cases next with
    | none =>
      cases hfold
      exact hstate
    | some found =>
      obtain ⟨key, rest⟩ := found
      obtain ⟨⟨between, rest⟩, hbetween, hfold⟩ := Outcome.bind_eq_ok.mp hfold
      exact ih (hstep _ _ _ _ _ hstate hbetween) hfold

/-! ### Depth -/

def readItem (depth : Nat) (items : List Json) : Reader (List Json) := fun input => do
  let (value, rest) ← readValue depth input
  .ok (value :: items, rest)

def readMember (depth : Nat) (members : List (String × Json)) (key : String) :
    Reader (List (String × Json)) := fun input => do
  let (value, rest) ← readValue depth (← readColon input)
  .ok ((key, value) :: members, rest)

/-- A value is a scalar, or it is made of the values in it. -/
theorem readValue_eq_ok (hread : readValue depth input = .ok (value, left)) :
    readHead input = .ok (.scalar value, left) ∨
      ∃ below, depth = below + 1 ∧
        ((∃ rest items, readHead input = .ok (.array, rest) ∧
          readArray (readItem below) [] rest = .ok (items, left) ∧ value = .arr items.reverse) ∨
        ∃ rest members, readHead input = .ok (.object, rest) ∧
          readObject (readMember below) [] rest = .ok (members, left) ∧
          value = .obj members.reverse) := by
  cases depth with
  | zero =>
    obtain ⟨⟨head, rest⟩, hhead, hread⟩ := Outcome.bind_eq_ok.mp hread
    cases head with
    | scalar found =>
      cases hread
      exact Or.inl hhead
    | array => cases hread
    | object => cases hread
  | succ below =>
    rw [readValue] at hread
    obtain ⟨⟨head, rest⟩, hhead, hread⟩ := Outcome.bind_eq_ok.mp hread
    cases head with
    | scalar found =>
      cases hread
      exact Or.inl hhead
    | array =>
      obtain ⟨⟨items, after⟩, hitems, hread⟩ := Outcome.bind_eq_ok.mp hread
      cases hread
      exact Or.inr ⟨below, rfl, Or.inl ⟨rest, items, hhead, hitems, rfl⟩⟩
    | object =>
      obtain ⟨⟨members, after⟩, hmembers, hread⟩ := Outcome.bind_eq_ok.mp hread
      cases hread
      exact Or.inr ⟨below, rfl, Or.inr ⟨rest, members, hhead, hmembers, rfl⟩⟩

theorem readValue_array {rest : List Char} {items : List Json}
    (hhead : readHead input = .ok (.array, rest))
    (hitems : readArray (readItem depth) [] rest = .ok (items, left)) :
    readValue (depth + 1) input = .ok (.arr items.reverse, left) := by
  rw [readValue, hhead]
  exact Outcome.bind_eq_ok.mpr ⟨_, rfl, Outcome.bind_eq_ok.mpr ⟨_, hitems, rfl⟩⟩

theorem readValue_object {rest : List Char} {members : List (String × Json)}
    (hhead : readHead input = .ok (.object, rest))
    (hmembers : readObject (readMember depth) [] rest = .ok (members, left)) :
    readValue (depth + 1) input = .ok (.obj members.reverse, left) := by
  rw [readValue, hhead]
  exact Outcome.bind_eq_ok.mpr ⟨_, rfl, Outcome.bind_eq_ok.mpr ⟨_, hmembers, rfl⟩⟩

theorem readValue_succ (hread : readValue depth input = .ok (value, left)) :
    readValue (depth + 1) input = .ok (value, left) := by
  induction depth generalizing input value left with
  | zero =>
    rcases readValue_eq_ok hread with hhead | ⟨below, hbelow, -⟩
    · exact readValue_of_scalar _ hhead
    · cases hbelow
  | succ depth ih =>
    rcases readValue_eq_ok hread with hhead | ⟨below, hbelow, hread⟩
    · exact readValue_of_scalar _ hhead
    · cases hbelow
      rcases hread with ⟨rest, items, hhead, hitems, rfl⟩ | ⟨rest, members, hhead, hmembers, rfl⟩
      · obtain ⟨⟨found, after⟩, hfold, hclose⟩ := Outcome.bind_eq_ok.mp hitems
        refine readValue_array hhead (Outcome.bind_eq_ok.mpr ⟨_, foldItems_mono ?_ hfold, hclose⟩)
        intro state input result hstep
        obtain ⟨⟨value, rest⟩, hvalue, hresult⟩ := Outcome.bind_eq_ok.mp hstep
        exact Outcome.bind_eq_ok.mpr ⟨_, ih hvalue, hresult⟩
      · obtain ⟨⟨found, after⟩, hfold, hclose⟩ := Outcome.bind_eq_ok.mp hmembers
        refine readValue_object hhead
          (Outcome.bind_eq_ok.mpr ⟨_, foldMembers_mono ?_ hfold, hclose⟩)
        intro state key input result hstep
        obtain ⟨colon, hcolon, hstep⟩ := Outcome.bind_eq_ok.mp hstep
        obtain ⟨⟨value, rest⟩, hvalue, hresult⟩ := Outcome.bind_eq_ok.mp hstep
        exact Outcome.bind_eq_ok.mpr
          ⟨colon, hcolon, Outcome.bind_eq_ok.mpr ⟨_, ih hvalue, hresult⟩⟩

theorem readValue_mono {deeper : Nat} (hle : depth ≤ deeper)
    (hread : readValue depth input = .ok (value, left)) :
    readValue deeper input = .ok (value, left) := by
  induction hle with
  | refl => exact hread
  | step _ ih => exact readValue_succ ih

theorem Fits.succ (hfits : value.Fits depth) : value.Fits (depth + 1) := by
  induction depth generalizing value with
  | zero =>
    cases value with
    | arr items => cases hfits
    | obj members => cases hfits
    | _ => exact hfits
  | succ depth ih =>
    cases value with
    | arr items => exact fun item hitem => ih (hfits item hitem)
    | obj members => exact ⟨hfits.1, fun member hmember => ih (hfits.2 member hmember)⟩
    | _ => exact hfits

theorem Fits.mono {deeper : Nat} (hfits : value.Fits depth) (hle : depth ≤ deeper) :
    value.Fits deeper := by
  induction hle with
  | refl => exact hfits
  | step _ ih => exact ih.succ

/-- A value that a program may hold, of any depth. -/
def IsRegular (value : Json) : Prop :=
  ∃ depth, value.Fits depth

/-- The text of a steady value is read as that value or, where it is too deep, not at all. -/
theorem eq_of_parse_text {found : Json} (hregular : value.IsRegular) (hsteady : value.IsSteady)
    (hparse : Codec.free.parse value.text = .ok found) : found = value := by
  obtain ⟨depth, hfits⟩ := hregular
  have hwritten := readValue_write (hfits.mono (Nat.le_add_right depth maxDepth)) hsteady
    endsNumber_nil
  rw [List.append_nil] at hwritten
  obtain ⟨⟨kept, rest⟩, hread, hparse⟩ := Outcome.bind_eq_ok.mp hparse
  obtain ⟨⟨read, after⟩, hread, hkept⟩ := Outcome.bind_eq_ok.mp hread
  rw [text, String.toList_ofList] at hread
  have hdeeper := readValue_mono (Nat.le_add_left maxDepth depth) hread
  cases hdeeper.symm.trans hwritten
  cases hkept
  cases hparse
  exact canonical_of_fits hfits

/-! ### What is read fits -/

theorem significand_absorb (n : Numeral) (step : Int) (digits : List Char)
    (hn : n.significand ≤ largestWord) : (n.absorb step digits).1.significand ≤ largestWord := by
  induction digits generalizing n with
  | nil => exact hn
  | cons c digits ih =>
    rw [Numeral.absorb]
    split_ifs with hwider
    · exact ih _ hwider
    · exact hn

/-- A scalar of a number: a finite double, or an integer of one machine word. -/
def IsNumeric : Json → Prop
  | .int n => -9223372036854775808 ≤ n ∧ n ≤ 18446744073709551615
  | .real x => x.isFinite = true
  | _ => False

theorem isNumeric_toReal {n : Numeral} {negative : Bool}
    (hreal : n.toReal negative = .ok value) : value.IsNumeric := by
  rw [Numeral.toReal] at hreal
  split at hreal
  next hx =>
    cases hreal
    exact Double.isFinite_of_ofDecimal? hx
  next => cases hreal

theorem isNumeric_toInt {n : Numeral} {negative fits : Bool} (hn : n.significand ≤ largestWord)
    (hint : n.toInt negative fits = .ok value) : value.IsNumeric := by
  rw [largestWord] at hn
  rw [Numeral.toInt] at hint
  split_ifs at hint with hfits hpositive hsmall
  · exact isNumeric_toReal hint
  · cases hint
    exact ⟨by omega, by omega⟩
  · exact isNumeric_toReal hint
  · cases hint
    simp only [Bool.or_eq_true, decide_eq_true_eq, not_or] at hsmall
    exact ⟨by omega, by omega⟩

theorem isNumeric_readMagnitude {negative : Bool}
    (hread : readMagnitude negative input = .ok (value, left)) : value.IsNumeric := by
  rw [readMagnitude_eq] at hread
  obtain ⟨⟨digits, rest⟩, -, hread⟩ := Outcome.bind_eq_ok.mp hread
  change readWholeEnd negative digits rest = _ at hread
  have hword : (Numeral.ofWhole digits).1.significand ≤ largestWord :=
    significand_absorb ⟨0, 0⟩ 0 digits (Nat.zero_le _)
  have hexponent : ∀ {n : Numeral} {input : List Char}, (do
      let read ← readExponent input
      .ok (← (n.scale read.1).toReal negative, read.2)) = Except.ok (value, left) →
      value.IsNumeric := by
    intro n input hread
    obtain ⟨⟨exponent, after⟩, -, hread⟩ := Outcome.bind_eq_ok.mp hread
    obtain ⟨found, hfound, hread⟩ := Outcome.bind_eq_ok.mp hread
    cases hread
    exact isNumeric_toReal hfound
  have hwhole : ∀ {n : Numeral} {fits : Bool} {rest : List Char}, n.significand ≤ largestWord →
      (do .ok (← n.toInt negative fits, rest)) = Except.ok (value, left) → value.IsNumeric := by
    intro n fits rest hn hread
    obtain ⟨found, hfound, hread⟩ := Outcome.bind_eq_ok.mp hread
    cases hread
    exact isNumeric_toInt hn hfound
  unfold readWholeEnd at hread
  split at hread
  next => cases hread
  next =>
    cases rest with
    | nil => exact hwhole hword hread
    | cons c rest =>
      by_cases hpoint : c = '.'
      · subst hpoint
        rw [readScale_point] at hread
        obtain ⟨⟨digits, after⟩, -, hread⟩ := Outcome.bind_eq_ok.mp hread
        change readFractionEnd _ negative after = _ at hread
        have hreal : ∀ {n : Numeral} {rest : List Char},
            (do .ok (← n.toReal negative, rest)) = Except.ok (value, left) → value.IsNumeric := by
          intro n rest hread
          obtain ⟨found, hfound, hread⟩ := Outcome.bind_eq_ok.mp hread
          cases hread
          exact isNumeric_toReal hfound
        cases after with
        | nil => exact hreal hread
        | cons c after =>
          rw [readFractionEnd] at hread
          split_ifs at hread
          · exact hexponent hread
          · exact hreal hread
      · rw [readScale_other _ _ _ hpoint] at hread
        split_ifs at hread
        · exact hexponent hread
        · exact hwhole hword hread

/-- A scalar that a text can hold. -/
def IsScalar : Json → Prop
  | .int n => -9223372036854775808 ≤ n ∧ n ≤ 18446744073709551615
  | .real x => x.isFinite = true
  | .arr _ => False
  | .obj _ => False
  | _ => True

theorem IsNumeric.isScalar (hnumeric : value.IsNumeric) : value.IsScalar := by
  cases value <;> first | exact hnumeric | cases hnumeric

theorem IsScalar.fits (hscalar : value.IsScalar) (depth : Nat) : value.Fits depth := by
  cases value with
  | int n => cases depth <;> exact hscalar
  | arr items => cases hscalar
  | obj members => cases hscalar
  | _ => cases depth <;> trivial

theorem IsScalar.isFinite (hscalar : value.IsScalar) : value.IsFinite := by
  cases value with
  | real x => exact fun y hy => List.mem_singleton.mp hy ▸ hscalar
  | arr items => cases hscalar
  | obj members => cases hscalar
  | _ => exact fun x hx => nomatch hx

/-- How the text of a value begins, and what is left of it after that. -/
inductive Opens (left : List Char) : List Char → Head → Prop
  | null {rest : List Char} (hword : expectWord "ull".toList rest = .ok left) :
    Opens left ('n' :: rest) (.scalar .null)
  | flag {c : Char} {word : String} {rest : List Char} {flag : Bool}
    (hword : expectWord word.toList rest = .ok left) : Opens left (c :: rest) (.scalar (.bool flag))
  | text {rest : List Char} {text : String} (htext : readText rest = .ok (text, left)) :
    Opens left ('"' :: rest) (.scalar (.str text))
  | array : Opens left ('[' :: left) .array
  | object : Opens left ('\x7b' :: left) .object
  | number {negative : Bool} {input rest : List Char} {value : Json} (hsuffix : rest <:+ input)
    (hnumber : readMagnitude negative rest = .ok (value, left)) : Opens left input (.scalar value)

theorem opens_of_readHead {head : Head} (hread : readHead input = .ok (head, left)) :
    Opens left (skipSpace input) head := by
  unfold readHead at hread
  split at hread
  case h_1 => cases hread
  case h_2 hskip =>
    obtain ⟨after, hword, hhead⟩ := Outcome.bind_eq_ok.mp hread
    cases hhead
    rw [hskip]
    exact .null hword
  case h_3 hskip | h_4 hskip =>
    obtain ⟨after, hword, hhead⟩ := Outcome.bind_eq_ok.mp hread
    cases hhead
    rw [hskip]
    exact .flag hword
  case h_5 hskip =>
    obtain ⟨⟨text, rest⟩, htext, hhead⟩ := Outcome.bind_eq_ok.mp hread
    cases hhead
    rw [hskip]
    exact .text htext
  case h_6 hskip =>
    cases hread
    rw [hskip]
    exact .array
  case h_7 hskip =>
    cases hread
    rw [hskip]
    exact .object
  case h_8 hskip =>
    obtain ⟨⟨found, rest⟩, hnumber, hhead⟩ := Outcome.bind_eq_ok.mp hread
    cases hhead
    rw [hskip]
    exact .number (List.suffix_cons _ _) hnumber
  case h_9 hskip =>
    split_ifs at hread
    · obtain ⟨⟨found, rest⟩, hnumber, hhead⟩ := Outcome.bind_eq_ok.mp hread
      cases hhead
      rw [hskip]
      exact .number (List.suffix_refl _) hnumber
    · cases hread

theorem isScalar_of_readHead (hread : readHead input = .ok (.scalar value, left)) :
    value.IsScalar := by
  have hopens := opens_of_readHead hread
  generalize skipSpace input = start at hopens
  cases hopens with
  | null => trivial
  | flag => trivial
  | text => trivial
  | number hsuffix hnumber => exact (isNumeric_readMagnitude hnumber).isScalar

theorem mem_insertMember {key : String} {members : List (String × Json)} {member : String × Json}
    (hmem : member ∈ insertMember key value members) : member = (key, value) ∨ member ∈ members := by
  induction members with
  | nil => exact Or.inl (List.mem_singleton.mp hmem)
  | cons first rest ih =>
    obtain ⟨other, held⟩ := first
    rw [insertMember] at hmem
    split_ifs at hmem with hless hsame
    · exact List.mem_cons.mp hmem
    · exact (List.mem_cons.mp hmem).imp_right (List.mem_cons_of_mem _)
    · rcases List.mem_cons.mp hmem with rfl | hmem
      · exact Or.inr List.mem_cons_self
      · exact (ih hmem).imp_right (List.mem_cons_of_mem _)

theorem pairwise_insertMember (key : String) (value : Json) {members : List (String × Json)}
    (hsorted : members.Pairwise fun first second => first.1 < second.1) :
    (insertMember key value members).Pairwise fun first second => first.1 < second.1 := by
  induction members with
  | nil => exact List.pairwise_singleton _ _
  | cons first rest ih =>
    obtain ⟨other, held⟩ := first
    obtain ⟨habove, hrest⟩ := List.pairwise_cons.mp hsorted
    rw [insertMember]
    split_ifs with hless hsame
    · refine List.pairwise_cons.mpr ⟨fun member hmember => ?_, hsorted⟩
      rcases List.mem_cons.mp hmember with rfl | hmember
      · exact hless
      · exact String.lt_trans hless (habove member hmember)
    · exact List.pairwise_cons.mpr ⟨fun member hmember => hsame ▸ habove member hmember, hrest⟩
    · refine List.pairwise_cons.mpr ⟨fun member hmember => ?_, ih hrest⟩
      rcases mem_insertMember hmember with rfl | hmember
      · exact Std.lt_of_le_of_ne (String.not_lt.mp hless) (Ne.symm hsame)
      · exact habove member hmember

theorem sortMembers_spec (members : List (String × Json)) :
    (sortMembers members).Pairwise (fun first second => first.1 < second.1) ∧
      ∀ member ∈ sortMembers members, member ∈ members := by
  have hfold : ∀ (rest sorted : List (String × Json)),
      sorted.Pairwise (fun first second => first.1 < second.1) →
      (rest.foldl (fun sorted member => insertMember member.1 member.2 sorted) sorted).Pairwise
          (fun first second => first.1 < second.1) ∧
        ∀ member ∈ rest.foldl (fun sorted member => insertMember member.1 member.2 sorted) sorted,
          member ∈ sorted ∨ member ∈ rest := by
    intro rest
    induction rest with
    | nil => exact fun sorted hsorted => ⟨hsorted, fun member hmember => Or.inl hmember⟩
    | cons first rest ih =>
      intro sorted hsorted
      obtain ⟨hpairwise, hmem⟩ := ih _ (pairwise_insertMember first.1 first.2 hsorted)
      refine ⟨hpairwise, fun member hmember => ?_⟩
      rcases hmem member hmember with hmember | hmember
      · rcases mem_insertMember hmember with rfl | hmember
        · exact Or.inr List.mem_cons_self
        · exact Or.inl hmember
      · exact Or.inr (List.mem_cons_of_mem _ hmember)
  obtain ⟨hpairwise, hmem⟩ := hfold members [] List.Pairwise.nil
  exact ⟨hpairwise, fun member hmember => (hmem member hmember).resolve_left List.not_mem_nil⟩

theorem mem_canonicalItems {items : List Json} {item : Json} (hmem : item ∈ canonicalItems items) :
    ∃ original ∈ items, original.canonical = item := by
  induction items with
  | nil => cases hmem
  | cons first rest ih =>
    rw [canonicalItems] at hmem
    rcases List.mem_cons.mp hmem with rfl | hmem
    · exact ⟨first, List.mem_cons_self, rfl⟩
    · obtain ⟨original, horiginal, heq⟩ := ih hmem
      exact ⟨original, List.mem_cons_of_mem _ horiginal, heq⟩

theorem mem_canonicalMembers {members : List (String × Json)} {member : String × Json}
    (hmem : member ∈ canonicalMembers members) :
    ∃ original ∈ members, original.2.canonical = member.2 := by
  induction members with
  | nil => cases hmem
  | cons first rest ih =>
    obtain ⟨key, value⟩ := first
    rw [canonicalMembers] at hmem
    rcases List.mem_cons.mp hmem with rfl | hmem
    · exact ⟨(key, value), List.mem_cons_self, rfl⟩
    · obtain ⟨original, horiginal, heq⟩ := ih hmem
      exact ⟨original, List.mem_cons_of_mem _ horiginal, heq⟩

/-- What holds of scalars, and of arrays and sorted objects one level above what it holds of, holds of
what is kept of a value. -/
theorem canonical_invariant {holds : Nat → Json → Prop}
    (hscalar : ∀ depth value, value.IsScalar → holds depth value)
    (harr : ∀ depth items, (∀ item ∈ items, holds depth item) → holds (depth + 1) (.arr items))
    (hobj : ∀ depth members, members.Pairwise (fun first second => first.1 < second.1) →
      (∀ member ∈ members, holds depth member.2) → holds (depth + 1) (.obj members))
    (hread : readValue depth input = .ok (value, left)) : holds depth value.canonical := by
  have hhead : ∀ {depth : Nat} {input left : List Char} {value : Json},
      readHead input = .ok (.scalar value, left) → holds depth value.canonical := by
    intro depth input left value hhead
    have hvalue := isScalar_of_readHead hhead
    rw [canonical_of_fits (hvalue.fits 0)]
    exact hscalar depth value hvalue
  induction depth generalizing input value left with
  | zero =>
    rcases readValue_eq_ok hread with hscalar | ⟨below, hbelow, -⟩
    · exact hhead hscalar
    · cases hbelow
  | succ depth ih =>
    rcases readValue_eq_ok hread with hscalar | ⟨below, hbelow, hread⟩
    · exact hhead hscalar
    · cases hbelow
      rcases hread with ⟨rest, items, -, hitems, rfl⟩ | ⟨rest, members, -, hmembers, rfl⟩
      · obtain ⟨⟨found, after⟩, hfold, hclose⟩ := Outcome.bind_eq_ok.mp hitems
        obtain ⟨_, -, hclose⟩ := Outcome.bind_eq_ok.mp hclose
        cases hclose
        have hall : ∀ item ∈ items, holds depth item.canonical := by
          refine foldItems_invariant (fun items => ∀ item ∈ items, holds depth item.canonical) ?_
            (List.forall_mem_nil _) hfold
          intro state input after rest hstate hstep
          obtain ⟨⟨value, left⟩, hvalue, hstep⟩ := Outcome.bind_eq_ok.mp hstep
          cases hstep
          exact List.forall_mem_cons.mpr ⟨ih hvalue, hstate⟩
        refine harr depth _ fun item hitem => ?_
        obtain ⟨original, horiginal, rfl⟩ := mem_canonicalItems hitem
        exact hall original (List.mem_reverse.mp horiginal)
      · obtain ⟨⟨found, after⟩, hfold, hclose⟩ := Outcome.bind_eq_ok.mp hmembers
        obtain ⟨_, -, hclose⟩ := Outcome.bind_eq_ok.mp hclose
        cases hclose
        have hall : ∀ member ∈ members, holds depth member.2.canonical := by
          refine foldMembers_invariant
            (fun members => ∀ member ∈ members, holds depth member.2.canonical) ?_
            (List.forall_mem_nil _) hfold
          intro state key input after rest hstate hstep
          obtain ⟨colon, -, hstep⟩ := Outcome.bind_eq_ok.mp hstep
          obtain ⟨⟨value, left⟩, hvalue, hstep⟩ := Outcome.bind_eq_ok.mp hstep
          cases hstep
          exact List.forall_mem_cons.mpr ⟨ih hvalue, hstate⟩
        obtain ⟨hsorted, hmem⟩ := sortMembers_spec (canonicalMembers members.reverse)
        refine hobj depth _ hsorted fun member hmember => ?_
        obtain ⟨original, horiginal, heq⟩ := mem_canonicalMembers (hmem member hmember)
        rw [← heq]
        exact hall original (List.mem_reverse.mp horiginal)

theorem fits_canonical (hread : readValue depth input = .ok (value, left)) :
    value.canonical.Fits depth :=
  @canonical_invariant _ _ _ _ (fun depth value => value.Fits depth)
    (fun depth _ hvalue => hvalue.fits depth) (fun _ _ hitems => hitems)
    (fun _ _ hsorted hmembers => ⟨hsorted, hmembers⟩) hread

theorem isFinite_canonical (hread : readValue depth input = .ok (value, left)) :
    value.canonical.IsFinite :=
  @canonical_invariant _ _ _ _ (fun _ value => value.IsFinite) (fun _ _ hvalue => hvalue.isFinite)
    (fun _ _ hitems => isFinite_arr hitems) (fun _ _ _ hmembers => isFinite_obj hmembers) hread

end KnowledgeSchema.Json
