import KnowledgeSchema.Proofs.Json.Depth
import KnowledgeSchema.Proofs.Json.Nesting

/-!
# Walks step by step

What it means that the walk over the items of an array or the members of an object succeeds: each of
its steps does, up to the closing bracket or brace.

What a reader leaves of a text is the end of that text. So a walk over items comes to its end within
the length of the text.
-/

namespace KnowledgeSchema.Json

variable {depth : Nat} {input left : List Char}

section

variable {σ : Type} {fuel : Nat} {first : Bool} {state after : σ}

theorem foldItems_succ {step : σ → Reader σ} :
    foldItems step (fuel + 1) first state input = .ok (after, left) ↔
      (nextItem first input = .ok none ∧ state = after ∧ input = left) ∨
        ∃ rest between next, nextItem first input = .ok (some rest) ∧
          step state rest = .ok (between, next) ∧
          foldItems step fuel false between next = .ok (after, left) := by
  rw [foldItems, Outcome.bind_eq_ok]
  constructor
  · rintro ⟨_ | rest, hnext, hfold⟩
    · cases hfold
      exact Or.inl ⟨hnext, rfl, rfl⟩
    · obtain ⟨⟨between, next⟩, hstep, hfold⟩ := Outcome.bind_eq_ok.mp hfold
      exact Or.inr ⟨rest, between, next, hnext, hstep, hfold⟩
  · rintro (⟨hnext, rfl, rfl⟩ | ⟨rest, between, next, hnext, hstep, hfold⟩)
    · exact ⟨none, hnext, rfl⟩
    · exact ⟨some rest, hnext, Outcome.bind_eq_ok.mpr ⟨(between, next), hstep, hfold⟩⟩

theorem foldMembers_succ {step : σ → String → Reader σ} :
    foldMembers step (fuel + 1) first state input = .ok (after, left) ↔
      (nextKey first input = .ok none ∧ state = after ∧ input = left) ∨
        ∃ key rest between next, nextKey first input = .ok (some (key, rest)) ∧
          step state key rest = .ok (between, next) ∧
          foldMembers step fuel false between next = .ok (after, left) := by
  rw [foldMembers, Outcome.bind_eq_ok]
  constructor
  · rintro ⟨_ | ⟨key, rest⟩, hnext, hfold⟩
    · cases hfold
      exact Or.inl ⟨hnext, rfl, rfl⟩
    · obtain ⟨⟨between, next⟩, hstep, hfold⟩ := Outcome.bind_eq_ok.mp hfold
      exact Or.inr ⟨key, rest, between, next, hnext, hstep, hfold⟩
  · rintro (⟨hnext, rfl, rfl⟩ | ⟨key, rest, between, next, hnext, hstep, hfold⟩)
    · exact ⟨none, hnext, rfl⟩
    · exact ⟨some (key, rest), hnext, Outcome.bind_eq_ok.mpr ⟨(between, next), hstep, hfold⟩⟩

theorem readArray_eq_ok {step : σ → Reader σ} :
    readArray step state input = .ok (after, left) ↔
      ∃ rest, foldItems step (input.length + 1) true state input = .ok (after, rest) ∧
        closeArray rest = .ok left := by
  rw [readArray, Outcome.bind_eq_ok]
  constructor
  · rintro ⟨⟨found, rest⟩, hfold, hclose⟩
    obtain ⟨closed, hclosed, hfound⟩ := Outcome.bind_eq_ok.mp hclose
    cases hfound
    exact ⟨rest, hfold, hclosed⟩
  · rintro ⟨rest, hfold, hclosed⟩
    exact ⟨(after, rest), hfold, Outcome.bind_eq_ok.mpr ⟨left, hclosed, rfl⟩⟩

theorem readObject_eq_ok {step : σ → String → Reader σ} :
    readObject step state input = .ok (after, left) ↔
      ∃ rest, foldMembers step (input.length + 1) true state input = .ok (after, rest) ∧
        closeObject rest = .ok left := by
  rw [readObject, Outcome.bind_eq_ok]
  constructor
  · rintro ⟨⟨found, rest⟩, hfold, hclose⟩
    obtain ⟨closed, hclosed, hfound⟩ := Outcome.bind_eq_ok.mp hclose
    cases hfound
    exact ⟨rest, hfold, hclosed⟩
  · rintro ⟨rest, hfold, hclosed⟩
    exact ⟨(after, rest), hfold, Outcome.bind_eq_ok.mpr ⟨left, hclosed, rfl⟩⟩

end

theorem readItem_eq_ok {items after : List Json} :
    readItem depth items input = .ok (after, left) ↔
      ∃ tree, readValue depth input = .ok (tree, left) ∧ tree :: items = after := by
  rw [readItem, Outcome.bind_eq_ok]
  constructor
  · rintro ⟨⟨tree, rest⟩, htree, hafter⟩
    cases hafter
    exact ⟨tree, htree, rfl⟩
  · rintro ⟨tree, htree, rfl⟩
    exact ⟨(tree, left), htree, rfl⟩

theorem readMember_eq_ok {members after : List (String × Json)} {key : String} :
    readMember depth members key input = .ok (after, left) ↔
      ∃ rest tree, readColon input = .ok rest ∧ readValue depth rest = .ok (tree, left) ∧
        (key, tree) :: members = after := by
  simp only [readMember, Outcome.bind_eq_ok]
  constructor
  · rintro ⟨rest, hcolon, ⟨tree, _⟩, htree, hafter⟩
    cases hafter
    exact ⟨rest, tree, hcolon, htree, rfl⟩
  · rintro ⟨rest, tree, hcolon, htree, rfl⟩
    exact ⟨rest, hcolon, (tree, left), htree, rfl⟩

/-! ### Heads and keys -/

/-- A string is read from its quotation mark on. -/
theorem exists_quote_of_readHead {text : String}
    (hread : readHead input = .ok (.scalar (.str text), left)) :
    ∃ rest, skipSpace input = '"' :: rest ∧ readText rest = .ok (text, left) := by
  have hopens := opens_of_readHead hread
  generalize skipSpace input = start at hopens ⊢
  cases hopens with
  | text htext => exact ⟨_, rfl, htext⟩
  | number hsuffix hnumber => exact absurd (isNumeric_readMagnitude hnumber) id

theorem skipSpace_of_readHead (hread : readHead input = .ok (.object, left)) :
    skipSpace input = '\x7b' :: left := by
  have hopens := opens_of_readHead hread
  generalize skipSpace input = start at hopens ⊢
  cases hopens with
  | object => rfl

theorem readHead_quote {rest : List Char} {text : String} (hskip : skipSpace input = '"' :: rest)
    (htext : readText rest = .ok (text, left)) :
    readHead input = .ok (.scalar (.str text), left) := by
  rw [readHead, hskip]
  exact Outcome.bind_eq_ok.mpr ⟨_, htext, rfl⟩

theorem readHead_brace (hskip : skipSpace input = '\x7b' :: left) :
    readHead input = .ok (.object, left) := by
  rw [readHead, hskip]
  rfl

theorem nextKey_first {rest : List Char} {key : String} (hskip : skipSpace input = '"' :: rest)
    (htext : readText rest = .ok (key, left)) : nextKey true input = .ok (some (key, left)) := by
  rw [nextKey, hskip]
  exact Outcome.bind_eq_ok.mpr ⟨_, htext, rfl⟩

/-- The first key of an object is read from its quotation mark on. -/
theorem nextKey_eq_some {key : String} (hkey : nextKey true input = .ok (some (key, left))) :
    ∃ rest, skipSpace input = '"' :: rest ∧ readText rest = .ok (key, left) := by
  unfold nextKey at hkey
  split at hkey
  · cases hkey
  · cases hkey
  next c rest _ hskip =>
    rw [if_pos rfl] at hkey
    split_ifs at hkey with hquote
    · obtain ⟨⟨text, after⟩, htext, hfound⟩ := Outcome.bind_eq_ok.mp hkey
      cases hfound
      rw [hquote] at hskip
      exact ⟨rest, hskip, htext⟩
    · cases hkey

theorem nextKey_brace {rest : List Char} (first : Bool) (hskip : skipSpace input = '\x7d' :: rest) :
    nextKey first input = .ok none := by
  rw [nextKey, hskip]
  rfl

theorem closeObject_brace (hskip : skipSpace input = '\x7d' :: left) :
    closeObject input = .ok left := by
  rw [closeObject, hskip]
  rfl

theorem skipSpace_of_closeObject (hclose : closeObject input = .ok left) :
    skipSpace input = '\x7d' :: left := by
  unfold closeObject at hclose
  split at hclose
  · cases hclose
  next hskip =>
    cases hclose
    exact hskip
  · cases hclose
  · cases hclose

/-! ### What is gathered -/

theorem items_suffix_of_foldItems {fuel : Nat} {first : Bool} {items all : List Json}
    (hfold : foldItems (readItem depth) fuel first items input = .ok (all, left)) :
    items <:+ all := by
  refine foldItems_invariant (fun found => items <:+ found) ?_ (List.suffix_refl items) hfold
  intro state input after rest hstate hstep
  obtain ⟨tree, -, rfl⟩ := readItem_eq_ok.mp hstep
  exact hstate.trans (List.suffix_cons _ _)

theorem members_suffix_of_foldMembers {fuel : Nat} {first : Bool}
    {members all : List (String × Json)}
    (hfold : foldMembers (readMember depth) fuel first members input = .ok (all, left)) :
    members <:+ all := by
  refine foldMembers_invariant (fun found => members <:+ found) ?_ (List.suffix_refl members) hfold
  intro state key input after rest hstate hstep
  obtain ⟨_, tree, -, -, rfl⟩ := readMember_eq_ok.mp hstep
  exact hstate.trans (List.suffix_cons _ _)

/-! ### Objects with one member -/

theorem readObject_single {rest after final : List Char} {key : String} {tree : Json}
    (hkey : nextKey true input = .ok (some (key, rest))) (hcolon : readColon rest = .ok after)
    (htree : readValue depth after = .ok (tree, final)) (hskip : skipSpace final = '\x7d' :: left) :
    readObject (readMember depth) [] input = .ok ([(key, tree)], left) := by
  have hmember : readMember depth [] key rest = .ok ([(key, tree)], final) :=
    readMember_eq_ok.mpr ⟨after, tree, hcolon, htree, rfl⟩
  have hlength : ∃ fuel, input.length = fuel + 1 := by
    cases input with
    | nil => cases hkey
    | cons c input => exact ⟨input.length, rfl⟩
  obtain ⟨fuel, hfuel⟩ := hlength
  have hlast : foldMembers (readMember depth) (fuel + 1) false [(key, tree)] final =
      .ok ([(key, tree)], final) :=
    foldMembers_succ.mpr (Or.inl ⟨nextKey_brace false hskip, rfl, rfl⟩)
  refine readObject_eq_ok.mpr ⟨final, ?_, closeObject_brace hskip⟩
  rw [hfuel]
  exact foldMembers_succ.mpr (Or.inr ⟨key, rest, _, final, hkey, hmember, hlast⟩)

theorem readObject_eq_single {key : String} {tree : Json}
    (hread : readObject (readMember depth) [] input = .ok ([(key, tree)], left)) :
    ∃ rest after final, nextKey true input = .ok (some (key, rest)) ∧ readColon rest = .ok after ∧
      readValue depth after = .ok (tree, final) ∧ skipSpace final = '\x7d' :: left := by
  obtain ⟨final, hfold, hclose⟩ := readObject_eq_ok.mp hread
  rcases foldMembers_succ.mp hfold with
    ⟨-, hnil, -⟩ | ⟨other, rest, between, next, hkey, hstep, hfold⟩
  · cases hnil
  · obtain ⟨after, found, hcolon, hfound, rfl⟩ := readMember_eq_ok.mp hstep
    have hsuffix := members_suffix_of_foldMembers hfold
    cases (List.suffix_cons_iff.mp hsuffix).resolve_right (by simp)
    cases hlength : input.length with
    | zero =>
      rw [hlength] at hfold
      cases hfold
    | succ fuel =>
      rw [hlength] at hfold
      rcases foldMembers_succ.mp hfold with ⟨-, -, rfl⟩ | ⟨last, _, between, _, -, hstep, hmore⟩
      · exact ⟨rest, after, next, hkey, hcolon, hfound, skipSpace_of_closeObject hclose⟩
      · obtain ⟨_, other, -, -, rfl⟩ := readMember_eq_ok.mp hstep
        have hlonger := (members_suffix_of_foldMembers hmore).length_le
        simp at hlonger

/-! ### What readers leave -/

variable {rest : List Char} {value : Json}

theorem suffix_skipSpace (input : List Char) : skipSpace input <:+ input :=
  List.dropWhile_suffix _

theorem suffix_of_skipSpace {c : Char} (hskip : skipSpace input = c :: rest) : rest <:+ input := by
  have hsuffix := suffix_skipSpace input
  rw [hskip] at hsuffix
  exact (List.suffix_cons c rest).trans hsuffix

/-! ### Scalars -/

theorem suffix_of_expectWord {word : List Char} (hread : expectWord word input = .ok left) :
    left <:+ input := by
  induction word generalizing input with
  | nil =>
    cases hread
    exact List.suffix_refl _
  | cons letter word ih =>
    cases input with
    | nil => cases hread
    | cons c input =>
      rw [expectWord] at hread
      split_ifs at hread
      · exact (ih hread).trans (List.suffix_cons _ _)
      · cases hread

theorem suffix_of_readHex4 {n : Nat} (hread : readHex4 input = .ok (n, left)) : left <:+ input := by
  unfold readHex4 at hread
  split at hread
  next a b c d rest =>
    split at hread
    · cases hread
      exact ⟨[a, b, c, d], rfl⟩
    · cases hread
  next => split_ifs at hread <;> cases hread

theorem suffix_of_readLowSurrogate {high : Nat} {c : Char}
    (hread : readLowSurrogate high input = .ok (c, left)) : left <:+ input := by
  unfold readLowSurrogate at hread
  split at hread
  · cases hread
  · cases hread
  next rest =>
    obtain ⟨⟨low, after⟩, hlow, hread⟩ := Outcome.bind_eq_ok.mp hread
    dsimp only at hread
    split_ifs at hread
    · obtain ⟨-, rfl⟩ := Prod.mk.inj (Except.ok.inj hread)
      have hescape := (List.suffix_cons 'u' rest).trans (List.suffix_cons '\\' _)
      exact (suffix_of_readHex4 hlow).trans hescape
    · cases hread
  · cases hread

theorem suffix_of_readEscape {c : Char} (hread : readEscape input = .ok (c, left)) :
    left <:+ input := by
  unfold readEscape at hread
  split at hread
  case h_1 => cases hread
  case h_10 rest =>
    obtain ⟨⟨code, after⟩, hcode, hread⟩ := Outcome.bind_eq_ok.mp hread
    have hafter := (suffix_of_readHex4 hcode).trans (List.suffix_cons 'u' rest)
    dsimp only at hread
    split_ifs at hread
    · cases hread
    · exact (suffix_of_readLowSurrogate hread).trans hafter
    · cases hread
      exact hafter
  case h_11 => cases hread
  all_goals
    cases hread
    exact List.suffix_cons _ _

theorem suffix_of_readChars {fuel : Nat} {text : List Char}
    (hread : readChars fuel input = .ok (text, left)) : left <:+ input := by
  induction fuel generalizing input text with
  | zero => cases hread
  | succ fuel ih =>
    cases input with
    | nil => cases hread
    | cons c input =>
      rw [readChars] at hread
      split_ifs at hread
      · cases hread
        exact List.suffix_cons _ _
      · obtain ⟨⟨escaped, after⟩, hescape, hread⟩ := Outcome.bind_eq_ok.mp hread
        obtain ⟨⟨more, last⟩, hmore, hread⟩ := Outcome.bind_eq_ok.mp hread
        cases hread
        exact ((ih hmore).trans (suffix_of_readEscape hescape)).trans (List.suffix_cons _ _)
      · cases hread
      · obtain ⟨⟨more, last⟩, hmore, hread⟩ := Outcome.bind_eq_ok.mp hread
        cases hread
        exact (ih hmore).trans (List.suffix_cons _ _)

theorem suffix_of_readText {text : String} (hread : readText input = .ok (text, left)) :
    left <:+ input := by
  obtain ⟨⟨chars, after⟩, hchars, hread⟩ := Outcome.bind_eq_ok.mp hread
  cases hread
  exact suffix_of_readChars hchars

theorem suffix_of_readMagnitude {negative : Bool}
    (hread : readMagnitude negative input = .ok (value, left)) : left <:+ input := by
  obtain ⟨used, rfl, -⟩ := takes_readMagnitude hread
  exact List.suffix_append used left

theorem suffix_of_readHead {head : Head} (hread : readHead input = .ok (head, left)) :
    left <:+ input := by
  refine List.IsSuffix.trans ?_ (suffix_skipSpace input)
  have hopens := opens_of_readHead hread
  generalize skipSpace input = start at hopens ⊢
  cases hopens with
  | null hword | flag hword => exact (suffix_of_expectWord hword).trans (List.suffix_cons _ _)
  | text htext => exact (suffix_of_readText htext).trans (List.suffix_cons _ _)
  | array => exact List.suffix_cons _ _
  | object => exact List.suffix_cons _ _
  | number hsuffix hnumber => exact (suffix_of_readMagnitude hnumber).trans hsuffix

/-! ### Steps of walks -/

theorem suffix_of_nextItem {first : Bool} (hnext : nextItem first input = .ok (some rest)) :
    rest <:+ input ∧ (first = false → rest.length < input.length) := by
  have hskipped := suffix_skipSpace input
  unfold nextItem at hnext
  split at hnext
  · cases hnext
  · cases hnext
  next c after _ hskip =>
    rw [hskip] at hskipped
    split_ifs at hnext with hfirst hcomma
    · cases hnext
      exact ⟨hskipped, fun hnot => absurd hfirst (by rw [hnot]; decide)⟩
    · have hafter := (List.suffix_cons c after).trans hskipped
      have hlength := hskipped.length_le
      rw [List.length_cons] at hlength
      split at hnext
      · cases hnext
      · cases hnext
      next =>
        cases hnext
        have hmore := suffix_skipSpace after
        exact ⟨hmore.trans hafter, fun _ => hmore.length_le.trans_lt hlength⟩
    · cases hnext

theorem suffix_of_nextKey {first : Bool} {key : String}
    (hnext : nextKey first input = .ok (some (key, rest))) : rest <:+ input := by
  unfold nextKey at hnext
  split at hnext
  · cases hnext
  · cases hnext
  next c after _ hskip =>
    have hafter := suffix_of_skipSpace hskip
    split_ifs at hnext
    · obtain ⟨found, htext, hfound⟩ := Outcome.bind_eq_ok.mp hnext
      cases hfound
      exact (suffix_of_readText htext).trans hafter
    · cases hnext
    · split at hnext
      · cases hnext
      next more hmore =>
        obtain ⟨found, htext, hfound⟩ := Outcome.bind_eq_ok.mp hnext
        cases hfound
        exact ((suffix_of_readText htext).trans (suffix_of_skipSpace hmore)).trans hafter
      · cases hnext
      · cases hnext
    · cases hnext

theorem suffix_of_readColon (hread : readColon input = .ok left) : left <:+ input := by
  unfold readColon at hread
  split at hread
  · cases hread
  next hskip =>
    cases hread
    exact suffix_of_skipSpace hskip
  · cases hread

theorem skipSpace_of_closeArray (hclose : closeArray input = .ok left) :
    skipSpace input = ']' :: left := by
  unfold closeArray at hclose
  split at hclose
  · cases hclose
  next hskip =>
    cases hclose
    exact hskip
  · split at hclose <;> cases hclose
  · cases hclose

/-! ### Values -/

theorem suffix_of_foldItems {σ : Type} {step : σ → Reader σ}
    (hstep : ∀ {state input after rest}, step state input = .ok (after, rest) → rest <:+ input)
    {fuel : Nat} {first : Bool} {state after : σ}
    (hfold : foldItems step fuel first state input = .ok (after, left)) : left <:+ input := by
  induction fuel generalizing first state input with
  | zero => cases hfold
  | succ fuel ih =>
    rcases foldItems_succ.mp hfold with ⟨-, -, rfl⟩ | ⟨rest, between, next, hnext, hread, hfold⟩
    · exact List.suffix_refl _
    · exact ((ih hfold).trans (hstep hread)).trans (suffix_of_nextItem hnext).1

theorem suffix_of_foldMembers {σ : Type} {step : σ → String → Reader σ}
    (hstep : ∀ {state key input after rest}, step state key input = .ok (after, rest) →
      rest <:+ input)
    {fuel : Nat} {first : Bool} {state after : σ}
    (hfold : foldMembers step fuel first state input = .ok (after, left)) : left <:+ input := by
  induction fuel generalizing first state input with
  | zero => cases hfold
  | succ fuel ih =>
    rcases foldMembers_succ.mp hfold with
      ⟨-, -, rfl⟩ | ⟨key, rest, between, next, hnext, hread, hfold⟩
    · exact List.suffix_refl _
    · exact ((ih hfold).trans (hstep hread)).trans (suffix_of_nextKey hnext)

/-- What is left after a value is the end of the text. -/
theorem suffix_of_readValue (hread : readValue depth input = .ok (value, left)) :
    left <:+ input := by
  induction depth generalizing input value left with
  | zero =>
    rcases readValue_eq_ok hread with hhead | ⟨_, hbelow, -⟩
    · exact suffix_of_readHead hhead
    · cases hbelow
  | succ depth ih =>
    rcases readValue_eq_ok hread with hhead | ⟨below, hbelow, hparts⟩
    · exact suffix_of_readHead hhead
    · cases hbelow
      rcases hparts with ⟨rest, items, hhead, harray, -⟩ | ⟨rest, members, hhead, hobject, -⟩
      · obtain ⟨last, hfold, hclose⟩ := readArray_eq_ok.mp harray
        have hitems := suffix_of_foldItems (fun hstep => by
          obtain ⟨tree, htree, -⟩ := readItem_eq_ok.mp hstep
          exact ih htree) hfold
        have hclosed := suffix_of_skipSpace (skipSpace_of_closeArray hclose)
        exact (hclosed.trans hitems).trans (suffix_of_readHead hhead)
      · obtain ⟨last, hfold, hclose⟩ := readObject_eq_ok.mp hobject
        have hmembers := suffix_of_foldMembers (fun hstep => by
          obtain ⟨after, tree, hcolon, htree, -⟩ := readMember_eq_ok.mp hstep
          exact (ih htree).trans (suffix_of_readColon hcolon)) hfold
        have hclosed := suffix_of_skipSpace (skipSpace_of_closeObject hclose)
        exact (hclosed.trans hmembers).trans (suffix_of_readHead hhead)

end KnowledgeSchema.Json
