import KnowledgeSchema.Proofs.Json.Rereading

/-!
# What is read of written values

A double may be read as another one than it was written for, and where one is read as none at all
nothing is read of the whole text. But whatever is read of a written value is laid out as that value
is. So it goes no deeper, and it is null only where null was written.
-/

namespace KnowledgeSchema.Json

variable {input left rest digits : List Char} {value : Json} {depth : Nat}

/-! ### What a number takes of a text -/

/-- A character that a number may be read from. -/
def isNumberPart (c : Char) : Bool :=
  isNumberChar c || c == 'E'

/-- What is left of a text when some characters of a number are taken from its front. -/
def Takes (input left : List Char) : Prop :=
  ∃ used, input = used ++ left ∧ ∀ c ∈ used, isNumberPart c = true

theorem isNumberPart_of_isDigit {c : Char} (hc : isDigit c = true) : isNumberPart c = true := by
  rw [isNumberPart, Double.isNumberChar_of_isDigit hc, Bool.true_or]

theorem isNumberPart_of_isExponentMark {c : Char} (hc : isExponentMark c = true) :
    isNumberPart c = true := by
  simp only [isExponentMark, Bool.or_eq_true, beq_iff_eq] at hc
  rcases hc with rfl | rfl <;> decide

theorem Takes.refl (input : List Char) : Takes input input :=
  ⟨[], rfl, nofun⟩

theorem Takes.cons {c : Char} (htakes : Takes input left) (hc : isNumberPart c = true) :
    Takes (c :: input) left := by
  obtain ⟨used, rfl, hused⟩ := htakes
  exact ⟨c :: used, rfl, List.forall_mem_cons.mpr ⟨hc, hused⟩⟩

theorem Takes.trans (hfirst : Takes input rest) (hnext : Takes rest left) : Takes input left := by
  obtain ⟨used, rfl, hused⟩ := hfirst
  obtain ⟨more, rfl, hmore⟩ := hnext
  exact ⟨used ++ more, (List.append_assoc _ _ _).symm, List.forall_mem_append.mpr ⟨hused, hmore⟩⟩

theorem takes_readDigits (hread : readDigits input = .ok (digits, left)) : Takes input left := by
  obtain ⟨rfl, -, hdigits, -⟩ := readDigits_eq_ok hread
  exact ⟨digits, rfl, fun c hc => isNumberPart_of_isDigit (hdigits c hc)⟩

theorem takes_readExponent {exponent : Int} (hread : readExponent input = .ok (exponent, left)) :
    Takes input left := by
  unfold readExponent at hread
  split at hread <;> obtain ⟨⟨digits, after⟩, hdigits, hread⟩ := Outcome.bind_eq_ok.mp hread <;>
    cases hread
  · exact (takes_readDigits hdigits).cons (by decide)
  · exact (takes_readDigits hdigits).cons (by decide)
  · exact takes_readDigits hdigits

theorem takes_readMagnitude {negative : Bool}
    (hread : readMagnitude negative input = .ok (value, left)) : Takes input left := by
  have hexponent : ∀ {n : Numeral} {input : List Char}, (do
      let read ← readExponent input
      .ok (← (n.scale read.1).toReal negative, read.2)) = Except.ok (value, left) →
      Takes input left := by
    intro n input hread
    obtain ⟨⟨exponent, after⟩, htaken, hread⟩ := Outcome.bind_eq_ok.mp hread
    obtain ⟨found, -, hread⟩ := Outcome.bind_eq_ok.mp hread
    cases hread
    exact takes_readExponent htaken
  have hend : ∀ {found : Except Flaw Json} {rest : List Char},
      (do .ok (← found, rest)) = Except.ok (value, left) → Takes rest left := by
    intro found rest hread
    obtain ⟨_, -, hread⟩ := Outcome.bind_eq_ok.mp hread
    cases hread
    exact .refl _
  rw [readMagnitude_eq] at hread
  obtain ⟨⟨digits, after⟩, hdigits, hread⟩ := Outcome.bind_eq_ok.mp hread
  refine (takes_readDigits hdigits).trans ?_
  change readWholeEnd negative digits after = _ at hread
  unfold readWholeEnd at hread
  split at hread
  next => cases hread
  next =>
    cases after with
    | nil => exact hend hread
    | cons c after =>
      by_cases hpoint : c = '.'
      · subst hpoint
        rw [readScale_point] at hread
        obtain ⟨⟨fraction, behind⟩, hfraction, hread⟩ := Outcome.bind_eq_ok.mp hread
        refine ((takes_readDigits hfraction).trans ?_).cons (by decide)
        change readFractionEnd _ negative behind = _ at hread
        cases behind with
        | nil => exact hend hread
        | cons d behind =>
          rw [readFractionEnd] at hread
          split_ifs at hread with hmark
          · exact (hexponent hread).cons (isNumberPart_of_isExponentMark hmark)
          · exact hend hread
      · rw [readScale_other _ _ _ hpoint] at hread
        split_ifs at hread with hmark
        · exact (hexponent hread).cons (isNumberPart_of_isExponentMark hmark)
        · exact hend hread

/-! ### What follows a written value -/

/-- A text that does not go on with a part of a number. -/
def EndsParts (rest : List Char) : Prop :=
  ∀ c ∈ rest.head?, isNumberPart c = false

/-- A text that goes on with a part of a number, where the reader of one has stopped. -/
def Strays (left : List Char) : Prop :=
  ∃ c after, left = c :: after ∧ isNumberPart c = true

theorem EndsParts.endsNumber (hrest : EndsParts rest) : EndsNumber rest := by
  intro c hc
  have hpart := hrest c hc
  refine ⟨?_, ?_, ?_⟩
  · exact Bool.eq_false_iff.mpr fun hdigit =>
      Bool.false_ne_true (hpart.symm.trans (isNumberPart_of_isDigit hdigit))
  · rintro rfl
    exact absurd hpart (by decide)
  · exact Bool.eq_false_iff.mpr fun hmark =>
      Bool.false_ne_true (hpart.symm.trans (isNumberPart_of_isExponentMark hmark))

theorem endsParts_writeItems (items : List Json) (rest : List Char) :
    EndsParts (writeItems false items ++ rest) := by
  intro c hc
  cases items <;> cases hc <;> decide

theorem endsParts_writeMembers (members : List (String × Json)) (rest : List Char) :
    EndsParts (writeMembers false members ++ rest) := by
  intro c hc
  cases members <;> cases hc <;> decide

/-- A number is taken to its end, or some of it strays in front of what follows. -/
theorem eq_or_strays_of_takes {number : List Char} (hnumber : ∀ c ∈ number, isNumberPart c = true)
    (hrest : EndsParts rest) (htakes : Takes (number ++ rest) left) : left = rest ∨ Strays left := by
  obtain ⟨used, hsame, hused⟩ := htakes
  rcases List.append_eq_append_iff.mp hsame with ⟨more, rfl, rfl⟩ | ⟨more, rfl, rfl⟩
  · cases more with
    | nil => exact Or.inl rfl
    | cons c more =>
      have hpart := hused c (List.mem_append_right _ List.mem_cons_self)
      exact absurd (hpart.symm.trans (hrest c rfl)) (by decide)
  · cases more with
    | nil => exact Or.inl rfl
    | cons c more =>
      exact Or.inr ⟨c, more ++ rest, rfl, hnumber c (List.mem_append_right _ List.mem_cons_self)⟩

theorem takes_readHead {c : Char} {head : Head} (hc : isNumberChar c = true)
    (hread : readHead (c :: input) = .ok (head, left)) :
    (∃ found, head = .scalar found) ∧ Takes (c :: input) left := by
  by_cases hdigit : isDigit c = true
  · rw [readHead_digit hdigit] at hread
    obtain ⟨⟨found, after⟩, hfound, hread⟩ := Outcome.bind_eq_ok.mp hread
    cases hread
    exact ⟨⟨found, rfl⟩, takes_readMagnitude hfound⟩
  · simp only [isNumberChar, hdigit, Bool.false_or, Bool.or_eq_true, beq_iff_eq] at hc
    rcases hc with ((rfl | rfl) | rfl) | rfl
    · cases hread
    · cases hread
    · obtain ⟨⟨found, after⟩, hfound, hread⟩ := Outcome.bind_eq_ok.mp hread
      cases hread
      exact ⟨⟨found, rfl⟩, (takes_readMagnitude hfound).cons (by decide)⟩
    · cases hread

/-- What is written as a scalar is read as a scalar, if at all. -/
theorem readHead_of_write {head : Head} (hfits : value.Fits 0) (hrest : EndsParts rest)
    (hread : readHead (write value ++ rest) = .ok (head, left)) :
    (∃ found, head = .scalar found) ∧ (left = rest ∨ Strays left) := by
  have hsteady : value.doubles = [] →
      (∃ found, head = .scalar found) ∧ (left = rest ∨ Strays left) := by
    intro hnone
    have hsteady : value.IsSteady := fun x hx => by
      rw [hnone] at hx
      cases hx
    rw [readHead_write (by rintro items rfl; exact hfits) (by rintro members rfl; exact hfits) hfits
      hsteady hrest.endsNumber] at hread
    cases hread
    exact ⟨⟨value, rfl⟩, Or.inl rfl⟩
  cases value with
  | real x =>
    by_cases hfinite : x.isFinite = true
    · have hparts : ∀ c ∈ x.toText, isNumberPart c = true := fun c hc => by
        rw [isNumberPart, Double.isNumberChar_of_mem_toText hc, Bool.true_or]
      rw [write, writeReal_of_finite hfinite] at hread
      cases htext : x.toText with
      | nil =>
        have hmark := x.mark_mem_toText
        rw [htext] at hmark
        rcases hmark with hmark | hmark <;> cases hmark
      | cons c text =>
        have hc : isNumberChar c = true :=
          Double.isNumberChar_of_mem_toText (htext ▸ List.mem_cons_self)
        rw [htext] at hread hparts
        obtain ⟨hscalar, htakes⟩ := takes_readHead hc hread
        exact ⟨hscalar, eq_or_strays_of_takes hparts hrest htakes⟩
    · rw [write, writeReal, if_neg hfinite] at hread
      cases hread
      exact ⟨⟨_, rfl⟩, Or.inl rfl⟩
  | arr items => cases hfits
  | obj members => cases hfits
  | null | bool | int | str => exact hsteady rfl

/-! ### What is read of a written value -/

theorem Strays.exists_cons (hstrays : Strays left) :
    ∃ c after, left = c :: after ∧ isSpace c = false ∧ c ≠ ',' ∧ c ≠ ']' ∧ c ≠ '\x7d' := by
  obtain ⟨c, after, rfl, hc⟩ := hstrays
  refine ⟨c, after, rfl, ?_, ?_, ?_, ?_⟩
  · rw [Bool.eq_false_iff]
    intro hspace
    simp only [isSpace, Bool.or_eq_true, beq_iff_eq] at hspace
    rcases hspace with ((rfl | rfl) | rfl) | rfl <;> exact absurd hc (by decide)
  all_goals
    rintro rfl
    exact absurd hc (by decide)

theorem nextItem_of_strays {next : Option (List Char)} (hstrays : Strays left) :
    nextItem false left ≠ .ok next := by
  obtain ⟨c, after, rfl, hspace, hcomma, hbracket, -⟩ := hstrays.exists_cons
  rw [nextItem, skipSpace_cons hspace]
  split
  next heq => cases heq
  next heq => exact absurd (List.cons.inj heq).1 hbracket
  next heq =>
    cases heq
    rw [if_neg Bool.false_ne_true, if_neg hcomma]
    intro heq
    cases heq

theorem nextKey_of_strays {next : Option (String × List Char)} (hstrays : Strays left) :
    nextKey false left ≠ .ok next := by
  obtain ⟨c, after, rfl, hspace, hcomma, -, hbrace⟩ := hstrays.exists_cons
  rw [nextKey, skipSpace_cons hspace]
  split
  next heq => cases heq
  next heq => exact absurd (List.cons.inj heq).1 hbrace
  next heq =>
    cases heq
    rw [if_neg Bool.false_ne_true, if_neg hcomma]
    intro heq
    cases heq

/-- Whether what is read of a written value at one depth is read of it at another one too. -/
def ReadsAlike (depth deep : Nat) (value : Json) : Prop :=
  ∀ rest found left, EndsParts rest → readValue deep (write value ++ rest) = .ok (found, left) →
    readValue depth (write value ++ rest) = .ok (found, left) ∧ (left = rest ∨ Strays left)

theorem foldItems_alike {deep : Nat} {items : List Json}
    (hitems : ∀ item ∈ items, item.ReadsAlike depth deep) {fuel : Nat} {first : Bool}
    {state after : List Json}
    (hfold : foldItems (readItem deep) fuel first state (writeItems first items ++ rest) =
      .ok (after, left)) :
    foldItems (readItem depth) fuel first state (writeItems first items ++ rest) =
      .ok (after, left) ∧ left = ']' :: rest := by
  induction items generalizing fuel first state with
  | nil =>
    cases fuel with
    | zero => cases hfold
    | succ fuel => cases first <;> cases hfold <;> exact ⟨rfl, rfl⟩
  | cons item items ih =>
    cases fuel with
    | zero => cases hfold
    | succ fuel =>
      rw [writeItems, List.append_assoc, List.append_assoc, foldItems, nextItem_write] at hfold ⊢
      change (readItem deep state _ >>= _) = _ at hfold
      obtain ⟨⟨between, behind⟩, hstep, hfold⟩ := Outcome.bind_eq_ok.mp hfold
      obtain ⟨⟨found, stopped⟩, hfound, hstep⟩ := Outcome.bind_eq_ok.mp hstep
      cases hstep
      obtain ⟨halike, rfl | hstrays⟩ :=
        hitems item List.mem_cons_self _ _ _ (endsParts_writeItems items rest) hfound
      · obtain ⟨hrest, hend⟩ := ih (fun other hother => hitems other (List.mem_cons_of_mem _ hother)) hfold
        have hstep : readItem depth state (write item ++ (writeItems false items ++ rest)) =
            .ok (found :: state, writeItems false items ++ rest) :=
          Outcome.bind_eq_ok.mpr ⟨_, halike, rfl⟩
        exact ⟨Outcome.bind_eq_ok.mpr ⟨_, rfl, Outcome.bind_eq_ok.mpr ⟨_, hstep, hrest⟩⟩, hend⟩
      · cases fuel with
        | zero => cases hfold
        | succ fuel =>
          obtain ⟨next, hnext, -⟩ := Outcome.bind_eq_ok.mp hfold
          exact absurd hnext (nextItem_of_strays hstrays)

theorem foldMembers_alike {deep : Nat} {members : List (String × Json)}
    (hmembers : ∀ member ∈ members, member.2.ReadsAlike depth deep) {fuel : Nat} {first : Bool}
    {state after : List (String × Json)}
    (hfold : foldMembers (readMember deep) fuel first state (writeMembers first members ++ rest) =
      .ok (after, left)) :
    foldMembers (readMember depth) fuel first state (writeMembers first members ++ rest) =
      .ok (after, left) ∧ left = '\x7d' :: rest := by
  induction members generalizing fuel first state with
  | nil =>
    cases fuel with
    | zero => cases hfold
    | succ fuel => cases first <;> cases hfold <;> exact ⟨rfl, rfl⟩
  | cons member members ih =>
    obtain ⟨key, value⟩ := member
    have hkey := nextKey_writeText first key
      (':' :: (write value ++ (writeMembers false members ++ rest)))
    cases fuel with
    | zero => cases hfold
    | succ fuel =>
      rw [writeMembers] at hfold ⊢
      simp only [List.append_assoc, List.cons_append] at hfold ⊢
      rw [foldMembers, hkey] at hfold ⊢
      change (readMember deep state key _ >>= _) = _ at hfold
      obtain ⟨⟨between, behind⟩, hstep, hfold⟩ := Outcome.bind_eq_ok.mp hfold
      change (readValue deep (write value ++ _) >>= _) = _ at hstep
      obtain ⟨⟨found, stopped⟩, hfound, hstep⟩ := Outcome.bind_eq_ok.mp hstep
      cases hstep
      obtain ⟨halike, rfl | hstrays⟩ :=
        hmembers (key, value) List.mem_cons_self _ _ _ (endsParts_writeMembers members rest) hfound
      · obtain ⟨hrest, hend⟩ :=
          ih (fun other hother => hmembers other (List.mem_cons_of_mem _ hother)) hfold
        have hstep : readMember depth state key
              (':' :: (write value ++ (writeMembers false members ++ rest))) =
            .ok ((key, found) :: state, writeMembers false members ++ rest) :=
          Outcome.bind_eq_ok.mpr ⟨_, rfl, Outcome.bind_eq_ok.mpr ⟨_, halike, rfl⟩⟩
        exact ⟨Outcome.bind_eq_ok.mpr ⟨_, rfl, Outcome.bind_eq_ok.mpr ⟨_, hstep, hrest⟩⟩, hend⟩
      · cases fuel with
        | zero => cases hfold
        | succ fuel =>
          obtain ⟨next, hnext, -⟩ := Outcome.bind_eq_ok.mp hfold
          exact absurd hnext (nextKey_of_strays hstrays)

theorem readsAlike_of_fits_zero (hfits : value.Fits 0) (depth deep : Nat) :
    value.ReadsAlike depth deep := by
  intro rest found left hrest hread
  rcases readValue_eq_ok hread with hhead | ⟨_, -, ⟨_, _, hhead, -⟩ | ⟨_, _, hhead, -⟩⟩
  · exact ⟨readValue_of_scalar depth hhead, (readHead_of_write hfits hrest hhead).2⟩
  · obtain ⟨⟨_, hscalar⟩, -⟩ := readHead_of_write hfits hrest hhead
    cases hscalar
  · obtain ⟨⟨_, hscalar⟩, -⟩ := readHead_of_write hfits hrest hhead
    cases hscalar

/-- To read a written value it takes no more depth than the value has. -/
theorem readsAlike (hfits : value.Fits depth) (deep : Nat) : value.ReadsAlike depth deep := by
  induction depth generalizing value deep with
  | zero => exact readsAlike_of_fits_zero hfits 0 deep
  | succ depth ih =>
    cases value with
    | arr items =>
      intro rest found left hrest hread
      rcases readValue_eq_ok hread with hhead | ⟨below, rfl, ⟨_, _, hhead, hitems, rfl⟩ | ⟨_, _, hhead, -⟩⟩
      · cases hhead
      · cases hhead
        obtain ⟨⟨after, behind⟩, hfold, hclose⟩ := Outcome.bind_eq_ok.mp hitems
        obtain ⟨halike, rfl⟩ := foldItems_alike (fun item hitem => ih (hfits item hitem) below) hfold
        refine ⟨readValue_array rfl (Outcome.bind_eq_ok.mpr ⟨_, halike, hclose⟩), Or.inl ?_⟩
        obtain ⟨_, hend, hclose⟩ := Outcome.bind_eq_ok.mp hclose
        cases hend
        cases hclose
        rfl
      · cases hhead
    | obj members =>
      intro rest found left hrest hread
      rcases readValue_eq_ok hread with hhead | ⟨below, rfl, ⟨_, _, hhead, -⟩ | ⟨_, _, hhead, hmembers, rfl⟩⟩
      · cases hhead
      · cases hhead
      · cases hhead
        obtain ⟨⟨after, behind⟩, hfold, hclose⟩ := Outcome.bind_eq_ok.mp hmembers
        obtain ⟨halike, rfl⟩ :=
          foldMembers_alike (fun member hmember => ih (hfits.2 member hmember) below) hfold
        refine ⟨readValue_object rfl (Outcome.bind_eq_ok.mpr ⟨_, halike, hclose⟩), Or.inl ?_⟩
        obtain ⟨_, hend, hclose⟩ := Outcome.bind_eq_ok.mp hclose
        cases hend
        cases hclose
        rfl
    | null | bool | int | real | str =>
      refine readsAlike_of_fits_zero ?_ (depth + 1) deep
      exact hfits

/-- What a written value is read as goes no deeper than the value. -/
theorem fits_of_parse_text {found : Json} (hfits : value.Fits depth)
    (hparse : Codec.free.parse value.text = .ok found) : found.Fits depth := by
  obtain ⟨⟨kept, rest⟩, hread, hparse⟩ := Outcome.bind_eq_ok.mp hparse
  obtain ⟨⟨read, after⟩, hread, hkept⟩ := Outcome.bind_eq_ok.mp hread
  rw [text, String.toList_ofList, ← List.append_nil (write value)] at hread
  obtain ⟨halike, -⟩ := readsAlike hfits maxDepth [] read after (fun _ hc => by cases hc) hread
  cases hkept
  dsimp only at hparse
  split at hparse
  · cases hparse
    exact fits_canonical halike
  · cases hparse

/-! ### Values that are told from nothing -/

/-- A value that is not written as null. -/
def IsSolid (value : Json) : Prop :=
  ∀ c ∈ (write value).head?, c ≠ 'n'

theorem IsSolid.ne_null (hsolid : value.IsSolid) : value ≠ .null := by
  rintro rfl
  exact hsolid 'n' rfl rfl

/-- Nothing is read from the word for it alone. -/
theorem exists_skipSpace_of_null {input left : List Char}
    (hread : readHead input = .ok (.scalar .null, left)) : ∃ after, skipSpace input = 'n' :: after := by
  have hopens := opens_of_readHead hread
  generalize skipSpace input = start at hopens ⊢
  cases hopens with
  | null => exact ⟨_, rfl⟩
  | number hsuffix hnumber => exact absurd (isNumeric_readMagnitude hnumber) id

/-- What is read where the word for nothing does not stand is not written as that word. -/
theorem isSolid_of_readValue (hother : ∀ after, skipSpace input ≠ 'n' :: after)
    (hread : readValue depth input = .ok (value, left)) : value.canonical.IsSolid := by
  rcases readValue_eq_ok hread with hhead | ⟨_, -, ⟨_, items, -, -, rfl⟩ | ⟨_, members, -, -, rfl⟩⟩
  · have hscalar := isScalar_of_readHead hhead
    rw [canonical_of_fits (hscalar.fits 0)]
    obtain ⟨c, rest, hwrite, hsort, -⟩ := head_write hscalar.isFinite
    intro first hfirst hnull
    rw [hwrite] at hfirst
    cases hfirst
    subst hnull
    obtain rfl := eq_null_of_sort (hsort.symm.trans (by decide))
    obtain ⟨after, hskip⟩ := exists_skipSpace_of_null hhead
    exact hother after hskip
  · rintro c hc
    cases hc
    decide
  · rintro c hc
    cases hc
    decide

theorem isSolid_of_parse_text {found : Json} (hsolid : value.IsSolid)
    (hparse : Codec.free.parse value.text = .ok found) : found.IsSolid := by
  obtain ⟨⟨kept, rest⟩, hread, hparse⟩ := Outcome.bind_eq_ok.mp hparse
  obtain ⟨⟨read, after⟩, hread, hkept⟩ := Outcome.bind_eq_ok.mp hread
  rw [text, String.toList_ofList, ← List.append_nil (write value)] at hread
  have hother : ∀ after, skipSpace (write value ++ []) ≠ 'n' :: after := by
    intro after hskip
    rw [skipSpace_write, List.append_nil] at hskip
    exact hsolid 'n' (by rw [hskip]; rfl) rfl
  cases hkept
  dsimp only at hparse
  split at hparse
  · cases hparse
    exact isSolid_of_readValue hother hread
  · cases hparse

end KnowledgeSchema.Json
