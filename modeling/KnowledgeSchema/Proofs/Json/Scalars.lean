import Mathlib.Data.List.TakeWhile
import KnowledgeSchema.Json.Scan
import KnowledgeSchema.Json.Writer
import KnowledgeSchema.Proofs.Program.Outcome

/-!
# Scalars read where they were written

A string or a number of one machine word is read again from its text, whatever follows it.

Every character is read again from its escape, and the quotation mark at the end is the first one
that is not escaped.

An integer of one machine word is read again from its digits. Of a double that cannot be said, but
what its text is read as does not depend on what follows the text.
-/

namespace KnowledgeSchema.Json

/-! ### Strings -/

section Strings

variable {rest : List Char}

/-- The escape of a character below the space that has no short one. -/
def codeEscape (code : Nat) : List Char :=
  ['u', '0', '0', Nat.digitChar (code / 16), Nat.digitChar (code % 16)]

theorem readHex4_code (rest : List Char) :
    ∀ code < 32, readHex4 ('0' :: '0' :: Nat.digitChar (code / 16) :: Nat.digitChar (code % 16) ::
      rest) = .ok (code, rest) := by
  have hvalues : ∀ code < 32, Text.hexValue? (Nat.digitChar (code / 16)) = some (code / 16) ∧
      Text.hexValue? (Nat.digitChar (code % 16)) = some (code % 16) := by decide
  have hzero : Text.hexValue? '0' = some 0 := by decide
  intro code hcode
  obtain ⟨hhigh, hlow⟩ := hvalues code hcode
  rw [readHex4, hzero, hhigh, hlow]
  have hcode : (0 * 16 + 0) * 16 + code / 16 = code / 16 := by omega
  simp only [hcode]
  rw [show code / 16 * 16 + code % 16 = code by omega]

theorem readEscape_code {code : Nat} (hcode : code < 32) (rest : List Char) :
    readEscape (codeEscape code ++ rest) = .ok (Char.ofNat code, rest) := by
  have hlow : ¬((0xDC00 ≤ code && code ≤ 0xDFFF) = true) := by
    simp only [Bool.and_eq_true, decide_eq_true_eq]
    omega
  have hhigh : ¬((0xD800 ≤ code && code ≤ 0xDBFF) = true) := by
    simp only [Bool.and_eq_true, decide_eq_true_eq]
    omega
  change (readHex4 ('0' :: '0' :: Nat.digitChar (code / 16) :: Nat.digitChar (code % 16) :: rest) >>=
    _) = _
  rw [readHex4_code rest code hcode]
  change (if _ then _ else if _ then _ else _) = _
  rw [if_neg hlow, if_neg hhigh]

theorem readChars_backslash (fuel : Nat) (rest : List Char) :
    readChars (fuel + 1) ('\\' :: rest) = (do
      let (c, rest) ← readEscape rest
      let (text, rest) ← readChars fuel rest
      .ok (c :: text, rest)) := rfl

/-- One step for one character. -/
theorem readChars_escapeChar (fuel : Nat) (c : Char) (rest : List Char) :
    readChars (fuel + 1) (escapeChar c ++ rest) = (do
      let (text, rest) ← readChars fuel rest
      .ok (c :: text, rest)) := by
  unfold escapeChar
  split
  case h_8 hquote hbackslash _ _ _ _ _ =>
    by_cases hcontrol : c.toNat < 0x20
    · rw [if_pos hcontrol]
      change readChars (fuel + 1) ('\\' :: (codeEscape c.toNat ++ rest)) = _
      rw [readChars_backslash, readEscape_code hcontrol, Char.ofNat_toNat]
      rfl
    · rw [if_neg hcontrol, List.singleton_append, readChars, if_neg hquote, if_neg hbackslash,
        if_neg hcontrol]
  all_goals rfl

theorem readChars_escaped (fuel : Nat) (text rest : List Char) (hfuel : text.length < fuel) :
    readChars fuel (text.flatMap escapeChar ++ '"' :: rest) = .ok (text, rest) := by
  induction text generalizing fuel with
  | nil =>
    cases fuel with
    | zero => cases hfuel
    | succ fuel => rfl
  | cons c text ih =>
    cases fuel with
    | zero => cases hfuel
    | succ fuel =>
      rw [List.flatMap_cons, List.append_assoc, readChars_escapeChar,
        ih fuel (Nat.lt_of_succ_lt_succ hfuel)]
      rfl

theorem escapeChar_ne_nil (c : Char) : escapeChar c ≠ [] := by
  unfold escapeChar
  split <;> try exact List.cons_ne_nil _ _
  split_ifs <;> exact List.cons_ne_nil _ _

theorem length_le_escaped (text : List Char) : text.length ≤ (text.flatMap escapeChar).length := by
  induction text with
  | nil => exact Nat.le_refl 0
  | cons c text ih =>
    have hpos := List.length_pos_of_ne_nil (escapeChar_ne_nil c)
    rw [List.flatMap_cons, List.length_append, List.length_cons]
    omega

/-- A string is read again behind its quotation mark. -/
theorem readText_writeText (text : String) (rest : List Char) :
    ∃ escaped, writeText text = '"' :: escaped ∧ readText (escaped ++ rest) = .ok (text, rest) := by
  refine ⟨text.toList.flatMap escapeChar ++ ['"'], rfl, ?_⟩
  have hlength := length_le_escaped text.toList
  rw [readText, List.append_assoc, List.singleton_append, readChars_escaped]
  · change Except.ok (String.ofList text.toList, rest) = _
    rw [String.ofList_toList]
  · rw [List.length_append, List.length_cons]
    omega

end Strings

/-! ### Numbers -/

variable {input rest left digits : List Char} {negative fits : Bool} {value : Json}

/-- A text that does not go on with a digit. -/
def EndsDigits (rest : List Char) : Prop :=
  ∀ c ∈ rest.head?, isDigit c = false

/-- A text that does not go on with a number. -/
def EndsNumber (rest : List Char) : Prop :=
  ∀ c ∈ rest.head?, isDigit c = false ∧ c ≠ '.' ∧ isExponentMark c = false

theorem endsNumber_nil : EndsNumber [] :=
  fun _ hc => nomatch hc

theorem EndsNumber.endsDigits (hrest : EndsNumber rest) : EndsDigits rest :=
  fun c hc => (hrest c hc).1

theorem EndsDigits.append (hleft : EndsDigits left) (hrest : EndsNumber rest) :
    EndsDigits (left ++ rest) := by
  cases left with
  | nil => exact hrest.endsDigits
  | cons c left => exact hleft

/-! ### Digits -/

theorem readDigits_of_digits (hsome : digits ≠ []) (hdigits : ∀ c ∈ digits, isDigit c = true)
    (hrest : EndsDigits rest) : readDigits (digits ++ rest) = .ok (digits, rest) := by
  have htaken : rest.takeWhile isDigit = [] ∧ rest.dropWhile isDigit = rest := by
    cases rest with
    | nil => exact ⟨rfl, rfl⟩
    | cons c rest =>
      have hc : ¬isDigit c = true := by simpa using hrest c rfl
      exact ⟨List.takeWhile_cons_of_neg hc, List.dropWhile_cons_of_neg hc⟩
  rw [readDigits, List.takeWhile_append_of_pos hdigits, List.dropWhile_append_of_pos hdigits,
    htaken.1, htaken.2, List.append_nil]
  cases digits with
  | nil => exact absurd rfl hsome
  | cons c digits => rfl

theorem readDigits_eq_ok (hread : readDigits input = .ok (digits, left)) :
    input = digits ++ left ∧ digits ≠ [] ∧ (∀ c ∈ digits, isDigit c = true) ∧ EndsDigits left := by
  have hpair : input.takeWhile isDigit = digits ∧ input.dropWhile isDigit = left ∧ digits ≠ [] := by
    rw [readDigits] at hread
    split at hread
    next => cases hread
    next => cases hread
    next hsome _ =>
      cases hread
      exact ⟨rfl, rfl, fun hnil => hsome hnil⟩
  obtain ⟨rfl, rfl, hsome⟩ := hpair
  refine ⟨List.takeWhile_append_dropWhile.symm, hsome, fun c hc => List.mem_takeWhile_imp hc, ?_⟩
  intro c hc
  have hhead := List.head?_dropWhile_not isDigit input
  rw [hc] at hhead
  simpa using hhead

theorem readDigits_append (hread : readDigits input = .ok (digits, left))
    (hrest : EndsNumber rest) : readDigits (input ++ rest) = .ok (digits, left ++ rest) := by
  obtain ⟨rfl, hsome, hdigits, hleft⟩ := readDigits_eq_ok hread
  rw [List.append_assoc]
  exact readDigits_of_digits hsome hdigits (hleft.append hrest)

/-! ### What follows a number -/

theorem readExponent_append {exponent : Int} (hread : readExponent input = .ok (exponent, left))
    (hrest : EndsNumber rest) : readExponent (input ++ rest) = .ok (exponent, left ++ rest) := by
  have hdigits : ∀ {input : List Char} {f : List Char → Int},
      (readDigits input >>= fun read => .ok (f read.1, read.2)) = Except.ok (exponent, left) →
      (readDigits (input ++ rest) >>= fun read => .ok (f read.1, read.2)) =
        Except.ok (exponent, left ++ rest) := by
    intro input f hread
    obtain ⟨⟨digits, after⟩, hfirst, hnext⟩ := Outcome.bind_eq_ok.mp hread
    cases hnext
    rw [readDigits_append hfirst hrest]
    rfl
  cases input with
  | nil => cases hread
  | cons c input =>
    by_cases hminus : c = '-'
    · subst hminus
      exact hdigits (f := fun digits => -(natOfDigits digits : Int)) hread
    · by_cases hplus : c = '+'
      · subst hplus
        exact hdigits (f := fun digits => natOfDigits digits) hread
      · have hother : ∀ input, readExponent (c :: input) =
            readDigits (c :: input) >>= fun read => .ok ((natOfDigits read.1 : Int), read.2) := by
          intro input
          rw [readExponent]
          · intro _ heq; cases heq; exact hminus rfl
          · intro _ heq; cases heq; exact hplus rfl
        rw [hother] at hread
        rw [List.cons_append, hother]
        exact @hdigits (c :: input) (fun digits => natOfDigits digits) hread

theorem readScale_other {c : Char} (n : Numeral) (negative fits : Bool) (hpoint : c ≠ '.')
    (after : List Char) :
    readScale n negative fits (c :: after) =
      (if isExponentMark c then do
        let (exponent, rest) ← readExponent after
        .ok (← (n.scale exponent).toReal negative, rest)
      else do .ok (← n.toInt negative fits, c :: after)) := by
  rw [readScale]
  exact hpoint

theorem readScale_end (n : Numeral) (negative fits : Bool) (hrest : EndsNumber rest) :
    readScale n negative fits rest = (do .ok (← n.toInt negative fits, rest)) := by
  cases rest with
  | nil => rfl
  | cons c rest =>
    obtain ⟨-, hpoint, hmark⟩ := hrest c rfl
    rw [readScale_other n negative fits hpoint, if_neg (by simpa using hmark)]

theorem exponent_append {n : Numeral}
    (hread : (do
      let (exponent, rest) ← readExponent input
      .ok (← (n.scale exponent).toReal negative, rest)) = Except.ok (value, left))
    (hrest : EndsNumber rest) :
    (do
      let (exponent, rest) ← readExponent (input ++ rest)
      .ok (← (n.scale exponent).toReal negative, rest)) =
        (Except.ok (value, left ++ rest) : Except Flaw (Json × List Char)) := by
  obtain ⟨⟨exponent, after⟩, hexponent, hread⟩ := Outcome.bind_eq_ok.mp hread
  obtain ⟨found, hfound, hread⟩ := Outcome.bind_eq_ok.mp hread
  cases hread
  refine Outcome.bind_eq_ok.mpr ⟨_, readExponent_append hexponent hrest, ?_⟩
  exact Outcome.bind_eq_ok.mpr ⟨value, hfound, rfl⟩

/-- What is read behind the digits of a fraction. -/
def readFractionEnd (n : Numeral) (negative : Bool) (rest : List Char) :
    Except Flaw (Json × List Char) :=
  match rest with
  | c :: after =>
    if isExponentMark c then do
      let (exponent, rest) ← readExponent after
      .ok (← (n.scale exponent).toReal negative, rest)
    else do .ok (← n.toReal negative, rest)
  | [] => do .ok (← n.toReal negative, [])

theorem readScale_point (n : Numeral) (negative fits : Bool) (input : List Char) :
    readScale n negative fits ('.' :: input) = (do
      let (digits, rest) ← readDigits input
      readFractionEnd (n.addFraction digits) negative rest) := rfl

theorem readFractionEnd_append {n : Numeral}
    (hread : readFractionEnd n negative input = .ok (value, left)) (hrest : EndsNumber rest) :
    readFractionEnd n negative (input ++ rest) = .ok (value, left ++ rest) := by
  cases input with
  | nil =>
    obtain ⟨found, hfound, hread⟩ := Outcome.bind_eq_ok.mp hread
    cases hread
    cases rest with
    | nil => exact Outcome.bind_eq_ok.mpr ⟨value, hfound, rfl⟩
    | cons c rest =>
      obtain ⟨-, -, hmark⟩ := hrest c rfl
      rw [List.nil_append, readFractionEnd, if_neg (by simpa using hmark)]
      exact Outcome.bind_eq_ok.mpr ⟨value, hfound, rfl⟩
  | cons c input =>
    rw [List.cons_append, readFractionEnd]
    rw [readFractionEnd] at hread
    by_cases hmark : isExponentMark c = true
    · rw [if_pos hmark] at hread ⊢
      exact exponent_append hread hrest
    · rw [if_neg hmark] at hread ⊢
      obtain ⟨found, hfound, hread⟩ := Outcome.bind_eq_ok.mp hread
      cases hread
      exact Outcome.bind_eq_ok.mpr ⟨value, hfound, rfl⟩

theorem readScale_append {n : Numeral} (hread : readScale n negative fits input = .ok (value, left))
    (hrest : EndsNumber rest) :
    readScale n negative fits (input ++ rest) = .ok (value, left ++ rest) := by
  cases input with
  | nil =>
    obtain ⟨found, hfound, hread⟩ := Outcome.bind_eq_ok.mp hread
    cases hread
    rw [List.nil_append, readScale_end n negative fits hrest]
    exact Outcome.bind_eq_ok.mpr ⟨value, hfound, rfl⟩
  | cons c input =>
    by_cases hpoint : c = '.'
    · subst hpoint
      rw [readScale_point] at hread
      obtain ⟨⟨digits, after⟩, hdigits, hread⟩ := Outcome.bind_eq_ok.mp hread
      rw [List.cons_append, readScale_point, readDigits_append hdigits hrest]
      exact readFractionEnd_append hread hrest
    · rw [readScale_other n negative fits hpoint] at hread
      rw [List.cons_append, readScale_other n negative fits hpoint]
      by_cases hmark : isExponentMark c = true
      · rw [if_pos hmark] at hread ⊢
        exact exponent_append hread hrest
      · rw [if_neg hmark] at hread ⊢
        obtain ⟨found, hfound, hread⟩ := Outcome.bind_eq_ok.mp hread
        cases hread
        exact Outcome.bind_eq_ok.mpr ⟨value, hfound, rfl⟩

/-- What is read behind the digits of a whole part. -/
def readWholeEnd (negative : Bool) (digits : List Char) : Reader Json := fun rest =>
  match digits with
  | '0' :: _ :: _ => malformed .invalidNumber
  | digits => readScale (Numeral.ofWhole digits).1 negative (Numeral.ofWhole digits).2 rest

theorem readMagnitude_eq (negative : Bool) (input : List Char) :
    readMagnitude negative input = (do
      let (digits, rest) ← readDigits input
      readWholeEnd negative digits rest) := by
  unfold readMagnitude
  refine bind_congr fun pair => ?_
  obtain ⟨digits, rest⟩ := pair
  rcases digits with _ | ⟨c, _ | ⟨d, digits⟩⟩
  · rfl
  · rfl
  · by_cases hzero : c = '0'
    · subst hzero
      rfl
    · simp [readWholeEnd, hzero]

theorem readMagnitude_append (hread : readMagnitude negative input = .ok (value, left))
    (hrest : EndsNumber rest) :
    readMagnitude negative (input ++ rest) = .ok (value, left ++ rest) := by
  rw [readMagnitude_eq] at hread ⊢
  obtain ⟨⟨digits, after⟩, hdigits, hread⟩ := Outcome.bind_eq_ok.mp hread
  refine Outcome.bind_eq_ok.mpr ⟨_, readDigits_append hdigits hrest, ?_⟩
  change readWholeEnd negative digits after = _ at hread
  change readWholeEnd negative digits (after ++ rest) = _
  unfold readWholeEnd at hread ⊢
  split at hread
  next => cases hread
  next => exact readScale_append hread hrest

/-! ### Integers -/

theorem isDigit_of_mem_toDigits {n : Nat} {c : Char} (hc : c ∈ Nat.toDigits 10 n) :
    isDigit c = true := by
  have hdigit := Nat.isDigit_of_mem_toDigits (by decide) (by decide) hc
  simpa [isDigit, Char.isDigit, Char.le_def] using hdigit

theorem natOfDigits_toDigits (n : Nat) : natOfDigits (Nat.toDigits 10 n) = n := by
  have hfold := @Nat.ofDigitChars_eq_foldl 10 (Nat.toDigits 10 n) 0
  rw [natOfDigits]
  exact hfold.symm.trans Nat.ofDigitChars_ten_toDigits

theorem le_foldl_digits (digits : List Char) (n : Nat) :
    n ≤ digits.foldl (fun n c => 10 * n + digitValue c) n := by
  induction digits generalizing n with
  | nil => exact Nat.le_refl n
  | cons c digits ih =>
    calc n ≤ 10 * n + digitValue c := by omega
      _ ≤ _ := ih _

theorem absorb_of_le {digits : List Char} {n : Numeral}
    (hfits : digits.foldl (fun n c => 10 * n + digitValue c) n.significand ≤ largestWord) :
    n.absorb 0 digits =
      (⟨digits.foldl (fun n c => 10 * n + digitValue c) n.significand, n.exponent⟩, []) := by
  induction digits generalizing n with
  | nil => rfl
  | cons c digits ih =>
    have hwider : 10 * n.significand + digitValue c ≤ largestWord :=
      (le_foldl_digits digits _).trans hfits
    rw [Numeral.absorb, if_pos hwider]
    refine (ih hfits).trans ?_
    simp

/-- Nothing but zero begins with a zero. -/
theorem head?_toDigits_ne_zero {n : Nat} (hn : 0 < n) : (Nat.toDigits 10 n).head? ≠ some '0' := by
  induction n using Nat.strongRecOn with
  | ind n ih =>
    rcases Nat.lt_or_ge n 10 with hsmall | hlarge
    · rw [Nat.toDigits_of_lt_base hsmall]
      intro hzero
      have hdigit : n.digitChar = '0' := Option.some.inj hzero
      rw [Nat.digitChar_eq_zero] at hdigit
      omega
    · rw [Nat.toDigits_of_base_le (by decide) hlarge,
        List.head?_append_of_ne_nil _ Nat.toDigits_ne_nil]
      exact ih (n / 10) (by omega) (by omega)

theorem toDigits_ne_leading (n : Nat) (c : Char) (rest : List Char) :
    Nat.toDigits 10 n ≠ '0' :: c :: rest := by
  intro heq
  rcases Nat.eq_zero_or_pos n with rfl | hn
  · rw [Nat.toDigits_zero] at heq
    cases heq
  · exact head?_toDigits_ne_zero hn (by rw [heq]; rfl)

theorem readMagnitude_toDigits {n : Nat} (hword : n ≤ largestWord) (negative : Bool)
    (hrest : EndsNumber rest) :
    readMagnitude negative (Nat.toDigits 10 n ++ rest) = (do
      .ok (← (⟨n, 0⟩ : Numeral).toInt negative true, rest)) := by
  have hsome : Nat.toDigits 10 n ≠ [] := Nat.toDigits_ne_nil
  have hwhole : Numeral.ofWhole (Nat.toDigits 10 n) = (⟨n, 0⟩, true) := by
    have hvalue : (Nat.toDigits 10 n).foldl (fun n c => 10 * n + digitValue c) 0 = n :=
      natOfDigits_toDigits n
    have habsorb := @absorb_of_le (Nat.toDigits 10 n) ⟨0, 0⟩ (by rwa [hvalue])
    rw [Numeral.ofWhole, habsorb]
    simp [hvalue]
  rw [readMagnitude_eq, readDigits_of_digits hsome (fun _ => isDigit_of_mem_toDigits)
    hrest.endsDigits]
  change readWholeEnd negative (Nat.toDigits 10 n) rest = _
  unfold readWholeEnd
  split
  next heq => exact absurd heq (toDigits_ne_leading n _ _)
  next => rw [hwhole, readScale_end _ _ _ hrest]

/-! ### Heads -/

theorem skipSpace_cons {c : Char} (hc : isSpace c = false) (rest : List Char) :
    skipSpace (c :: rest) = c :: rest :=
  List.dropWhile_cons_of_neg (by simpa using hc)

theorem isSpace_of_isDigit {c : Char} (hc : isDigit c = true) : isSpace c = false := by
  rw [Bool.eq_false_iff]
  intro hspace
  simp only [isSpace, Bool.or_eq_true, beq_iff_eq] at hspace
  rcases hspace with ((rfl | rfl) | rfl) | rfl <;> revert hc <;> decide

theorem readHead_digit {c : Char} (hc : isDigit c = true) (rest : List Char) :
    readHead (c :: rest) = (do
      let (value, rest) ← readMagnitude false (c :: rest)
      .ok (.scalar value, rest)) := by
  unfold readHead
  rw [skipSpace_cons (isSpace_of_isDigit hc)]
  split
  case h_9 _ _ heq =>
    cases heq
    rw [if_pos hc]
  case h_1 heq => cases heq
  all_goals
    rename_i heq
    cases heq
    exact absurd hc (by decide)

theorem readHead_minus (rest : List Char) :
    readHead ('-' :: rest) = (do
      let (value, rest) ← readMagnitude true rest
      .ok (.scalar value, rest)) := rfl

theorem readHead_writeInt {n : Int} (hlow : -9223372036854775808 ≤ n)
    (hhigh : n ≤ 18446744073709551615) (hrest : EndsNumber rest) :
    readHead (writeInt n ++ rest) = .ok (.scalar (.int n), rest) := by
  cases n with
  | ofNat k =>
    have hword : k ≤ largestWord := by
      rw [largestWord]
      exact Int.ofNat_le.mp hhigh
    have hread := readMagnitude_toDigits hword false hrest
    rw [writeInt]
    cases hdigits : Nat.toDigits 10 k with
    | nil => exact absurd hdigits Nat.toDigits_ne_nil
    | cons c digits =>
      have hc : isDigit c = true := isDigit_of_mem_toDigits (hdigits ▸ List.mem_cons_self)
      rw [hdigits] at hread
      rw [List.cons_append, readHead_digit hc, ← List.cons_append, hread]
      rfl
  | negSucc k =>
    have hword : k + 1 ≤ largestWord := by
      rw [largestWord]
      omega
    have hint : (⟨k + 1, 0⟩ : Numeral).toInt true true = .ok (.int (Int.negSucc k)) := by
      have hsmall : ¬9223372036854775808 < k + 1 := by omega
      simp [Numeral.toInt, hsmall, Int.negSucc_eq]
    rw [writeInt, List.cons_append, readHead_minus, readMagnitude_toDigits hword true hrest, hint]
    rfl

theorem skipSpace_skipSpace (input : List Char) : skipSpace (skipSpace input) = skipSpace input := by
  induction input with
  | nil => rfl
  | cons c rest ih =>
    by_cases hc : isSpace c = true
    · have hskip : skipSpace (c :: rest) = skipSpace rest := List.dropWhile_cons_of_pos hc
      rw [hskip, ih]
    · rw [skipSpace_cons (by simpa using hc), skipSpace_cons (by simpa using hc)]

theorem skipSpace_append (hsome : skipSpace input ≠ []) (rest : List Char) :
    skipSpace (input ++ rest) = skipSpace input ++ rest := by
  induction input with
  | nil => exact absurd rfl hsome
  | cons c input ih =>
    by_cases hc : isSpace c = true
    · rw [skipSpace, List.dropWhile_cons_of_pos hc] at hsome
      rw [List.cons_append, skipSpace, List.dropWhile_cons_of_pos hc, skipSpace,
        List.dropWhile_cons_of_pos hc]
      exact ih hsome
    · rw [List.cons_append, skipSpace_cons (by simpa using hc), skipSpace_cons (by simpa using hc)]
      rfl

theorem readHead_skipSpace (input : List Char) : readHead (skipSpace input) = readHead input := by
  rw [readHead, skipSpace_skipSpace, ← readHead]

theorem readHead_real_append {x : Double} (hread : readHead input = .ok (.scalar (.real x), left))
    (hrest : EndsNumber rest) :
    readHead (input ++ rest) = .ok (.scalar (.real x), left ++ rest) := by
  have hmagnitude : ∀ {negative : Bool} {input : List Char},
      (do
        let (value, rest) ← readMagnitude negative input
        .ok (Head.scalar value, rest)) = Except.ok (Head.scalar (.real x), left) →
      (do
        let (value, rest) ← readMagnitude negative (input ++ rest)
        .ok (Head.scalar value, rest)) =
          (Except.ok (.scalar (.real x), left ++ rest) : Except Flaw (Head × List Char)) := by
    intro negative input hread
    obtain ⟨⟨value, after⟩, hfirst, hread⟩ := Outcome.bind_eq_ok.mp hread
    cases hread
    exact Outcome.bind_eq_ok.mpr ⟨_, readMagnitude_append hfirst hrest, rfl⟩
  have hsome : skipSpace input ≠ [] := by
    intro hnone
    rw [readHead, hnone] at hread
    cases hread
  rw [← readHead_skipSpace, skipSpace_append hsome]
  rw [← readHead_skipSpace] at hread
  have hfixed := skipSpace_skipSpace input
  generalize skipSpace input = text at hread hsome hfixed
  -- Only a number is read as a double.
  unfold readHead at hread
  rw [hfixed] at hread
  split at hread
  case h_8 =>
    rw [List.cons_append, readHead_minus]
    exact hmagnitude hread
  case h_9 c after _ _ _ _ _ _ _ =>
    by_cases hc : isDigit c = true
    · rw [if_pos hc] at hread
      rw [List.cons_append, readHead_digit hc]
      exact @hmagnitude _ (c :: after) hread
    · rw [if_neg hc] at hread
      cases hread
  case h_5 =>
    obtain ⟨⟨text, after⟩, -, hread⟩ := Outcome.bind_eq_ok.mp hread
    cases hread
  case h_2 | h_3 | h_4 =>
    obtain ⟨after, -, hread⟩ := Outcome.bind_eq_ok.mp hread
    cases hread
  all_goals cases hread

end KnowledgeSchema.Json
