import KnowledgeSchema.Proofs.Json.RoundTrip

/-!
# Texts of different values

A value is determined by its text, in front of whatever follows, provided that its doubles are finite
and each of them by its own text. An integer is never written as a double is, because the text of a
double has a point or an exponent.
-/

namespace KnowledgeSchema

/-! ### Texts of numbers -/

/-- A character that the text of a number may have. -/
def Json.isNumberChar (c : Char) : Bool :=
  isDigit c || c == '.' || c == 'e' || c == '-' || c == '+'

namespace Double

open Json (isDigit isNumberChar isDigit_of_mem_toDigits)

theorem isNumberChar_of_isDigit {c : Char} (hc : isDigit c = true) : isNumberChar c = true := by
  rw [isNumberChar, hc]
  rfl

theorem mem_dropTrailingZeros {digits : List Char} {c : Char}
    (hc : c ∈ dropTrailingZeros digits) : c ∈ digits :=
  List.mem_reverse.mp ((List.dropWhile_sublist _).subset (List.mem_reverse.mp hc))

theorem isNumberChar_of_mem_layout {digits : List Char} (hdigits : ∀ c ∈ digits, isDigit c = true)
    (leading : Int) {c : Char} (hc : c ∈ layout digits leading) : isNumberChar c = true := by
  have hexponent : ∀ c ∈ Nat.toDigits 10 leading.natAbs, isNumberChar c = true := fun c hc =>
    isNumberChar_of_isDigit (isDigit_of_mem_toDigits hc)
  have hdigits : ∀ c ∈ digits, isNumberChar c = true := fun c hc =>
    isNumberChar_of_isDigit (hdigits c hc)
  rw [layout] at hc
  by_cases hscientific : (decide (leading < -5) || decide (16 ≤ leading)) = true
  · rw [if_pos hscientific] at hc
    simp only [List.mem_append, List.mem_cons] at hc
    rcases hc with (hc | hc) | rfl | rfl | hc
    · exact hdigits c (List.mem_of_mem_take hc)
    · split_ifs at hc
      · cases hc
      · rcases List.mem_cons.mp hc with rfl | hc
        · decide
        · exact hdigits c (List.mem_of_mem_drop hc)
    · decide
    · split_ifs <;> decide
    · exact hexponent c hc
  · rw [if_neg hscientific] at hc
    by_cases hsmall : leading < 0
    · rw [if_pos hsmall] at hc
      simp only [List.cons_append, List.mem_cons, List.mem_append] at hc
      rcases hc with rfl | rfl | hc | hc
      · decide
      · decide
      · rw [List.eq_of_mem_replicate hc]
        decide
      · exact hdigits c hc
    · rw [if_neg hsmall] at hc
      simp only [List.mem_append, List.mem_cons] at hc
      rcases hc with (hc | hc) | rfl | hc
      · exact hdigits c (List.mem_of_mem_take hc)
      · rw [List.eq_of_mem_replicate hc]
        decide
      · decide
      · split_ifs at hc
        · rw [List.mem_singleton.mp hc]
          decide
        · exact hdigits c (List.mem_of_mem_drop hc)

theorem mark_mem_layout (digits : List Char) (leading : Int) :
    '.' ∈ layout digits leading ∨ 'e' ∈ layout digits leading := by
  rw [layout]
  by_cases hscientific : (decide (leading < -5) || decide (16 ≤ leading)) = true
  · rw [if_pos hscientific]
    exact Or.inr (List.mem_append_right _ List.mem_cons_self)
  · rw [if_neg hscientific]
    left
    by_cases hsmall : leading < 0
    · rw [if_pos hsmall]
      exact List.mem_cons_of_mem _ List.mem_cons_self
    · rw [if_neg hsmall]
      exact List.mem_append_right _ List.mem_cons_self

/-- The text of the magnitude of a double. -/
theorem exists_magnitude (x : Double) :
    ∃ magnitude : List Char, x.toText = (if x.isNegative then '-' :: magnitude else magnitude) ∧
      (∀ c ∈ magnitude, isNumberChar c = true) ∧ ('.' ∈ magnitude ∨ 'e' ∈ magnitude) := by
  by_cases hzero : x.isZero = true
  · refine ⟨['0', '.', '0'], by rw [toText, if_pos hzero], by simp [isNumberChar, isDigit], by decide⟩
  · refine ⟨_, by rw [toText, if_neg hzero], fun c hc => ?_, mark_mem_layout _ _⟩
    refine isNumberChar_of_mem_layout (fun digit hdigit => ?_) _ hc
    exact isDigit_of_mem_toDigits (mem_dropTrailingZeros hdigit)

theorem isNumberChar_of_mem_toText {x : Double} {c : Char} (hc : c ∈ x.toText) :
    isNumberChar c = true := by
  obtain ⟨magnitude, htext, hchars, -⟩ := x.exists_magnitude
  rw [htext] at hc
  split_ifs at hc
  · rcases List.mem_cons.mp hc with rfl | hc
    · decide
    · exact hchars c hc
  · exact hchars c hc

theorem mark_mem_toText (x : Double) : '.' ∈ x.toText ∨ 'e' ∈ x.toText := by
  obtain ⟨magnitude, htext, -, hmark⟩ := x.exists_magnitude
  rw [htext]
  split_ifs
  · exact hmark.imp (List.mem_cons_of_mem _) (List.mem_cons_of_mem _)
  · exact hmark

end Double

namespace Json

variable {rest rest' : List Char}

/-- A text that does not go on with a number. -/
def EndsValue (rest : List Char) : Prop :=
  ∀ c ∈ rest.head?, isNumberChar c = false

theorem isDigit_or_minus_of_mem_writeInt {n : Int} {c : Char} (hc : c ∈ writeInt n) :
    isDigit c = true ∨ c = '-' := by
  cases n with
  | ofNat k => exact Or.inl (isDigit_of_mem_toDigits hc)
  | negSucc k =>
    rcases List.mem_cons.mp hc with rfl | hc
    · exact Or.inr rfl
    · exact Or.inl (isDigit_of_mem_toDigits hc)

theorem toDigits_injective {n k : Nat} (hsame : Nat.toDigits 10 n = Nat.toDigits 10 k) : n = k := by
  rw [← natOfDigits_toDigits n, hsame, natOfDigits_toDigits]

theorem writeInt_injective {n k : Int} (hsame : writeInt n = writeInt k) : n = k := by
  have hminus : ∀ (m : Nat) (digits : List Char), Nat.toDigits 10 m ≠ '-' :: digits := by
    intro m digits hdigits
    have hdigit := isDigit_of_mem_toDigits (n := m) (hdigits ▸ List.mem_cons_self)
    exact absurd hdigit (by decide)
  cases n with
  | ofNat n =>
    cases k with
    | ofNat k => rw [toDigits_injective hsame]
    | negSucc k => exact absurd hsame (hminus _ _)
  | negSucc n =>
    cases k with
    | ofNat k => exact absurd hsame.symm (hminus _ _)
    | negSucc k => rw [Nat.succ.inj (toDigits_injective (List.cons.inj hsame).2)]

/-- A number in front of a text is the longest part of it that may be one. -/
theorem takeWhile_number {number : List Char} (hnumber : ∀ c ∈ number, isNumberChar c = true)
    (hrest : EndsValue rest) : (number ++ rest).takeWhile isNumberChar = number := by
  rw [List.takeWhile_append_of_pos hnumber]
  cases rest with
  | nil => rw [List.takeWhile_nil, List.append_nil]
  | cons c rest =>
    have hc : ¬isNumberChar c = true := Bool.eq_false_iff.mp (hrest c rfl)
    rw [List.takeWhile_cons_of_neg hc, List.append_nil]

theorem number_unique {number other : List Char} (hnumber : ∀ c ∈ number, isNumberChar c = true)
    (hother : ∀ c ∈ other, isNumberChar c = true) (hrest : EndsValue rest) (hrest' : EndsValue rest')
    (hsame : number ++ rest = other ++ rest') : number = other ∧ rest = rest' := by
  have htaken := congrArg (List.takeWhile isNumberChar) hsame
  rw [takeWhile_number hnumber hrest, takeWhile_number hother hrest'] at htaken
  subst htaken
  exact ⟨rfl, List.append_cancel_left hsame⟩

theorem writeText_unique {text other : String}
    (hsame : writeText text ++ rest = writeText other ++ rest') : text = other ∧ rest = rest' := by
  have hread := readHead_writeText text rest
  rw [hsame, readHead_writeText] at hread
  cases hread
  exact ⟨rfl, rfl⟩

/-! ### Sorts of values -/

/-- The character that tells what a value is. -/
def sort : Json → Char
  | null => 'n'
  | bool true => 't'
  | bool false => 'f'
  | int _ => '0'
  | real _ => '0'
  | str _ => '"'
  | arr _ => '['
  | obj _ => '\x7b'

def sortOf (c : Char) : Char :=
  if isNumberChar c then '0' else c

theorem sort_ne_bracket (value : Json) : value.sort ≠ sortOf ']' := by
  rcases value with _ | (_ | _) | _ | _ | _ | _ | _ <;> simp [sort, sortOf, isNumberChar, isDigit]

theorem exists_sortOf_number {number : List Char} (hsome : number ≠ [])
    (hnumber : ∀ c ∈ number, isNumberChar c = true) :
    ∃ c rest, number = c :: rest ∧ sortOf c = '0' := by
  cases number with
  | nil => exact absurd rfl hsome
  | cons c rest => exact ⟨c, rest, rfl, if_pos (hnumber c List.mem_cons_self)⟩

theorem writeReal_of_finite {x : Double} (hfinite : x.isFinite = true) : writeReal x = x.toText :=
  if_pos hfinite

theorem isNumberChar_of_mem_writeInt {n : Int} {c : Char} (hc : c ∈ writeInt n) :
    isNumberChar c = true := by
  rcases isDigit_or_minus_of_mem_writeInt hc with hdigit | rfl
  · exact Double.isNumberChar_of_isDigit hdigit
  · decide

/-- The text of a value begins as those of its sort do. -/
theorem sort_write {value : Json} (hfinite : ∀ x ∈ value.doubles, x.isFinite = true) :
    ∃ c rest, write value = c :: rest ∧ sortOf c = value.sort := by
  cases value with
  | null => exact ⟨_, _, rfl, by decide⟩
  | bool flag => cases flag <;> exact ⟨_, _, rfl, by decide⟩
  | int n =>
    refine exists_sortOf_number (fun hnil => ?_) fun c => isNumberChar_of_mem_writeInt
    cases n with
    | ofNat k => exact Nat.toDigits_ne_nil hnil
    | negSucc k => cases hnil
  | real x =>
    rw [write, writeReal_of_finite (hfinite x (List.mem_singleton_self x))]
    refine exists_sortOf_number (fun hnil => ?_) fun c => Double.isNumberChar_of_mem_toText
    rcases x.mark_mem_toText with hmark | hmark <;> rw [hnil] at hmark <;> cases hmark
  | str text => exact ⟨_, _, rfl, rfl⟩
  | arr items => exact ⟨_, _, rfl, rfl⟩
  | obj members => exact ⟨_, _, rfl, rfl⟩

theorem sort_eq {value other : Json} (hvalue : ∀ x ∈ value.doubles, x.isFinite = true)
    (hother : ∀ x ∈ other.doubles, x.isFinite = true)
    (hsame : write value ++ rest = write other ++ rest') : value.sort = other.sort := by
  obtain ⟨c, _, hc, hsort⟩ := sort_write hvalue
  obtain ⟨d, _, hd, hsort'⟩ := sort_write hother
  rw [hc, hd, List.cons_append, List.cons_append] at hsame
  rw [← hsort, ← hsort', (List.cons.inj hsame).1]

/-! ### Unique reading -/

/-- Doubles of two values that are finite and told apart by their texts. -/
structure AreTold (doubles others : List Double) : Prop where
  finite : ∀ x ∈ doubles, x.isFinite = true
  others_finite : ∀ x ∈ others, x.isFinite = true
  told : ∀ x ∈ doubles, ∀ y ∈ others, x.toText = y.toText → x = y

theorem AreTold.mono {doubles others first second : List Double} (htold : AreTold doubles others)
    (hfirst : first ⊆ doubles) (hsecond : second ⊆ others) : AreTold first second where
  finite x hx := htold.finite x (hfirst hx)
  others_finite x hx := htold.others_finite x (hsecond hx)
  told x hx y hy := htold.told x (hfirst hx) y (hsecond hy)

/-- No other value is written as this one, whatever follows. -/
def IsUnique (value : Json) : Prop :=
  ∀ (other : Json) (rest rest' : List Char), AreTold value.doubles other.doubles → EndsValue rest →
    EndsValue rest' → write value ++ rest = write other ++ rest' → value = other ∧ rest = rest'

theorem endsValue_writeItems (items : List Json) (rest : List Char) :
    EndsValue (writeItems false items ++ rest) := by
  intro c hc
  cases items <;> cases hc <;> decide

theorem endsValue_writeMembers (members : List (String × Json)) (rest : List Char) :
    EndsValue (writeMembers false members ++ rest) := by
  intro c hc
  cases members <;> cases hc <;> decide

/-- Whether items go on shows in the first character. -/
theorem writeItems_nil_ne {value : Json} (hfinite : ∀ x ∈ value.doubles, x.isFinite = true)
    (first : Bool) (items : List Json) :
    writeItems first [] ++ rest ≠ writeItems first (value :: items) ++ rest' := by
  obtain ⟨c, _, hc, hsort⟩ := sort_write hfinite
  intro hsame
  cases first with
  | false => exact absurd (List.cons.inj hsame).1 (by decide)
  | true =>
    rw [writeItems, writeItems, hc] at hsame
    have hbracket : ']' = c := (List.cons.inj hsame).1
    rw [← hbracket] at hsort
    exact absurd hsort.symm (sort_ne_bracket value)

theorem writeItems_unique {items others : List Json} (hunique : ∀ item ∈ items, item.IsUnique)
    (htold : AreTold (itemDoubles items) (itemDoubles others)) (first : Bool)
    (hsame : writeItems first items ++ rest = writeItems first others ++ rest') :
    items = others ∧ rest = rest' := by
  induction items generalizing others first with
  | nil =>
    cases others with
    | nil => exact ⟨rfl, (List.cons.inj hsame).2⟩
    | cons other others =>
      exact absurd hsame (writeItems_nil_ne (fun x hx => htold.others_finite x
        (mem_itemDoubles.mpr ⟨_, List.mem_cons_self, hx⟩)) first others)
  | cons item items ih =>
    cases others with
    | nil =>
      exact absurd hsame.symm (writeItems_nil_ne (fun x hx => htold.finite x
        (mem_itemDoubles.mpr ⟨_, List.mem_cons_self, hx⟩)) first items)
    | cons other others =>
      rw [writeItems, writeItems, List.append_assoc, List.append_assoc, List.append_assoc,
        List.append_assoc] at hsame
      obtain ⟨rfl, hrest⟩ := hunique item List.mem_cons_self other _ _
        (htold.mono (List.subset_append_left _ _) (List.subset_append_left _ _))
        (endsValue_writeItems items rest) (endsValue_writeItems others rest')
        (List.append_cancel_left hsame)
      obtain ⟨rfl, hend⟩ := ih (fun each heach => hunique each (List.mem_cons_of_mem _ heach))
        (htold.mono (List.subset_append_right _ _) (List.subset_append_right _ _)) false hrest
      exact ⟨rfl, hend⟩

theorem writeMembers_unique {members others : List (String × Json)}
    (hunique : ∀ member ∈ members, member.2.IsUnique)
    (htold : AreTold (memberDoubles members) (memberDoubles others)) (first : Bool)
    (hsame : writeMembers first members ++ rest = writeMembers first others ++ rest') :
    members = others ∧ rest = rest' := by
  induction members generalizing others first with
  | nil =>
    cases others with
    | nil => exact ⟨rfl, (List.cons.inj hsame).2⟩
    | cons other others => cases first <;> exact absurd (List.cons.inj hsame).1 (by decide)
  | cons member members ih =>
    cases others with
    | nil => cases first <;> exact absurd (List.cons.inj hsame).1 (by decide)
    | cons other others =>
      obtain ⟨key, value⟩ := member
      obtain ⟨key', value'⟩ := other
      rw [writeMembers, writeMembers] at hsame
      simp only [List.append_assoc, List.cons_append] at hsame
      obtain ⟨rfl, hvalues⟩ := writeText_unique (List.append_cancel_left hsame)
      obtain ⟨rfl, hrest⟩ := hunique (key, value) List.mem_cons_self value' _ _
        (htold.mono (List.subset_append_left _ _) (List.subset_append_left _ _))
        (endsValue_writeMembers members rest) (endsValue_writeMembers others rest')
        (List.cons.inj hvalues).2
      obtain ⟨rfl, hend⟩ := ih (fun each heach => hunique each (List.mem_cons_of_mem _ heach))
        (htold.mono (List.subset_append_right _ _) (List.subset_append_right _ _)) false hrest
      exact ⟨rfl, hend⟩

/-- An integer has neither a point nor an exponent. -/
theorem writeInt_ne_toText (n : Int) (x : Double) : writeInt n ≠ x.toText := by
  intro hsame
  rcases x.mark_mem_toText with hmark | hmark <;> rw [← hsame] at hmark <;>
    rcases isDigit_or_minus_of_mem_writeInt hmark with hdigit | hminus <;>
    first
      | exact absurd hdigit (by decide)
      | exact absurd hminus (by decide)

/-- A value is read off its text in one way only. -/
theorem isUnique (value : Json) : value.IsUnique := by
  induction hsize : sizeOf value using Nat.strong_induction_on generalizing value with
  | _ size ih =>
    subst hsize
    intro other rest rest' htold hrest hrest' hsame
    have hsort := sort_eq htold.finite htold.others_finite hsame
    rcases value with _ | (_ | _) | n | x | text | items | members <;>
      rcases other with _ | (_ | _) | k | y | text' | items' | members' <;>
      first
        | (simp [sort] at hsort; done)
        | skip
    · exact ⟨rfl, List.append_cancel_left hsame⟩
    · exact ⟨rfl, List.append_cancel_left hsame⟩
    · exact ⟨rfl, List.append_cancel_left hsame⟩
    · obtain ⟨htext, hend⟩ := number_unique (fun _ => isNumberChar_of_mem_writeInt)
        (fun _ => isNumberChar_of_mem_writeInt) hrest hrest' hsame
      exact ⟨by rw [writeInt_injective htext], hend⟩
    · rw [write, write, writeReal_of_finite (htold.others_finite y (List.mem_singleton_self y))] at hsame
      exact absurd (number_unique (fun _ => isNumberChar_of_mem_writeInt)
        (fun _ => Double.isNumberChar_of_mem_toText) hrest hrest' hsame).1 (writeInt_ne_toText n y)
    · rw [write, write, writeReal_of_finite (htold.finite x (List.mem_singleton_self x))] at hsame
      exact absurd (number_unique (fun _ => Double.isNumberChar_of_mem_toText)
        (fun _ => isNumberChar_of_mem_writeInt) hrest hrest' hsame).1.symm (writeInt_ne_toText k x)
    · rw [write, write, writeReal_of_finite (htold.finite x (List.mem_singleton_self x)),
        writeReal_of_finite (htold.others_finite y (List.mem_singleton_self y))] at hsame
      obtain ⟨htext, hend⟩ := number_unique (fun _ => Double.isNumberChar_of_mem_toText)
        (fun _ => Double.isNumberChar_of_mem_toText) hrest hrest' hsame
      have hxy := htold.told x (List.mem_singleton_self x) y (List.mem_singleton_self y) htext
      exact ⟨by rw [hxy], hend⟩
    · obtain ⟨htext, hend⟩ := writeText_unique hsame
      exact ⟨by rw [htext], hend⟩
    · have hunique : ∀ item ∈ items, item.IsUnique := fun item hitem => by
        have hless := List.sizeOf_lt_of_mem hitem
        exact ih _ (by simp only [arr.sizeOf_spec]; omega) item rfl
      obtain ⟨hitems, hend⟩ := writeItems_unique hunique htold true (List.cons.inj hsame).2
      exact ⟨by rw [hitems], hend⟩
    · have hunique : ∀ member ∈ members, member.2.IsUnique := fun member hmember => by
        have hless := List.sizeOf_lt_of_mem hmember
        obtain ⟨key, value⟩ := member
        refine ih _ ?_ value rfl
        simp only [Prod.mk.sizeOf_spec] at hless
        simp only [obj.sizeOf_spec]
        omega
      obtain ⟨hmembers, hend⟩ := writeMembers_unique hunique htold true (List.cons.inj hsame).2
      exact ⟨by rw [hmembers], hend⟩

/-- Values with equal texts are equal. -/
theorem eq_of_text_eq {value other : Json} (htold : AreTold value.doubles other.doubles)
    (hsame : value.text = other.text) : value = other :=
  (isUnique value other [] [] htold (fun _ hc => nomatch hc) (fun _ hc => nomatch hc)
    (congrArg (· ++ []) (String.ofList_injective hsame))).1

end Json

end KnowledgeSchema
