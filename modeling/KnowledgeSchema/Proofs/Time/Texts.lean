import Mathlib.Algebra.Group.Nat.Defs
import Mathlib.Data.List.TakeWhile
import KnowledgeSchema.Time.Reader

/-!
# Timestamps read from texts

A timestamp comes back from its text in a row, as long as its year has four digits, and from its text in
a document in any case.

A row keeps timestamps as texts. Reading such a text gives the timestamp it was written from as long
as the year has four digits, and it gives nothing otherwise, never another timestamp.

The text of a timestamp in a document is read as that timestamp, in years of any length and with any
part of a second. So no two timestamps have one text.
-/

namespace KnowledgeSchema.Timestamp

/-! ### Numbers -/

theorem isDigit_of_mem_padded {width n : Nat} {c : Char} (hc : c ∈ padded width n) :
    isDigit c = true := by
  rcases List.mem_append.mp hc with hc | hc
  · rw [List.eq_of_mem_replicate hc]
    decide
  · have hdigit := Nat.isDigit_of_mem_toDigits (by decide) (by decide) hc
    simpa [isDigit, Char.isDigit, Char.le_def] using hdigit

theorem natOf_padded (width n : Nat) : natOf (padded width n) = n := by
  have hfold := @Nat.ofDigitChars_eq_foldl 10 (padded width n) 0
  rw [natOf, ← hfold, padded, Nat.ofDigitChars_append, Nat.ofDigitChars_replicate_zero,
    Nat.mul_zero, Nat.ofDigitChars_ten_toDigits]

theorem length_padded {width n : Nat} (hwidth : 0 < width) (hn : n < 10 ^ width) :
    (padded width n).length = width := by
  have hdigits := (Nat.length_toDigits_le_iff (by decide) hwidth).mpr hn
  rw [padded, List.length_append, List.length_replicate]
  omega

theorem number_padded_of_le {least width n : Nat} (hleast : least ≤ width) (hwidth : 0 < width)
    (hn : n < 10 ^ width) (rest : List Char) :
    number least width (padded width n ++ rest) = some (n, rest) := by
  have hlength := length_padded hwidth hn
  have htake : (padded width n ++ rest).take width = padded width n := List.take_left' hlength
  have hdigits : (padded width n).takeWhile isDigit = padded width n :=
    List.takeWhile_eq_self_iff.mpr fun c hc => isDigit_of_mem_padded hc
  simp only [number, htake, hdigits, hlength, if_neg (Nat.not_lt.mpr hleast), natOf_padded]
  rw [List.drop_left' hlength]

theorem number_padded {width n : Nat} (hwidth : 0 < width) (hn : n < 10 ^ width)
    (rest : List Char) : number width width (padded width n ++ rest) = some (n, rest) :=
  number_padded_of_le (Nat.le_refl width) hwidth hn rest

/-! ### Parts of a second -/

theorem fraction_padded {width n : Nat} (hwidth : 0 < width) (hnine : width ≤ 9)
    (hn : n < 10 ^ width) {c : Char} (hc : isDigit c = false) (rest : List Char) :
    fraction ('.' :: padded width n ++ c :: rest) = some (n * 10 ^ (9 - width), c :: rest) := by
  have hlength := length_padded hwidth hn
  have hdigits : (padded width n ++ c :: rest).takeWhile isDigit = padded width n := by
    rw [List.takeWhile_append_of_pos fun c hc => isDigit_of_mem_padded hc,
      List.takeWhile_cons_of_neg (Bool.eq_false_iff.mp hc), List.append_nil]
  have hkept : (padded width n).take 9 = padded width n :=
    List.take_of_length_le (hlength.le.trans hnine)
  have hsome : (padded width n).isEmpty = false := by
    rw [List.isEmpty_eq_false_iff, ← List.length_pos_iff, hlength]
    exact hwidth
  simp only [List.cons_append, fraction, hdigits, hkept, hsome, natOf_padded, hlength,
    Bool.false_eq_true, if_false, Nat.pow_eq]
  rw [List.drop_left' hlength]

/-- The part of a second is read up to whatever can be no part of it. -/
theorem fraction_fractionText (t : Timestamp) {c : Char} (hc : isDigit c = false) (hpoint : c ≠ '.')
    (rest : List Char) :
    fraction (t.fractionText ++ c :: rest) = some (t.nano % 1000000000, c :: rest) := by
  have hnano : t.nano % 1000000000 < 1000000000 := Nat.mod_lt _ (by decide)
  simp only [fractionText]
  split_ifs with hzero hmilli hmicro
  · rw [hzero, List.nil_append, fraction]
    intro _ heq
    exact hpoint (List.cons.inj heq).1
  · rw [fraction_padded (by decide) (by decide) (by omega) hc]
    congr 2
    omega
  · rw [fraction_padded (by decide) (by decide) (by omega) hc]
    congr 2
    omega
  · rw [fraction_padded (by decide) (by decide) (by omega) hc]
    simp

/-! ### Whole texts -/

theorem ofClock?_clock (t : Timestamp) :
    ofClock? t.date (t.second / 3600) (t.second / 60 % 60) (t.second % 60 + t.nano / 1000000000)
      (t.nano % 1000000000) 0 = some t := by
  have hsecond := t.second_range
  have hnano := t.nano_range
  have hof : ∀ second nano, second = t.second → nano = t.nano →
      ofLocal? t.date second nano 0 = some t := by
    rintro second nano rfl rfl
    have hearly : ¬(t.second : Int) < 0 := by omega
    have hlate : ¬86400 ≤ (t.second : Int) := by omega
    simp only [ofLocal?, Int.sub_zero, if_neg hearly, if_neg hlate, of?, Int.toNat_natCast,
      dif_pos hsecond, dif_pos hnano]
  have hclock : (decide (t.second / 3600 ≤ 23) && decide (t.second / 60 % 60 ≤ 59) &&
      decide (t.second % 60 + t.nano / 1000000000 ≤ 60) &&
      decide ((0 : Int).natAbs < 86400)) = true := by
    simp only [Bool.and_eq_true, decide_eq_true_eq, Int.natAbs_zero]
    omega
  rw [ofClock?, if_pos hclock]
  split_ifs with hleap
  · exact hof _ _ (by omega) (by omega)
  · exact hof _ _ (by omega) (by omega)

theorem month_lt (date : Date) : date.month < 10 ^ 2 := by
  have hrange := date.month_range
  omega

theorem day_lt (date : Date) : date.day < 10 ^ 2 := by
  have hrange := date.day_range
  have hmost : daysInMonth date.year date.month ≤ 31 := by
    unfold daysInMonth
    split <;> try split
    all_goals decide
  omega

theorem yearText_of_readable {year : Int} (hreadable : 0 ≤ year ∧ year ≤ 9999) :
    yearText year = padded 4 year.toNat := by
  have hnegative : ¬year < 0 := by omega
  have hlong : ¬9999 < year := by omega
  rw [yearText, if_neg hnegative, if_neg hlong]
  congr 1
  omega

/-- A reader gives back the timestamp that was stored, leap seconds included. -/
theorem ofStoredText?_storedText (t : Timestamp)
    (hreadable : 0 ≤ t.date.year ∧ t.date.year ≤ 9999) :
    ofStoredText? t.storedText = some t := by
  have hyear : t.date.year.toNat < 10 ^ 4 := by omega
  have hsecond := t.second_range
  have hnano := t.nano_range
  have hdate : Date.of? (t.date.year.toNat : Int) t.date.month t.date.day = some t.date := by
    rw [Int.toNat_of_nonneg hreadable.1]
    exact Date.of?_eq t.date
  simp only [ofStoredText?, storedText, String.toList_ofList, instantText, dateText, clockText,
    yearText_of_readable hreadable, List.append_assoc, List.cons_append]
  rw [number_padded (by decide) hyear]
  simp only [expect, Option.bind_eq_bind, Option.bind_some, if_true]
  rw [number_padded (by decide) (month_lt t.date)]
  simp only [Option.bind_some, if_true]
  rw [number_padded (by decide) (day_lt t.date)]
  simp only [separator, Option.bind_some]
  rw [number_padded (by decide) (by omega)]
  simp only [Option.bind_some, if_true]
  rw [number_padded (by decide) (by omega)]
  simp only [Option.bind_some, if_true]
  rw [number_padded (by decide) (by omega)]
  have hoffset : offset (expect ':') "+00:00".toList = some (0, []) := by rfl
  have htail : "+00:00".toList = '+' :: "00:00".toList := by rfl
  rw [htail] at hoffset
  have hfraction := fun rest => fraction_fractionText t (c := '+') rfl (by decide) rest
  simp only [Option.bind_some, htail, hfraction, hoffset, List.isEmpty_nil, if_true,
    hdate, ofClock?_clock]

/-- A year outside of four digits is written with a sign, which the reader of stored texts does not
take. -/
theorem ofStoredText?_storedText_of_unreadable (t : Timestamp)
    (hunreadable : ¬(0 ≤ t.date.year ∧ t.date.year ≤ 9999)) :
    ofStoredText? t.storedText = none := by
  have hsign : ∃ sign digits, isDigit sign = false ∧ yearText t.date.year = sign :: digits := by
    unfold yearText
    split_ifs with hnegative hlong
    · exact ⟨'-', _, by decide, rfl⟩
    · exact ⟨'+', _, by decide, rfl⟩
    · omega
  obtain ⟨sign, digits, hsign, hyear⟩ := hsign
  simp [ofStoredText?, storedText, instantText, dateText, hyear, number, hsign]

theorem eq_of_ofStoredText?_storedText {t read : Timestamp}
    (hread : ofStoredText? t.storedText = some read) : read = t := by
  by_cases hreadable : 0 ≤ t.date.year ∧ t.date.year ≤ 9999
  · rw [ofStoredText?_storedText t hreadable] at hread
    exact (Option.some.inj hread).symm
  · rw [ofStoredText?_storedText_of_unreadable t hreadable] at hread
    cases hread

/-! ### Timestamps in documents -/

open Text (isBlank trimLeft)

variable {rest : List Char}

theorem trimLeft_cons {c : Char} (hc : isBlank c = false) : trimLeft (c :: rest) = c :: rest :=
  List.dropWhile_cons_of_neg (Bool.eq_false_iff.mp hc)

theorem isBlank_of_isDigit {c : Char} (hc : isDigit c = true) : isBlank c = false := by
  simp only [isDigit, Bool.and_eq_true, decide_eq_true_eq, Char.le_def, UInt32.le_iff_toNat_le] at hc
  have hlow : 48 ≤ c.toNat := hc.1
  have hhigh : c.toNat ≤ 57 := hc.2
  simp only [isBlank, Bool.or_eq_false_iff, Bool.and_eq_false_iff, decide_eq_false_iff_not,
    beq_eq_false_iff_ne]
  omega

theorem exists_padded_eq_cons (width n : Nat) :
    ∃ digit digits, padded width n = digit :: digits ∧ isDigit digit = true := by
  cases hpadded : padded width n with
  | nil => exact absurd (List.append_eq_nil_iff.mp hpadded).2 Nat.toDigits_ne_nil
  | cons digit digits =>
    have hmem : digit ∈ padded width n := hpadded ▸ List.mem_cons_self
    exact ⟨digit, digits, rfl, isDigit_of_mem_padded hmem⟩

theorem trimLeft_padded (width n : Nat) : trimLeft (padded width n ++ rest) = padded width n ++ rest := by
  obtain ⟨digit, digits, hpadded, hdigit⟩ := exists_padded_eq_cons width n
  rw [hpadded, List.cons_append, trimLeft_cons (isBlank_of_isDigit hdigit)]

/-! ### Parts of a text -/

theorem lenientNumber_padded {n : Nat} (hn : n < 10 ^ 2) (rest : List Char) :
    lenientNumber (padded 2 n ++ rest) = some (n, rest) := by
  rw [lenientNumber, trimLeft_padded, number_padded_of_le (by decide) (by decide) hn]

theorem lenientExpect_cons {c : Char} (hc : isBlank c = false) (rest : List Char) :
    lenientExpect c (c :: rest) = some rest := by
  rw [lenientExpect, trimLeft_cons hc, expect, if_pos rfl]

theorem longNumber_padded (width n : Nat) {c : Char} (hc : isDigit c = false) (rest : List Char) :
    longNumber (padded width n ++ c :: rest) = some (n, c :: rest) := by
  have hdigits : (padded width n ++ c :: rest).takeWhile isDigit = padded width n := by
    rw [List.takeWhile_append_of_pos fun c hc => isDigit_of_mem_padded hc,
      List.takeWhile_cons_of_neg (Bool.eq_false_iff.mp hc), List.append_nil]
  have hsome : ¬(padded width n).length < 1 := by
    obtain ⟨digit, digits, hpadded, -⟩ := exists_padded_eq_cons width n
    simp [hpadded]
  rw [longNumber, number, List.take_length]
  simp only [hdigits, if_neg hsome, natOf_padded, List.drop_left]

theorem lenientYear_yearText (year : Int) (rest : List Char) :
    lenientYear (yearText year ++ '-' :: rest) = some (year, '-' :: rest) := by
  have hminus : isDigit '-' = false := by decide
  rw [yearText]
  split_ifs with hnegative hlong
  · rw [lenientYear, List.cons_append, trimLeft_cons (by decide)]
    simp only [longNumber_padded 4 year.natAbs hminus, Option.bind_eq_bind, Option.bind_some]
    congr 2
    omega
  · rw [lenientYear, List.cons_append, trimLeft_cons (by decide)]
    simp only [longNumber_padded 4 year.natAbs hminus, Option.bind_eq_bind, Option.bind_some]
    congr 2
    omega
  · have hnumber := @number_padded_of_le 1 4 year.natAbs (by decide) (by decide) (by omega)
      ('-' :: rest)
    obtain ⟨digit, digits, hpadded, hdigit⟩ := exists_padded_eq_cons 4 year.natAbs
    have hvalue : ((year.natAbs : Int), '-' :: rest) = (year, '-' :: rest) := by
      congr 1
      omega
    rw [lenientYear, trimLeft_padded]
    rw [hpadded, List.cons_append] at hnumber ⊢
    -- a digit is no sign
    split
    next heq =>
      rw [(List.cons.inj heq).1] at hdigit
      cases hdigit
    next heq =>
      rw [(List.cons.inj heq).1] at hdigit
      cases hdigit
    next =>
      rw [hnumber]
      exact congrArg some hvalue

/-- A reader of documents gives back the timestamp that was written. -/
theorem ofText?_text (t : Timestamp) : ofText? t.text = some t := by
  have hsecond := t.second_range
  have hnano := t.nano_range
  have hhour : t.second / 3600 < 10 ^ 2 := by omega
  have hminute : t.second / 60 % 60 < 10 ^ 2 := by omega
  have hlast : t.second % 60 + t.nano / 1000000000 < 10 ^ 2 := by omega
  have hfraction := t.fraction_fractionText (c := 'Z') (by decide) (by decide) []
  have hoffset : lenientOffset (trimLeft ['Z']) = some (0, []) := by decide
  have hlayout : t.text.toList = yearText t.date.year ++ '-' :: (padded 2 t.date.month ++
      '-' :: (padded 2 t.date.day ++ 'T' :: (padded 2 (t.second / 3600) ++
        ':' :: (padded 2 (t.second / 60 % 60) ++
          ':' :: (padded 2 (t.second % 60 + t.nano / 1000000000) ++ (t.fractionText ++ ['Z'])))))) := by
    simp only [text, String.toList_ofList, instantText, dateText, clockText, List.append_assoc,
      List.cons_append]
  rw [ofText?, hlayout]
  refine Option.bind_eq_some_iff.mpr ⟨_, lenientYear_yearText _ _, ?_⟩
  refine Option.bind_eq_some_iff.mpr ⟨_, lenientExpect_cons (by decide) _, ?_⟩
  refine Option.bind_eq_some_iff.mpr ⟨_, lenientNumber_padded (month_lt t.date) _, ?_⟩
  refine Option.bind_eq_some_iff.mpr ⟨_, lenientExpect_cons (by decide) _, ?_⟩
  refine Option.bind_eq_some_iff.mpr ⟨_, lenientNumber_padded (day_lt t.date) _, ?_⟩
  refine Option.bind_eq_some_iff.mpr ⟨_, rfl, ?_⟩
  refine Option.bind_eq_some_iff.mpr ⟨_, lenientNumber_padded hhour _, ?_⟩
  refine Option.bind_eq_some_iff.mpr ⟨_, lenientExpect_cons (by decide) _, ?_⟩
  refine Option.bind_eq_some_iff.mpr ⟨_, lenientNumber_padded hminute _, ?_⟩
  refine Option.bind_eq_some_iff.mpr ⟨_, lenientExpect_cons (by decide) _, ?_⟩
  refine Option.bind_eq_some_iff.mpr ⟨_, lenientNumber_padded hlast _, ?_⟩
  refine Option.bind_eq_some_iff.mpr ⟨_, hfraction, ?_⟩
  refine Option.bind_eq_some_iff.mpr ⟨_, hoffset, ?_⟩
  exact Option.bind_eq_some_iff.mpr ⟨_, Date.of?_eq t.date, ofClock?_clock t⟩

theorem text_injective : Function.Injective text := by
  intro t u hsame
  have hread := ofText?_text t
  rw [hsame, ofText?_text] at hread
  exact (Option.some.inj hread).symm

end KnowledgeSchema.Timestamp
