import Mathlib.Data.Nat.Bitwise
import KnowledgeSchema.Text.Blank
import KnowledgeSchema.Text.Case

/-!
# Texts in one case

A text that is in upper or in lower case is not changed by changing its case again, and the blanks
at its ends are those that it had before.
-/

namespace KnowledgeSchema.Text

/-! ### Sets of numbers -/

/-- A set of numbers as the bits of one number. -/
def mask (codes : List Nat) : Nat :=
  codes.foldr (fun code set => set ||| 1 <<< code) 0

theorem testBit_mask {codes : List Nat} {code : Nat} :
    (mask codes).testBit code = true ↔ code ∈ codes := by
  induction codes with
  | nil => simp [mask]
  | cons first rest ih =>
    rw [mask, List.foldr_cons, ← mask, Nat.testBit_or, Bool.or_eq_true, ih, List.mem_cons, or_comm]
    refine or_congr_left ?_
    rw [Nat.one_shiftLeft, Nat.testBit_two_pow, decide_eq_true_eq, eq_comm]

theorem not_mem_of_mask {first second : List Nat} (hdisjoint : mask first &&& mask second = 0)
    {code : Nat} (hcode : code ∈ first) : code ∉ second := by
  intro hmem
  have hbit : (mask first &&& mask second).testBit code = true := by
    rw [Nat.testBit_and, testBit_mask.mpr hcode, testBit_mask.mpr hmem]
    rfl
  rw [hdisjoint, Nat.zero_testBit] at hbit
  cases hbit

/-! ### Mapped characters -/

def CaseRun.codes (run : CaseRun) : List Nat :=
  (List.range ((run.last - run.first) / run.stride + 1)).map fun step =>
    run.first + step * run.stride

def CaseRun.shifted (run : CaseRun) (code : Nat) : Char :=
  Char.ofNat ((code : Int) + run.shift).toNat

/-- The characters that map to something else. -/
def sources (runs : List CaseRun) (expansions : List (Nat × List Nat)) : List Nat :=
  runs.flatMap CaseRun.codes ++ expansions.map (·.1)

/-- The characters that something else maps to. -/
def images (runs : List CaseRun) (expansions : List (Nat × List Nat)) : List Char :=
  runs.flatMap (fun run => run.codes.map run.shifted) ++
    expansions.flatMap fun (_, codes) => codes.map Char.ofNat

theorem CaseRun.mem_codes {run : CaseRun} {code : Nat} (hcovers : run.covers code = true) :
    code ∈ run.codes := by
  simp only [covers, Bool.and_eq_true, decide_eq_true_eq, beq_iff_eq] at hcovers
  obtain ⟨⟨hfirst, hlast⟩, hstride⟩ := hcovers
  refine List.mem_map.mpr ⟨(code - run.first) / run.stride, ?_, ?_⟩
  · rw [List.mem_range, Nat.lt_succ_iff]
    exact Nat.div_le_div_right (by omega)
  · rw [Nat.div_mul_cancel (Nat.dvd_of_mod_eq_zero hstride)]
    omega

variable {runs : List CaseRun} {expansions : List (Nat × List Nat)} {c image : Char}

theorem mem_of_lookup {code : Nat} {codes : List Nat}
    (hlookup : expansions.lookup code = some codes) : (code, codes) ∈ expansions := by
  induction expansions with
  | nil => cases hlookup
  | cons entry rest ih =>
    obtain ⟨key, value⟩ := entry
    rw [List.lookup_cons] at hlookup
    cases hkey : code == key with
    | true =>
      rw [hkey] at hlookup
      cases hlookup
      rw [beq_iff_eq.mp hkey]
      exact List.mem_cons_self
    | false =>
      rw [hkey] at hlookup
      exact List.mem_cons_of_mem _ (ih hlookup)

theorem mapCase_of_not_mem (hsource : c.toNat ∉ sources runs expansions) :
    mapCase runs expansions c = [c] := by
  rw [sources, List.mem_append, not_or] at hsource
  have hrun : runs.find? (·.covers c.toNat) = none := by
    refine List.find?_eq_none.mpr fun run hrun hcovers => hsource.1 ?_
    exact List.mem_flatMap.mpr ⟨run, hrun, CaseRun.mem_codes hcovers⟩
  rw [mapCase, hrun]
  cases hcodes : expansions.lookup c.toNat with
  | none => rfl
  | some codes => exact absurd (List.mem_map_of_mem (mem_of_lookup hcodes)) hsource.2

/-- A character is its own mapping, or the mapping is made of images. -/
theorem mapCase_eq_or (runs : List CaseRun) (expansions : List (Nat × List Nat)) (c : Char) :
    mapCase runs expansions c = [c] ∨
      ∀ image ∈ mapCase runs expansions c, image ∈ images runs expansions := by
  rw [mapCase]
  cases hrun : runs.find? (·.covers c.toNat) with
  | some run =>
    refine Or.inr fun image himage => List.mem_append_left _ ?_
    have hcovers : run.covers c.toNat = true := by simpa using List.find?_some hrun
    rw [List.mem_singleton.mp himage]
    exact List.mem_flatMap.mpr
      ⟨run, List.mem_of_find?_eq_some hrun, List.mem_map_of_mem (CaseRun.mem_codes hcovers)⟩
  | none =>
    cases hcodes : expansions.lookup c.toNat with
    | none => exact Or.inl rfl
    | some codes =>
      refine Or.inr fun image himage => List.mem_append_right _ ?_
      exact List.mem_flatMap.mpr ⟨(c.toNat, codes), mem_of_lookup hcodes, himage⟩

def blankCodes : List Nat :=
  List.range' 0x09 5 ++ [0x20, 0x85, 0xA0, 0x1680] ++ List.range' 0x2000 11 ++
    [0x2028, 0x2029, 0x202F, 0x205F, 0x3000]

theorem mem_blankCodes (hblank : isBlank c = true) : c.toNat ∈ blankCodes := by
  simp only [isBlank, Bool.or_eq_true, Bool.and_eq_true, decide_eq_true_eq, beq_iff_eq] at hblank
  simp only [blankCodes, List.mem_append, List.mem_range'_1, List.mem_cons, List.not_mem_nil,
    or_false]
  omega

/-- No image is mapped any further, and none is a blank. -/
theorem mapCase_image
    (htables : mask ((images runs expansions).map Char.toNat) &&&
      mask (sources runs expansions ++ blankCodes) = 0)
    (himage : image ∈ images runs expansions) :
    mapCase runs expansions image = [image] ∧ isBlank image = false := by
  have hfree := not_mem_of_mask htables (List.mem_map_of_mem himage)
  rw [List.mem_append, not_or] at hfree
  refine ⟨mapCase_of_not_mem hfree.1, ?_⟩
  rw [Bool.eq_false_iff]
  exact fun hblank => hfree.2 (mem_blankCodes hblank)

theorem mask_images_upper :
    mask ((images upperRuns upperExpansions).map Char.toNat) &&&
      mask (sources upperRuns upperExpansions ++ blankCodes) = 0 := by
  decide +kernel

theorem mask_images_lower :
    mask ((images lowerRuns lowerExpansions).map Char.toNat) &&&
      mask (sources lowerRuns lowerExpansions ++ blankCodes) = 0 := by
  decide +kernel

theorem mapCase_mapped
    (htables : mask ((images runs expansions).map Char.toNat) &&&
      mask (sources runs expansions ++ blankCodes) = 0)
    (hmapped : image ∈ mapCase runs expansions c) :
    mapCase runs expansions image = [image] ∧ (isBlank c = false → isBlank image = false) := by
  rcases mapCase_eq_or runs expansions c with hself | himages
  · rw [hself, List.mem_singleton] at hmapped
    rw [hmapped]
    exact ⟨hself, fun hblank => hblank⟩
  · obtain ⟨hfixed, hblank⟩ := mapCase_image htables (himages image hmapped)
    exact ⟨hfixed, fun _ => hblank⟩

/-! ### Trimmed texts -/

/-- A text that neither begins nor ends with a blank. -/
def IsTrimmed (text : List Char) : Prop :=
  (∀ c ∈ text.head?, isBlank c = false) ∧ ∀ c ∈ text.getLast?, isBlank c = false

theorem trimLeft_of_head {text : List Char} (hhead : ∀ c ∈ text.head?, isBlank c = false) :
    trimLeft text = text := by
  cases text with
  | nil => rfl
  | cons c rest => rw [trimLeft, List.dropWhile_cons_of_neg (by simpa using hhead c rfl)]

theorem head_trimLeft (text : List Char) : ∀ c ∈ (trimLeft text).head?, isBlank c = false := by
  intro c hc
  have hhead := List.head?_dropWhile_not isBlank text
  rw [trimLeft] at hc
  rw [hc] at hhead
  simpa using hhead

theorem getLast?_trimLeft {text : List Char} (hlast : ∀ c ∈ text.getLast?, isBlank c = false) :
    (trimLeft text).getLast? = text.getLast? := by
  induction text with
  | nil => rfl
  | cons c rest ih =>
    by_cases hblank : isBlank c = true
    · rw [trimLeft, List.dropWhile_cons_of_pos hblank, ← trimLeft]
      cases rest with
      | nil => simp [hblank] at hlast
      | cons next rest =>
        rw [List.getLast?_cons_cons] at hlast ⊢
        exact ih hlast
    · rw [trimLeft, List.dropWhile_cons_of_neg hblank]

theorem isTrimmed_trim (text : List Char) : IsTrimmed (trim text) := by
  rw [IsTrimmed, trim, List.head?_reverse, List.getLast?_reverse]
  refine ⟨?_, head_trimLeft _⟩
  rw [getLast?_trimLeft]
  · rw [List.getLast?_reverse]
    exact head_trimLeft text
  · rw [List.getLast?_reverse]
    exact head_trimLeft text

theorem IsTrimmed.trim {text : List Char} (htrimmed : IsTrimmed text) : trim text = text := by
  rw [Text.trim, trimLeft_of_head htrimmed.1, trimLeft_of_head, List.reverse_reverse]
  rw [List.head?_reverse]
  exact htrimmed.2

theorem head?_append_of_ne_nil {first second : List Char} (hfirst : first ≠ []) :
    (first ++ second).head? = first.head? := by
  cases first with
  | nil => exact absurd rfl hfirst
  | cons c rest => rfl

/-- What every character is replaced by leaves a text trimmed, if it is something and no blank. -/
theorem IsTrimmed.of_pieces {pieces : List (Char × List Char)}
    (hpieces : ∀ piece ∈ pieces, piece.2 ≠ [] ∧
      (isBlank piece.1 = false → ∀ image ∈ piece.2, isBlank image = false))
    (htrimmed : IsTrimmed (pieces.map (·.1))) : IsTrimmed (pieces.flatMap (·.2)) := by
  constructor
  · cases pieces with
    | nil => intro c hc; cases hc
    | cons piece rest =>
      obtain ⟨hsome, hblank⟩ := hpieces piece List.mem_cons_self
      rw [List.flatMap_cons, head?_append_of_ne_nil hsome]
      intro c hc
      exact hblank (htrimmed.1 _ rfl) c (List.mem_of_mem_head? hc)
  · rcases List.eq_nil_or_concat pieces with rfl | ⟨rest, piece, rfl⟩
    · intro c hc
      cases hc
    · obtain ⟨hsome, hblank⟩ := hpieces piece (by simp)
      have hlast : isBlank piece.1 = false := htrimmed.2 _ (by simp)
      intro c hc
      refine hblank hlast c (List.mem_of_mem_getLast? ?_)
      simpa [List.getLast?_append, hsome] using hc

/-! ### Upper case -/

theorem upperChar_mapped (hmapped : image ∈ upperChar c) :
    upperChar image = [image] ∧ (isBlank c = false → isBlank image = false) :=
  mapCase_mapped mask_images_upper hmapped

theorem mapCase_ne_nil (hsome : ∀ entry ∈ expansions, entry.2 ≠ []) (c : Char) :
    mapCase runs expansions c ≠ [] := by
  rw [mapCase]
  cases runs.find? (·.covers c.toNat) with
  | some run => exact List.cons_ne_nil _ _
  | none =>
    cases hcodes : expansions.lookup c.toNat with
    | none => exact List.cons_ne_nil _ _
    | some codes => simpa using hsome _ (mem_of_lookup hcodes)

theorem upperChar_ne_nil (c : Char) : upperChar c ≠ [] :=
  mapCase_ne_nil (by decide) c

theorem upper_of_fixed {text : List Char} (hfixed : ∀ c ∈ text, upperChar c = [c]) :
    upper text = text := by
  induction text with
  | nil => rfl
  | cons c rest ih =>
    rw [upper, List.flatMap_cons, ← upper, hfixed c List.mem_cons_self,
      ih fun other hother => hfixed other (List.mem_cons_of_mem _ hother)]
    rfl

theorem upper_upper (text : List Char) : upper (upper text) = upper text := by
  refine upper_of_fixed fun image himage => ?_
  obtain ⟨c, -, hmapped⟩ := List.mem_flatMap.mp himage
  exact (upperChar_mapped hmapped).1

theorem isTrimmed_upper {text : List Char} (htrimmed : IsTrimmed text) : IsTrimmed (upper text) := by
  have hpieces : IsTrimmed ((text.map fun c => (c, upperChar c)).flatMap (·.2)) := by
    refine IsTrimmed.of_pieces (fun piece hpiece => ?_) (by simpa [Function.comp_def] using htrimmed)
    obtain ⟨c, -, rfl⟩ := List.mem_map.mp hpiece
    exact ⟨upperChar_ne_nil c, fun hblank image himage => (upperChar_mapped himage).2 hblank⟩
  rwa [List.flatMap_map] at hpieces

/-! ### Lower case -/

theorem lowerChar_mapped (hmapped : image ∈ lowerChar c) :
    lowerChar image = [image] ∧ (isBlank c = false → isBlank image = false) :=
  mapCase_mapped mask_images_lower hmapped

theorem lowerChar_ne_nil (c : Char) : lowerChar c ≠ [] :=
  mapCase_ne_nil (by decide) c

/-- What a character becomes between the ones before it and after it. -/
def lowered (before : List Char) (c : Char) (rest : List Char) : List Char :=
  if c = 'Σ' then [smallSigma before rest] else lowerChar c

theorem lowered_mapped {before rest : List Char} (hmapped : image ∈ lowered before c rest) :
    lowerChar image = [image] ∧ image ≠ 'Σ' ∧ (isBlank c = false → isBlank image = false) := by
  have hsigma : ∀ image, lowerChar image = [image] → image ≠ 'Σ' := by
    rintro _ hfixed rfl
    have hsmall : lowerChar 'Σ' = ['σ'] := by decide +kernel
    exact absurd (hsmall.symm.trans hfixed) (by decide)
  rw [lowered] at hmapped
  split_ifs at hmapped with hcapital
  · rw [List.mem_singleton, smallSigma] at hmapped
    split_ifs at hmapped
    · subst hmapped
      exact ⟨by decide +kernel, by decide, fun _ => by decide⟩
    · subst hmapped
      exact ⟨by decide +kernel, by decide, fun _ => by decide⟩
  · obtain ⟨hfixed, hblank⟩ := lowerChar_mapped hmapped
    exact ⟨hfixed, hsigma image hfixed, hblank⟩

theorem lowered_ne_nil (before rest : List Char) (c : Char) : lowered before c rest ≠ [] := by
  rw [lowered]
  split_ifs
  · exact List.cons_ne_nil _ _
  · exact lowerChar_ne_nil c

/-- The characters of a text, each with what it becomes. -/
def loweredPieces (before : List Char) : List Char → List (Char × List Char)
  | [] => []
  | c :: rest => (c, lowered before c rest) :: loweredPieces (c :: before) rest

theorem lowerAfter_eq (before text : List Char) :
    lowerAfter before text = (loweredPieces before text).flatMap (·.2) := by
  induction text generalizing before with
  | nil => rfl
  | cons c rest ih => rw [lowerAfter, ih, loweredPieces, List.flatMap_cons, lowered]

theorem map_loweredPieces (before text : List Char) :
    (loweredPieces before text).map (·.1) = text := by
  induction text generalizing before with
  | nil => rfl
  | cons c rest ih => rw [loweredPieces, List.map_cons, ih]

theorem mem_loweredPieces {before text : List Char} {piece : Char × List Char}
    (hpiece : piece ∈ loweredPieces before text) :
    ∃ before rest, piece.2 = lowered before piece.1 rest := by
  induction text generalizing before with
  | nil => cases hpiece
  | cons c rest ih =>
    rcases List.mem_cons.mp hpiece with rfl | hpiece
    · exact ⟨before, rest, rfl⟩
    · exact ih hpiece

theorem lowerAfter_of_fixed {before text : List Char}
    (hfixed : ∀ c ∈ text, lowerChar c = [c] ∧ c ≠ 'Σ') : lowerAfter before text = text := by
  induction text generalizing before with
  | nil => rfl
  | cons c rest ih =>
    obtain ⟨hself, hsigma⟩ := hfixed c List.mem_cons_self
    rw [lowerAfter, if_neg hsigma, hself,
      ih fun other hother => hfixed other (List.mem_cons_of_mem _ hother)]
    rfl

theorem lower_lower (text : List Char) : lower (lower text) = lower text := by
  refine lowerAfter_of_fixed fun image himage => ?_
  rw [lower, lowerAfter_eq] at himage
  obtain ⟨piece, hpiece, hmapped⟩ := List.mem_flatMap.mp himage
  obtain ⟨before, rest, heq⟩ := mem_loweredPieces hpiece
  rw [heq] at hmapped
  obtain ⟨hself, hsigma, -⟩ := lowered_mapped hmapped
  exact ⟨hself, hsigma⟩

theorem isTrimmed_lower {text : List Char} (htrimmed : IsTrimmed text) : IsTrimmed (lower text) := by
  rw [lower, lowerAfter_eq]
  refine IsTrimmed.of_pieces (fun piece hpiece => ?_) (by rwa [map_loweredPieces])
  obtain ⟨before, rest, heq⟩ := mem_loweredPieces hpiece
  rw [heq]
  exact ⟨lowered_ne_nil before rest _, fun hblank image hmapped => (lowered_mapped hmapped).2.2 hblank⟩

end KnowledgeSchema.Text
