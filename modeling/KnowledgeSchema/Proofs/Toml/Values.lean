import Mathlib.Data.List.TakeWhile
import KnowledgeSchema.Proofs.Json.Scalars
import KnowledgeSchema.Toml.Document
import KnowledgeSchema.Toml.Scalar

/-!
# TOML values read where they were written

A string, a count or a truth value is read again from what is written for it.

Whatever its characters, a text is read again from the string that is written for it. A character comes
back from its escape. In a block the marks in front of the closing ones belong to the text, because
never more than two of them stand in a row within it.

The decimal digits of a number are read as that number, as long as it fits in 64 bits with a sign. A run
of nothing but digits is neither a date nor a time, because both have signs between their digits.
-/

namespace KnowledgeSchema.Toml

variable {c : Char} {form text left rest : List Char}

/-! ### Escapes -/

/-- What stands after the backslash of a short escape. -/
def escapeLetters : List Char :=
  ['b', 't', 'n', 'f', 'r', '"', '\\']

/-- How a character is written in a basic string: by a letter after a backslash, by its code, or as
itself. -/
inductive Escapes (c : Char) : List Char → Prop
  | letter {name : Char} (hname : name ∈ escapeLetters) (hescaped : escaped? name = some c) :
    Escapes c ['\\', name]
  | code {a b d e : Char} (hcode : charOf? [a, b, d, e] = some c) : Escapes c ['\\', 'u', a, b, d, e]
  | self (hshown : isShown c = true) (hquote : c ≠ '"') (hbackslash : c ≠ '\\') : Escapes c [c]

theorem charOf?_hexFour {n : Nat} (hn : n < 128) : charOf? (hexFour n) = some (Char.ofNat n) := by
  have hall : ∀ n < 128, charOf? (hexFour n) = some (Char.ofNat n) := by decide
  exact hall n hn

theorem toNat_lt_of_isControl (hc : isControl c = true) : c.toNat < 128 := by
  simp only [isControl, Bool.or_eq_true, Bool.and_eq_true, decide_eq_true_eq, beq_iff_eq] at hc
  omega

theorem escapes_escapeChar (c : Char) : Escapes c (escapeChar c) := by
  unfold escapeChar
  split
  · exact .letter (by decide) rfl
  · exact .letter (by decide) rfl
  · exact .letter (by decide) rfl
  · exact .letter (by decide) rfl
  · exact .letter (by decide) rfl
  · exact .letter (by decide) rfl
  · exact .letter (by decide) rfl
  next hfeed _ _ hquote hbackslash =>
    split_ifs with hcontrol
    · refine .code ((charOf?_hexFour (toNat_lt_of_isControl hcontrol)).trans ?_)
      rw [Char.ofNat_toNat]
    · refine .self ?_ hquote hbackslash
      rw [isShown, Bool.eq_false_iff.mpr hcontrol, Bool.not_false, Bool.true_and, bne_iff_ne]
      exact hfeed

theorem ne_of_mem_escapeLetters {name : Char} (hname : name ∈ escapeLetters) :
    name ≠ 'u' ∧ name ≠ 'U' := by
  constructor
  · rintro rfl
    exact absurd hname (by decide)
  · rintro rfl
    exact absurd hname (by decide)

theorem ne_of_isShown (hshown : isShown c = true) : c ≠ '\n' ∧ c ≠ '\r' := by
  constructor
  · rintro rfl
    exact absurd hshown (by decide)
  · rintro rfl
    exact absurd hshown (by decide)

theorem readBasic_escapes (hform : Escapes c form) (hread : readBasic rest = some (text, left)) :
    readBasic (form ++ rest) = some (c :: text, left) := by
  cases hform with
  | letter hname hescaped =>
    obtain ⟨hshort, hlong⟩ := ne_of_mem_escapeLetters hname
    rw [List.cons_append, List.singleton_append, readBasic, hescaped, hread]
    · rfl
    · intro _ _ _ _ _ hu
      exact absurd hu hshort
    · intro _ _ _ _ _ _ _ _ _ hu
      exact absurd hu hlong
  | code hcode =>
    simp only [List.cons_append, List.nil_append]
    rw [readBasic, hcode, hread]
    rfl
  | self hshown hquote hbackslash =>
    rw [List.singleton_append, readBasic, if_pos hshown, hread]
    · rfl
    · intro _ _ _ _ _ heq
      exact absurd heq hbackslash
    · intro _ _ _ _ _ _ _ _ _ heq
      exact absurd heq hbackslash
    · intro _ _ heq
      exact absurd heq hbackslash
    · exact hquote

theorem readBasic_escaped (text rest : List Char) :
    readBasic (text.flatMap escapeChar ++ '"' :: rest) = some (text, rest) := by
  induction text with
  | nil => rfl
  | cons c text ih =>
    rw [List.flatMap_cons, List.append_assoc]
    exact readBasic_escapes (escapes_escapeChar c) ih

theorem readLiteral_self (htext : ∀ c ∈ text, isShown c = true ∧ c ≠ '\'') (rest : List Char) :
    readLiteral (text ++ '\'' :: rest) = some (text, rest) := by
  induction text with
  | nil => rfl
  | cons c text ih =>
    obtain ⟨⟨hshown, hmark⟩, htext⟩ := List.forall_mem_cons.mp htext
    rw [List.cons_append, readLiteral, if_pos hshown, ih htext]
    · rfl
    · exact hmark

/-! ### Ends of blocks -/

section BlockEnd

variable {mark : Char} {marks : Nat}

theorem takeWhile_marks (hrest : ∀ c ∈ rest.head?, c ≠ mark) :
    (List.replicate marks mark ++ rest).takeWhile (· == mark) = List.replicate marks mark := by
  have hmarks : ∀ c ∈ List.replicate marks mark, (c == mark) = true := fun c hc =>
    beq_iff_eq.mpr (List.eq_of_mem_replicate hc)
  rw [List.takeWhile_append_of_pos hmarks]
  cases rest with
  | nil => rw [List.takeWhile_nil, List.append_nil]
  | cons c rest =>
    rw [List.takeWhile_cons_of_neg (by simpa using hrest c rfl), List.append_nil]

theorem blockEnd?_of_few (hmarks : marks < 3) (hrest : ∀ c ∈ rest.head?, c ≠ mark) :
    blockEnd? mark (List.replicate marks mark ++ rest) = none := by
  rw [blockEnd?, takeWhile_marks hrest, List.take_replicate, List.length_replicate, if_pos (by omega)]

/-- Up to two marks in front of the closing ones belong to the text. -/
theorem blockEnd?_of_many (hmarks : marks ≤ 2) (hrest : ∀ c ∈ rest.head?, c ≠ mark) :
    blockEnd? mark (List.replicate (marks + 3) mark ++ rest) =
      some (List.replicate marks mark, rest) := by
  rw [blockEnd?, takeWhile_marks hrest, List.take_replicate, List.length_replicate,
    Nat.min_eq_right (by omega), if_neg (by omega), List.drop_replicate, Nat.add_sub_cancel,
    List.drop_left' List.length_replicate]

theorem replicate_append_three (marks : Nat) (mark : Char) (rest : List Char) :
    List.replicate marks mark ++ mark :: mark :: mark :: rest =
      List.replicate (marks + 3) mark ++ rest := by
  rw [← List.replicate_append_replicate, List.append_assoc]
  rfl

theorem cons_replicate_append (marks : Nat) (mark : Char) (rest : List Char) :
    mark :: (List.replicate marks mark ++ rest) = List.replicate (marks + 1) mark ++ rest := by
  rw [List.replicate_succ, List.cons_append]

/-- A text starts with some marks and goes on with something else, or it is nothing but marks. -/
def StartsWith (mark : Char) (marks : Nat) (text : List Char) : Prop :=
  text = List.replicate marks mark ∨
    ∃ c more, c ≠ mark ∧ text = List.replicate marks mark ++ c :: more

theorem StartsWith.cons (hstarts : StartsWith mark marks text) :
    StartsWith mark (marks + 1) (mark :: text) := by
  rcases hstarts with rfl | ⟨c, more, hc, rfl⟩
  · exact Or.inl List.replicate_succ.symm
  · exact Or.inr ⟨c, more, hc, cons_replicate_append marks mark (c :: more)⟩

theorem startsWith_of_ne (hc : c ≠ mark) (more : List Char) : StartsWith mark 0 (c :: more) :=
  Or.inr ⟨c, more, hc, rfl⟩

/-- Where a text with up to two marks in front stands before the closing marks of a block, these are
found there if it is nothing but marks, and only then. -/
theorem blockEnd?_startsWith (hstarts : StartsWith mark marks text) (hmarks : marks ≤ 2)
    (hrest : ∀ c ∈ rest.head?, c ≠ mark) :
    blockEnd? mark (text ++ mark :: mark :: mark :: rest) =
      if text = List.replicate marks mark then some (text, rest) else none := by
  rcases hstarts with rfl | ⟨c, more, hc, rfl⟩
  · rw [replicate_append_three, blockEnd?_of_many hmarks hrest, if_pos rfl]
  · have hother : ∀ d ∈ (c :: (more ++ mark :: mark :: mark :: rest)).head?, d ≠ mark := by
      rintro d ⟨⟩
      exact hc
    rw [List.append_assoc, List.cons_append, blockEnd?_of_few (by omega) hother, if_neg]
    intro hsame
    have hlength := congrArg List.length hsame
    rw [List.length_append, List.length_replicate, List.length_cons] at hlength
    omega

end BlockEnd

/-! ### Basic blocks -/

theorem exists_head_escapes (hform : Escapes c form) :
    ∃ d more, d ≠ '"' ∧ isShown d = true ∧ form = d :: more := by
  cases hform with
  | letter hname hescaped => exact ⟨_, _, by decide, by decide, rfl⟩
  | code hcode => exact ⟨_, _, by decide, by decide, rfl⟩
  | self hshown hquote => exact ⟨_, _, hquote, hshown, rfl⟩

/-- A backslash with a letter after it does not end the line. -/
theorem lineEnd?_of_mem_escapeLetters {name : Char} (hname : name ∈ escapeLetters) :
    lineEnd? (skipSpace (name :: rest)) = none := by
  have hletters : (escapeLetters.all fun name => !isSpace name && name != '\n' && name != '\r') =
      true := by
    decide
  have hspace : (isSpace name = false ∧ name ≠ '\n') ∧ name ≠ '\r' := by
    simpa only [Bool.and_eq_true, Bool.not_eq_true', bne_iff_ne] using
      List.all_eq_true.mp hletters name hname
  rw [skipSpace, List.dropWhile_cons_of_neg (by rw [hspace.1.1]; decide)]
  unfold lineEnd?
  split
  next heq => exact absurd (List.cons.inj heq).1 hspace.1.2
  next heq => exact absurd (List.cons.inj heq).1 hspace.2
  next => rfl

theorem readBasicBlock_escapes (hform : Escapes c form)
    (hread : readBasicBlock false rest = some (text, left)) :
    readBasicBlock false (form ++ rest) = some (c :: text, left) := by
  cases hform with
  | letter hname hescaped =>
    obtain ⟨hshort, hlong⟩ := ne_of_mem_escapeLetters hname
    rw [List.cons_append, List.singleton_append, readBasicBlock, lineEnd?_of_mem_escapeLetters hname,
      hescaped, hread]
    · rfl
    · intro _ _ _ _ _ hu
      exact absurd hu hshort
    · intro _ _ _ _ _ _ _ _ _ hu
      exact absurd hu hlong
  | code hcode =>
    simp only [List.cons_append, List.nil_append]
    rw [readBasicBlock, hcode, hread]
    rfl
  | self hshown hquote hbackslash =>
    obtain ⟨hfeed, hreturn⟩ := ne_of_isShown hshown
    have hend : blockEnd? '"' (c :: rest) = none :=
      @blockEnd?_of_few (c :: rest) '"' 0 (by decide) (by rintro d ⟨⟩; exact hquote)
    rw [List.singleton_append, readBasicBlock, hend, if_pos hshown, hread]
    · rfl
    · intro _ heq
      exact absurd heq hreturn
    · exact hfeed
    · intro _ _ _ _ _ heq
      exact absurd heq hbackslash
    · intro _ _ _ _ _ _ _ _ _ heq
      exact absurd heq hbackslash
    · intro _ _ heq
      exact absurd heq hbackslash

theorem blockText_other {run : Nat} (hquote : c ≠ '"') (hfeed : c ≠ '\n') (text : List Char) :
    blockText run (c :: text) = escapeChar c ++ blockText 0 text := by
  rw [blockText]
  · exact hquote
  · exact hfeed

/-- With the marks right before it, the inside of a block starts with two marks at most. If it is
nothing but marks, so is the text that it stands for. -/
theorem startsWith_blockText {run : Nat} (hrun : run ≤ 2) (text : List Char) :
    ∃ marks, run + marks ≤ 2 ∧ StartsWith '"' marks (blockText run text) ∧
      (blockText run text = List.replicate marks '"' → text = List.replicate marks '"') := by
  induction text generalizing run with
  | nil => exact ⟨0, hrun, Or.inl rfl, fun _ => rfl⟩
  | cons c text ih =>
    by_cases hquote : c = '"'
    · subst hquote
      rw [blockText]
      split_ifs with hfull
      · exact ⟨0, hrun, startsWith_of_ne (by decide) _, by rintro ⟨⟩⟩
      · have hmore : run + 1 ≤ 2 := by omega
        obtain ⟨marks, hmarks, hstarts, hsame⟩ := ih hmore
        refine ⟨marks + 1, by omega, hstarts.cons, fun hall => ?_⟩
        rw [List.replicate_succ] at hall
        rw [hsame (List.cons.inj hall).2, List.replicate_succ]
    · by_cases hfeed : c = '\n'
      · subst hfeed
        exact ⟨0, hrun, startsWith_of_ne (by decide) _, by rintro ⟨⟩⟩
      · obtain ⟨d, more, hd, -, hform⟩ := exists_head_escapes (escapes_escapeChar c)
        rw [blockText_other hquote hfeed, hform]
        exact ⟨0, hrun, startsWith_of_ne hd _, by rintro ⟨⟩⟩

theorem readBasicBlock_blockText {run : Nat} (hrun : run ≤ 2) (text : List Char)
    (hrest : ∀ c ∈ rest.head?, c ≠ '"') :
    readBasicBlock false (blockText run text ++ '"' :: '"' :: '"' :: rest) = some (text, rest) := by
  induction text generalizing run with
  | nil =>
    have hend : blockEnd? '"' ('"' :: '"' :: '"' :: rest) = some ([], rest) :=
      @blockEnd?_of_many rest '"' 0 (by decide) hrest
    rw [blockText, List.nil_append, readBasicBlock, hend]
    · rfl
    all_goals simp
  | cons c text ih =>
    by_cases hquote : c = '"'
    · subst hquote
      rw [blockText]
      split_ifs with hfull
      · have hform : Escapes '"' ['\\', '"'] := .letter (by decide) rfl
        have hread := readBasicBlock_escapes hform (@ih 0 (by decide))
        exact hread
      · have hmore : run + 1 ≤ 2 := by omega
        obtain ⟨marks, hmarks, hstarts, hsame⟩ := startsWith_blockText hmore text
        have hend := blockEnd?_startsWith hstarts.cons (by omega) hrest
        rw [List.cons_append] at hend ⊢
        rw [readBasicBlock, hend]
        · by_cases hall : '"' :: blockText (run + 1) text = List.replicate (marks + 1) '"'
          · rw [if_pos hall, hall]
            rw [List.replicate_succ] at hall ⊢
            rw [hsame (List.cons.inj hall).2]
            rfl
          · rw [if_neg hall, ih (by omega)]
            rfl
        all_goals simp
    · by_cases hfeed : c = '\n'
      · subst hfeed
        rw [blockText, List.cons_append, readBasicBlock, ih (by omega)]
        · rfl
      · rw [blockText_other hquote hfeed, List.append_assoc]
        exact readBasicBlock_escapes (escapes_escapeChar c) (ih (by omega))

/-! ### Literal blocks -/

/-- A text without three marks in a row starts with two of them at most. -/
theorem startsWith_of_not_hasTriple {mark : Char} (htriple : hasTriple mark text = false) :
    ∃ marks ≤ 2, StartsWith mark marks text := by
  cases text with
  | nil => exact ⟨0, by decide, Or.inl rfl⟩
  | cons a text =>
    by_cases ha : a = mark
    · subst ha
      cases text with
      | nil => exact ⟨1, by decide, Or.inl rfl⟩
      | cons b text =>
        by_cases hb : b = a
        · subst hb
          cases text with
          | nil => exact ⟨2, by decide, Or.inl rfl⟩
          | cons c text =>
            by_cases hc : c = b
            · subst hc
              simp [hasTriple] at htriple
            · exact ⟨2, by decide, (startsWith_of_ne hc text).cons.cons⟩
        · exact ⟨1, by decide, (startsWith_of_ne hb text).cons⟩
    · exact ⟨0, by decide, startsWith_of_ne ha text⟩

theorem readLiteralBlock_self (hraw : ∀ c ∈ text, isControl c = false)
    (htriple : hasTriple '\'' text = false) (hrest : ∀ c ∈ rest.head?, c ≠ '\'') :
    readLiteralBlock (text ++ '\'' :: '\'' :: '\'' :: rest) = some (text, rest) := by
  induction text with
  | nil =>
    have hend : blockEnd? '\'' ('\'' :: '\'' :: '\'' :: rest) = some ([], rest) :=
      @blockEnd?_of_many rest '\'' 0 (by decide) hrest
    rw [List.nil_append, readLiteralBlock, hend]
    all_goals simp
  | cons c text ih =>
    obtain ⟨hc, hothers⟩ := List.forall_mem_cons.mp hraw
    have hlater : hasTriple '\'' text = false := by
      rw [hasTriple, Bool.or_eq_false_iff] at htriple
      exact htriple.2
    obtain ⟨marks, hmarks, hstarts⟩ := startsWith_of_not_hasTriple htriple
    have hend := blockEnd?_startsWith hstarts hmarks hrest
    rw [List.cons_append] at hend ⊢
    by_cases hfeed : c = '\n'
    · subst hfeed
      rw [readLiteralBlock, ih hothers hlater]
      rfl
    · have hshown : isShown c = true := by
        rw [isShown, hc, Bool.not_false, Bool.true_and, bne_iff_ne]
        exact hfeed
      rw [readLiteralBlock, hend]
      · split_ifs with hall
        · rfl
        · rw [ih hothers hlater]
          rfl
      · intro _ heq
        exact absurd heq (ne_of_isShown hshown).2
      · exact hfeed

/-! ### Strings of every kind -/

/-- The line feed that a block with line feeds begins with does not count, and no other begins one. -/
theorem blockStart_start (htext : ∀ c ∈ form.head?, c ≠ '\r' ∧ (c = '\n' → '\n' ∈ text)) :
    blockStart ((if text.contains '\n' then ['\n'] else []) ++ form) = form := by
  by_cases hfeed : '\n' ∈ text
  · rw [if_pos (List.contains_iff_mem.mpr hfeed)]
    rfl
  · rw [if_neg (by simpa using hfeed), List.nil_append, blockStart]
    cases form with
    | nil => rfl
    | cons c form =>
      obtain ⟨hreturn, hline⟩ := htext c rfl
      unfold lineEnd?
      split
      next heq => exact absurd (hline (List.cons.inj heq).1) hfeed
      next heq => exact absurd (List.cons.inj heq).1 hreturn
      next => rfl

theorem isShown_of_raw (hraw : text.any isControl = false) (hfeed : text.contains '\n' = false) :
    ∀ c ∈ text, isShown c = true := by
  intro c hc
  have hcontrol : isControl c = false := by
    rw [Bool.eq_false_iff]
    exact fun h => absurd (List.any_eq_true.mpr ⟨c, hc, h⟩) (by rw [hraw]; decide)
  rw [isShown, hcontrol, Bool.not_false, Bool.true_and, bne_iff_ne]
  rintro rfl
  exact absurd (List.contains_iff_mem.mpr hc) (by rw [hfeed]; decide)

/-- What tells how a text is written: a literal string holds the text as it is, and so does a literal
block. -/
theorem styleOf_spec (text : List Char) :
    (styleOf text = .literal → (∀ c ∈ text, isShown c = true ∧ c ≠ '\'') ∧ text ≠ []) ∧
      (styleOf text = .literalBlock →
        (∀ c ∈ text, isControl c = false) ∧ hasTriple '\'' text = false) := by
  have hplain : text.any isControl = false → ∀ c ∈ text, isControl c = false := fun hraw c hc => by
    simpa using List.any_eq_false.mp hraw c hc
  unfold styleOf
  extract_lets isBlock isRaw
  split_ifs with hbasic hliteral hbasicBlock hliteralBlock
  · exact ⟨by rintro ⟨⟩, by rintro ⟨⟩⟩
  · simp only [isRaw, isBlock, Bool.and_eq_true, Bool.not_eq_true'] at hliteral
    obtain ⟨⟨hraw, hmark⟩, hfeed⟩ := hliteral
    refine ⟨fun _ => ⟨fun c hc => ⟨isShown_of_raw hraw hfeed c hc, ?_⟩, ?_⟩, by rintro ⟨⟩⟩
    · rintro rfl
      exact absurd (List.contains_iff_mem.mpr hc) (by rw [hmark]; decide)
    · rintro rfl
      exact hbasic rfl
  · exact ⟨by rintro ⟨⟩, by rintro ⟨⟩⟩
  · simp only [isRaw, Bool.and_eq_true, Bool.not_eq_true'] at hliteralBlock
    exact ⟨by rintro ⟨⟩, fun _ => ⟨hplain hliteralBlock.1, hliteralBlock.2⟩⟩
  · exact ⟨by rintro ⟨⟩, by rintro ⟨⟩⟩
  · exact ⟨by rintro ⟨⟩, by rintro ⟨⟩⟩

theorem head_blockText (text rest : List Char) :
    ∀ c ∈ (blockText 0 text ++ '"' :: rest).head?, c ≠ '\r' ∧ (c = '\n' → '\n' ∈ text) := by
  intro c hc
  cases text with
  | nil =>
    cases hc
    exact ⟨by decide, by rintro ⟨⟩⟩
  | cons first text =>
    by_cases hquote : first = '"'
    · subst hquote
      rw [blockText, if_neg (by decide)] at hc
      cases hc
      exact ⟨by decide, by rintro ⟨⟩⟩
    · by_cases hfeed : first = '\n'
      · subst hfeed
        rw [blockText] at hc
        cases hc
        exact ⟨by decide, fun _ => List.mem_cons_self⟩
      · obtain ⟨d, more, -, hshown, hform⟩ := exists_head_escapes (escapes_escapeChar first)
        rw [blockText_other hquote hfeed, hform] at hc
        cases hc
        exact ⟨(ne_of_isShown hshown).2, fun heq => absurd heq (ne_of_isShown hshown).1⟩

theorem head_raw (hraw : ∀ c ∈ text, isControl c = false) (rest : List Char) :
    ∀ c ∈ (text ++ '\'' :: rest).head?, c ≠ '\r' ∧ (c = '\n' → '\n' ∈ text) := by
  intro c hc
  cases text with
  | nil =>
    cases hc
    exact ⟨by decide, by rintro ⟨⟩⟩
  | cons first text =>
    cases hc
    refine ⟨?_, ?_⟩
    · rintro rfl
      exact absurd (hraw _ List.mem_cons_self) (by decide)
    · rintro rfl
      exact List.mem_cons_self

theorem readString_basic {input : List Char} (hinput : ∀ rest, input ≠ '"' :: '"' :: rest) :
    readString ('"' :: input) = readBasic input := by
  rw [readString]
  exact hinput

theorem readString_literal {input : List Char} (hinput : ∀ rest, input ≠ '\'' :: '\'' :: rest) :
    readString ('\'' :: input) = readLiteral input := by
  rw [readString]
  exact hinput

theorem exists_head_quote (text : List Char) :
    ∃ more, quote text = '"' :: more ∨ quote text = '\'' :: more := by
  rw [quote]
  cases styleOf text with
  | basic => exact ⟨_, Or.inl rfl⟩
  | literal => exact ⟨_, Or.inr rfl⟩
  | basicBlock => exact ⟨_, Or.inl rfl⟩
  | literalBlock => exact ⟨_, Or.inr rfl⟩

/-- A text is read again from the string that is written for it. -/
theorem readString_quote (text : List Char)
    (hrest : ∀ c ∈ rest.head?, c ≠ '"' ∧ c ≠ '\'') :
    readString (quote text ++ rest) = some (text, rest) := by
  rw [quote]
  cases hstyle : styleOf text with
  | basic =>
    dsimp only
    rw [List.cons_append, List.cons_append, List.append_assoc, List.singleton_append,
      readString_basic, readBasic_escaped]
    intro after heq
    cases text with
    | nil =>
      rw [List.flatMap_nil, List.nil_append, List.cons.injEq] at heq
      exact (hrest '"' (by rw [heq.2]; rfl)).1 rfl
    | cons c text =>
      obtain ⟨d, more, hd, -, hform⟩ := exists_head_escapes (escapes_escapeChar c)
      rw [List.flatMap_cons, hform] at heq
      exact hd (List.cons.inj heq).1
  | literal =>
    obtain ⟨htext, hsome⟩ := (styleOf_spec text).1 hstyle
    dsimp only
    rw [List.cons_append, List.cons_append, List.append_assoc, List.singleton_append,
      readString_literal, readLiteral_self htext]
    intro after heq
    cases text with
    | nil => exact hsome rfl
    | cons c text => exact (htext c List.mem_cons_self).2 (List.cons.inj heq).1
  | basicBlock =>
    simp only [List.append_assoc, List.cons_append, List.nil_append]
    rw [readString, blockStart_start (head_blockText text _),
      readBasicBlock_blockText (by decide) text fun c hc => (hrest c hc).1]
  | literalBlock =>
    obtain ⟨hraw, htriple⟩ := (styleOf_spec text).2 hstyle
    simp only [List.append_assoc, List.cons_append, List.nil_append]
    rw [readString, blockStart_start (head_raw hraw _),
      readLiteralBlock_self hraw htriple fun c hc => (hrest c hc).2]

/-! ### Counts and truth values -/

variable {digits : List Char}

/-! ### Runs of digits -/

theorem isDigit_toDigits {n : Nat} {c : Char} (hc : c ∈ Nat.toDigits 10 n) : isDigit c = true :=
  Json.isDigit_of_mem_toDigits hc

theorem isScalarChar_of_isDigit {c : Char} (hc : isDigit c = true) : isScalarChar c = true := by
  simp [isScalarChar, isBare, hc]

theorem ne_of_isDigit {c sign : Char} (hc : isDigit c = true) (hsign : isDigit sign = false) :
    c ≠ sign := by
  rintro rfl
  rw [hc] at hsign
  cases hsign

theorem readSign_of_digits {sign : Char} (hsign : isDigit sign = false)
    (hdigits : ∀ c ∈ digits, isDigit c = true) : readSign sign digits = none := by
  cases digits with
  | nil => rfl
  | cons c digits => rw [readSign, if_neg (ne_of_isDigit (hdigits c List.mem_cons_self) hsign)]

theorem readNumber_eq_some {width low high n : Nat} {input : List Char}
    (hread : readNumber width low high input = some (n, rest)) : rest = input.drop width := by
  simp only [readNumber, Option.ite_none_right_eq_some, Option.some.injEq, Prod.mk.injEq] at hread
  exact hread.2.2.2.symm

theorem passDate_of_digits (hdigits : ∀ c ∈ digits, isDigit c = true) : passDate digits = none := by
  rw [passDate, Option.bind_eq_bind, Option.bind_eq_none_iff]
  rintro ⟨year, after⟩ hyear
  dsimp only
  rw [readNumber_eq_some hyear,
    readSign_of_digits (by decide) fun c hc => hdigits c (List.mem_of_mem_drop hc)]
  rfl

theorem isClock_of_digits (hdigits : ∀ c ∈ digits, isDigit c = true) (zoned : Bool) :
    isClock zoned digits = false := by
  have htime : passTime digits = none := by
    rw [passTime, Option.bind_eq_bind, Option.bind_eq_none_iff]
    rintro ⟨hour, after⟩ hhour
    dsimp only
    rw [readNumber_eq_some hhour,
      readSign_of_digits (by decide) fun c hc => hdigits c (List.mem_of_mem_drop hc)]
    rfl
  rw [isClock, htime]

theorem ungroup?_of_digits (hsome : digits ≠ []) (hdigits : ∀ c ∈ digits, isDigit c = true) :
    ungroup? isDigit digits = some digits := by
  induction digits with
  | nil => exact absurd rfl hsome
  | cons c digits ih =>
    obtain ⟨hc, hothers⟩ := List.forall_mem_cons.mp hdigits
    cases digits with
    | nil => rw [ungroup?, if_pos hc]
    | cons next digits =>
      have hnext : next ≠ '_' := ne_of_isDigit (hothers next List.mem_cons_self) (by decide)
      rw [ungroup?, if_pos hc, ih (List.cons_ne_nil _ _) hothers]
      · rfl
      · exact List.cons_ne_nil _ _
      · intro _ heq
        exact hnext (List.cons.inj heq).1

theorem digitsToNat_eq (hdigits : ∀ c ∈ digits, isDigit c = true) :
    digitsToNat 10 digits = Json.natOfDigits digits := by
  refine List.foldl_ext _ _ 0 fun n c hc => ?_
  have hvalue : Text.hexValue? c = some (Json.digitValue c) := if_pos (hdigits c hc)
  rw [hvalue, Option.getD_some, Nat.mul_comm]

theorem decimal?_toDigits (n : Nat) : decimal? (Nat.toDigits 10 n) = some n := by
  have hdigits : ∀ c ∈ Nat.toDigits 10 n, isDigit c = true := fun c hc => isDigit_toDigits hc
  unfold decimal?
  split
  next hzero => rw [← Json.natOfDigits_toDigits n, hzero]; rfl
  next tail hsingle heq =>
    cases tail with
    | nil => exact absurd rfl hsingle
    | cons c tail => exact absurd heq (Json.toDigits_ne_leading n c tail)
  next =>
    rw [ungroup?_of_digits Nat.toDigits_ne_nil hdigits, Option.map_some, digitsToNat_eq hdigits,
      Json.natOfDigits_toDigits]

/-! ### Counts -/

theorem splitSign_of_digits (hdigits : ∀ c ∈ digits, isDigit c = true) :
    splitSign digits = (false, digits) := by
  unfold splitSign
  split
  next => exact absurd (hdigits '-' List.mem_cons_self) (by decide)
  next => exact absurd (hdigits '+' List.mem_cons_self) (by decide)
  next => rfl

theorem integer?_toDigits {n : Nat} (hn : (n : Int) ≤ Int64.maxValue.toInt) :
    integer? (Nat.toDigits 10 n) = some (Int64.ofInt n) := by
  have hdigits : ∀ c ∈ Nat.toDigits 10 n, isDigit c = true := fun c hc => isDigit_toDigits hc
  have hint : ofInt? n = some (Int64.ofInt n) := by
    have hmin : Int64.minValue.toInt ≤ 0 := by decide
    rw [ofInt?, if_pos]
    rw [Bool.and_eq_true, decide_eq_true_eq, decide_eq_true_eq]
    exact ⟨by omega, hn⟩
  unfold integer?
  split
  next heq => exact absurd heq (Json.toDigits_ne_leading n _ _)
  next heq => exact absurd heq (Json.toDigits_ne_leading n _ _)
  next heq => exact absurd heq (Json.toDigits_ne_leading n _ _)
  next =>
    rw [splitSign_of_digits hdigits]
    dsimp only
    rw [decimal?_toDigits]
    exact hint

/-- A run at the front, up to what cannot belong to it. -/
theorem scalarRun_append {run : List Char} (hrun : ∀ c ∈ run, isScalarChar c = true)
    (hrest : ∀ c ∈ rest.head?, isScalarChar c = false) : scalarRun (run ++ rest) = run := by
  rw [scalarRun, List.takeWhile_append_of_pos hrun]
  cases rest with
  | nil => rw [List.takeWhile_nil, List.append_nil]
  | cons c rest =>
    rw [List.takeWhile_cons_of_neg (by simpa using hrest c rfl), List.append_nil]

theorem readScalar_toDigits {n : Nat} (hn : (n : Int) ≤ Int64.maxValue.toInt)
    (hrest : ∀ c ∈ rest.head?, isScalarChar c = false) :
    readScalar (Nat.toDigits 10 n ++ rest) = some (.integer (Int64.ofInt n), rest) := by
  have hdigits : ∀ c ∈ Nat.toDigits 10 n, isDigit c = true := fun c hc => isDigit_toDigits hc
  have hword : ∀ c word, isDigit c = false → (Nat.toDigits 10 n == c :: word) = false := by
    intro c word hc
    rw [beq_eq_false_iff_ne]
    intro heq
    rw [heq] at hdigits
    exact ne_of_isDigit (hdigits c List.mem_cons_self) hc rfl
  have hrun := scalarRun_append (fun c hc => isScalarChar_of_isDigit (hdigits c hc)) hrest
  simp only [readScalar]
  rw [hrun, List.drop_left, if_neg, if_neg, passDate_of_digits hdigits]
  · dsimp only
    rw [isClock_of_digits hdigits, if_neg (by decide), integer?_toDigits hn]
  · rw [Bool.not_eq_true]
    exact hword 'f' _ (by decide)
  · rw [Bool.not_eq_true]
    exact hword 't' _ (by decide)

theorem readScalar_true (hrest : ∀ c ∈ rest.head?, isScalarChar c = false) :
    readScalar ("true".toList ++ rest) = some (.flag true, rest) := by
  have hword : "true".toList.all isScalarChar = true := by decide
  have hrun := scalarRun_append (List.all_eq_true.mp hword) hrest
  simp only [readScalar]
  rw [hrun, List.drop_left, if_pos (beq_self_eq_true _)]

theorem readScalar_false (hrest : ∀ c ∈ rest.head?, isScalarChar c = false) :
    readScalar ("false".toList ++ rest) = some (.flag false, rest) := by
  have hword : "false".toList.all isScalarChar = true := by decide
  have hrun := scalarRun_append (List.all_eq_true.mp hword) hrest
  simp only [readScalar]
  rw [hrun, List.drop_left, if_neg (by decide), if_pos (beq_self_eq_true _)]

end KnowledgeSchema.Toml
