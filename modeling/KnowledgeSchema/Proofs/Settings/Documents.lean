import KnowledgeSchema.Proofs.Toml.Values
import KnowledgeSchema.Settings.Document

/-!
# Settings read where they were written

The document of settings is read line by line, and each line gives back what it was written for. So
settings come back from their document whenever they have one, which is when both counts fit in 64 bits
with a sign.
-/

namespace KnowledgeSchema

namespace Toml

variable {key written rest : List Char} {value : Toml} {document after : Document} {fuel : Nat}

/-! ### Keys -/

theorem not_isSpace_of_isBare {c : Char} (hc : isBare c = true) : isSpace c = false := by
  rw [Bool.eq_false_iff]
  intro hspace
  simp only [isSpace, Bool.or_eq_true, beq_iff_eq] at hspace
  rcases hspace with rfl | rfl <;> exact absurd hc (by decide)

/-- A key that needs no marks around it. -/
structure IsBareKey (key : List Char) : Prop where
  some : key ≠ []
  bare : ∀ c ∈ key, isBare c = true

theorem IsBareKey.exists_cons (hkey : IsBareKey key) :
    ∃ c more, key = c :: more ∧ isBare c = true := by
  cases key with
  | nil => exact absurd rfl hkey.some
  | cons c more => exact ⟨c, more, rfl, hkey.bare c List.mem_cons_self⟩

theorem skipSpace_of_head {input : List Char} (hhead : ∀ c ∈ input.head?, isSpace c = false) :
    skipSpace input = input := by
  cases input with
  | nil => rfl
  | cons c input => rw [skipSpace, List.dropWhile_cons_of_neg (by simpa using hhead c rfl)]

theorem IsBareKey.skipSpace (hkey : IsBareKey key) (rest : List Char) :
    Toml.skipSpace (key ++ rest) = key ++ rest := by
  obtain ⟨c, more, rfl, hc⟩ := hkey.exists_cons
  refine skipSpace_of_head fun d hd => ?_
  cases hd
  exact not_isSpace_of_isBare hc

theorem readSimpleKey_bare (hkey : IsBareKey key) (hrest : ∀ c ∈ rest.head?, isBare c = false) :
    readSimpleKey (key ++ rest) = some (String.ofList key, rest) := by
  have htaken : (key ++ rest).takeWhile isBare = key ∧ (key ++ rest).dropWhile isBare = rest := by
    rw [List.takeWhile_append_of_pos hkey.bare, List.dropWhile_append_of_pos hkey.bare]
    cases rest with
    | nil => simp
    | cons c rest =>
      have hc : ¬isBare c = true := by simpa using hrest c rfl
      rw [List.takeWhile_cons_of_neg hc, List.dropWhile_cons_of_neg hc, List.append_nil]
      exact ⟨rfl, rfl⟩
  obtain ⟨c, more, rfl, hc⟩ := hkey.exists_cons
  rw [List.cons_append] at htaken ⊢
  rw [readSimpleKey, htaken.1, htaken.2]
  · intro _ heq
    rw [(List.cons.inj heq).1] at hc
    exact absurd hc (by decide)
  · intro _ heq
    rw [(List.cons.inj heq).1] at hc
    exact absurd hc (by decide)

theorem readPath_bare (hkey : IsBareKey key) (hrest : ∀ c ∈ rest.head?, isBare c = false)
    (hdot : ∀ more, skipSpace rest ≠ '.' :: more) :
    readPath maxNesting (key ++ rest) = some (([], String.ofList key), skipSpace rest) := by
  rw [maxNesting, readPath, hkey.skipSpace, readSimpleKey_bare hkey hrest]
  dsimp only [Option.bind_eq_bind, Option.bind_some]
  split
  next heq => exact absurd heq (hdot _)
  next => rfl

/-! ### Lines -/

theorem readPair_bare (hkey : IsBareKey key) {reader : Reader Toml}
    (hspace : ∀ c ∈ (written ++ rest).head?, isSpace c = false)
    (hvalue : reader (written ++ rest) = some (value, rest)) :
    readPair reader (key ++ " = ".toList ++ written ++ rest) =
      some (([], String.ofList key, value), rest) := by
  have hpath : readPath maxNesting (key ++ (" = ".toList ++ (written ++ rest))) =
      some (([], String.ofList key), '=' :: ' ' :: (written ++ rest)) :=
    readPath_bare hkey (by rintro c ⟨⟩; decide) (by rintro more ⟨⟩)
  have hskip : skipSpace (' ' :: (written ++ rest)) = written ++ rest := by
    rw [skipSpace, List.dropWhile_cons_of_pos (by decide)]
    exact skipSpace_of_head hspace
  rw [List.append_assoc, List.append_assoc, readPair, hpath]
  dsimp only [Option.bind_eq_bind, Option.bind_some]
  rw [readSign, if_pos rfl, Option.bind_some, hskip, hvalue]
  rfl

theorem readLineEnd_feed (rest : List Char) : readLineEnd ('\n' :: rest) = some rest := rfl

theorem readLineEnd_of_bare {c : Char} (hc : isBare c = true ∨ c = '[') (more : List Char) :
    readLineEnd (c :: more) = none := by
  have hall : isSpace c = false ∧ c ≠ '#' ∧ c ≠ '\n' ∧ c ≠ '\r' := by
    rcases hc with hc | rfl
    · refine ⟨not_isSpace_of_isBare hc, ?_, ?_, ?_⟩ <;> rintro rfl <;> exact absurd hc (by decide)
    · decide
  obtain ⟨hspace, hhash, hfeed, hreturn⟩ := hall
  have hskip : skipSpace (c :: more) = c :: more :=
    skipSpace_of_head (by rintro d ⟨⟩; exact hspace)
  rw [readLineEnd, hskip]
  split
  next heq => exact absurd heq (by split <;> simp_all)
  next =>
    split
    next heq => exact absurd (List.cons.inj heq).1 hhash
    next =>
      unfold lineEnd?
      split
      next heq => exact absurd (List.cons.inj heq).1 hfeed
      next heq => exact absurd (List.cons.inj heq).1 hreturn
      next => rfl

theorem addText_feed (rest : List Char) :
    document.addText (fuel + 1) ('\n' :: rest) = document.addText fuel rest := rfl

/-- A line that starts with no blank is read up to its end, and the next one follows. -/
theorem addText_line {line : Line} {c : Char} {more : List Char} (hc : isBare c = true ∨ c = '[')
    (hline : readLine (c :: more) = some (line, '\n' :: rest))
    (hadd : document.add line = some after) :
    document.addText (fuel + 1) (c :: more) = after.addText fuel rest := by
  have hskip : skipSpace (c :: more) = c :: more := by
    refine skipSpace_of_head ?_
    rintro d ⟨⟩
    rcases hc with hc | rfl
    · exact not_isSpace_of_isBare hc
    · decide
  rw [Document.addText, hskip]
  dsimp only
  rw [readLineEnd_of_bare hc, hline]
  dsimp only [Option.bind_eq_bind, Option.bind_some]
  rw [hadd, readLineEnd_feed]
  rfl

theorem addText_header (hkey : IsBareKey key)
    (hadd : document.add (.header [] (String.ofList key)) = some after) :
    document.addText (fuel + 1) ('[' :: key ++ ']' :: '\n' :: rest) = after.addText fuel rest := by
  have hpath : readPath maxNesting (key ++ ']' :: '\n' :: rest) =
      some (([], String.ofList key), ']' :: '\n' :: rest) :=
    readPath_bare hkey (by rintro c ⟨⟩; decide) (by rintro more ⟨⟩)
  refine addText_line (Or.inr rfl) ?_ hadd
  obtain ⟨c, more, rfl, hc⟩ := hkey.exists_cons
  rw [List.append_eq, readLine, hpath]
  · rfl
  · intro _ heq
    rw [List.cons_append] at heq
    rw [(List.cons.inj heq).1] at hc
    exact absurd hc (by decide)

theorem addText_pair (hkey : IsBareKey key)
    (hspace : ∀ c ∈ (written ++ '\n' :: rest).head?, isSpace c = false)
    (hvalue : readValue maxNesting (written ++ '\n' :: rest) = some (value, '\n' :: rest))
    (hadd : document.add (.assign [] (String.ofList key) value) = some after) :
    document.addText (fuel + 1) (key ++ " = ".toList ++ written ++ '\n' :: rest) =
      after.addText fuel rest := by
  have hpair := readPair_bare hkey hspace hvalue
  obtain ⟨c, more, rfl, hc⟩ := hkey.exists_cons
  rw [List.cons_append, List.cons_append, List.cons_append] at hpair ⊢
  refine addText_line (Or.inl hc) ?_ hadd
  rw [readLine, hpair]
  · rfl
  · intro _ heq
    rw [(List.cons.inj heq).1] at hc
    exact absurd hc (by decide)
  · intro _ heq
    rw [(List.cons.inj heq).1] at hc
    exact absurd hc (by decide)

/-! ### Values -/

theorem readValue_scalar {c : Char} {more : List Char} (hc : isBare c = true) :
    readValue maxNesting (c :: more) = readScalar (c :: more) := by
  have hnot : ∀ mark, isBare mark = false → ∀ rest, c :: more ≠ mark :: rest := by
    rintro mark hmark rest heq
    rw [(List.cons.inj heq).1, hmark] at hc
    cases hc
  rw [readValue]
  · exact hnot '"' (by decide)
  · exact hnot '\'' (by decide)
  · exact fun _ _ => hnot '[' (by decide) _
  · exact fun _ _ _ => hnot '[' (by decide) _
  · exact fun _ _ => hnot '\x7b' (by decide) _
  · exact fun _ _ _ => hnot '\x7b' (by decide) _

theorem isBare_of_isDigit {c : Char} (hc : isDigit c = true) : isBare c = true := by
  simp [isBare, hc]

theorem readValue_toDigits {n : Nat} (hn : (n : Int) ≤ Int64.maxValue.toInt)
    (hrest : ∀ c ∈ rest.head?, isScalarChar c = false) :
    readValue maxNesting (Nat.toDigits 10 n ++ rest) = some (.integer (Int64.ofInt n), rest) := by
  have hscalar := readScalar_toDigits hn hrest
  obtain ⟨c, more, hdigits⟩ := List.exists_cons_of_ne_nil (@Nat.toDigits_ne_nil n 10)
  have hc : isBare c = true :=
    isBare_of_isDigit (isDigit_toDigits (hdigits ▸ List.mem_cons_self))
  rw [hdigits, List.cons_append] at hscalar ⊢
  rw [readValue_scalar hc, hscalar]

theorem readValue_quote (text : List Char) (hrest : ∀ c ∈ rest.head?, c ≠ '"' ∧ c ≠ '\'') :
    readValue maxNesting (quote text ++ rest) = some (.text (String.ofList text), rest) := by
  have hstring := readString_quote text hrest
  obtain ⟨more, hquote | hquote⟩ := exists_head_quote text
  · rw [hquote, List.cons_append] at hstring ⊢
    rw [readValue, hstring]
    rfl
  · rw [hquote, List.cons_append] at hstring ⊢
    rw [readValue, hstring]
    rfl

end Toml

namespace Settings

open Toml

variable {settings : Settings} {name : String} {written rest : List Char} {value : Toml}
  {document after : Toml.Document} {fuel : Nat}

/-! ### Lines of settings -/

theorem addText_headerLine (hname : IsBareKey name.toList)
    (hadd : document.add (.header [] name) = some after) :
    document.addText (fuel + 1) (headerLine name ++ rest) = after.addText fuel rest := by
  have hline : headerLine name ++ rest = '[' :: name.toList ++ ']' :: '\n' :: rest := by
    rw [headerLine, List.append_assoc]
    rfl
  rw [hline]
  exact addText_header hname (by rwa [String.ofList_toList])

theorem addText_pairLine (hname : IsBareKey name.toList)
    (hspace : ∀ c ∈ (written ++ '\n' :: rest).head?, isSpace c = false)
    (hvalue : readValue maxNesting (written ++ '\n' :: rest) = some (value, '\n' :: rest))
    (hadd : document.add (.assign [] name value) = some after) :
    document.addText (fuel + 1) (pairLine name written ++ rest) = after.addText fuel rest := by
  have hline : pairLine name written ++ rest =
      name.toList ++ " = ".toList ++ written ++ '\n' :: rest := by
    rw [pairLine, List.append_assoc]
    rfl
  rw [hline]
  exact addText_pair hname hspace hvalue (by rwa [String.ofList_toList])

/-- The line of a count. -/
theorem addText_count {n : UInt64} (hname : IsBareKey name.toList)
    (hcount : writeCount n = some written)
    (hadd : document.add (.assign [] name (.integer (Int64.ofInt n.toNat))) = some after) :
    document.addText (fuel + 1) (pairLine name written ++ rest) = after.addText fuel rest := by
  rw [writeCount, Option.ite_none_right_eq_some, Option.some.injEq] at hcount
  obtain ⟨hfits, rfl⟩ := hcount
  have hmax : 0 ≤ Int64.maxValue.toInt := by decide
  have hn : (n.toNat : Int) ≤ Int64.maxValue.toInt := by omega
  refine addText_pairLine hname ?_ (readValue_toDigits hn (by rintro c ⟨⟩; decide)) hadd
  obtain ⟨c, more, hdigits⟩ := List.exists_cons_of_ne_nil (@Nat.toDigits_ne_nil n.toNat 10)
  rw [hdigits]
  rintro d ⟨⟩
  exact not_isSpace_of_isBare (isBare_of_isDigit (isDigit_toDigits (hdigits ▸ List.mem_cons_self)))

theorem addText_truth {truth : Bool} (hname : IsBareKey name.toList)
    (hadd : document.add (.assign [] name (.flag truth)) = some after) :
    document.addText (fuel + 1) (pairLine name (writeTruth truth) ++ rest) =
      after.addText fuel rest := by
  have hfeed : ∀ c ∈ ('\n' :: rest).head?, isScalarChar c = false := by
    rintro c ⟨⟩
    decide
  cases truth with
  | true =>
    have hread := readScalar_true hfeed
    refine addText_pairLine hname (by rintro c ⟨⟩; decide) ?_ hadd
    exact (readValue_scalar (by decide)).trans hread
  | false =>
    have hread := readScalar_false hfeed
    refine addText_pairLine hname (by rintro c ⟨⟩; decide) ?_ hadd
    exact (readValue_scalar (by decide)).trans hread

theorem addText_text {text : String} (hname : IsBareKey name.toList)
    (hadd : document.add (.assign [] name (.text text)) = some after) :
    document.addText (fuel + 1) (pairLine name (quote text.toList) ++ rest) =
      after.addText fuel rest := by
  have hread := @readValue_quote ('\n' :: rest) text.toList (by rintro c ⟨⟩; decide)
  rw [String.ofList_toList] at hread
  refine addText_pairLine hname ?_ hread hadd
  obtain ⟨more, hquote | hquote⟩ := exists_head_quote text.toList
  · rw [hquote]
    rintro c ⟨⟩
    decide
  · rw [hquote]
    rintro c ⟨⟩
    decide

/-! ### The document -/

/-- The part of the document on compiling. -/
def compilerMembers (settings : Settings) : Members :=
  [("max_inheritance_depth", .integer (Int64.ofInt settings.compiler.maxDepth.toNat)),
    ("store_timeout_secs", .integer (Int64.ofInt settings.compiler.storeTimeout.toNat)),
    ("cache_published", .flag settings.compiler.keepsPublished)]

/-- The part of the document on the database. -/
def databaseMembers (settings : Settings) : Members :=
  settings.database.toList.map fun path => ("path", .text path)

/-- What a document of settings says. -/
def members (settings : Settings) : Members :=
  [("compiler", .table .header settings.compilerMembers),
    ("database", .table .header settings.databaseMembers)]

theorem isBareKey_of_all (hname : name.toList ≠ [] ∧ name.toList.all isBare = true) :
    IsBareKey name.toList :=
  ⟨hname.1, List.all_eq_true.mp hname.2⟩

/-- The last line, which is there if a database is. -/
theorem addText_database (settings : Settings) (fuel : Nat) :
    Toml.Document.addText (fuel + 2)
        ⟨[("compiler", .table .header settings.compilerMembers), ("database", .table .header [])],
          ["database"]⟩
        (match settings.database with
          | none => []
          | some path => pairLine "path" (quote path.toList)) =
      some ⟨settings.members, ["database"]⟩ := by
  unfold members databaseMembers
  cases settings.database with
  | none => rfl
  | some path =>
    dsimp only
    rw [← List.append_nil (pairLine _ _), addText_text (isBareKey_of_all (by decide)) rfl]
    rfl

theorem addText_write {text : List Char} (hwrite : settings.write = some text) (fuel : Nat) :
    Toml.Document.addText (fuel + 8) {} text = some ⟨settings.members, ["database"]⟩ := by
  simp only [write, Option.bind_eq_bind, Option.bind_eq_some_iff, Option.some.injEq] at hwrite
  obtain ⟨depth, hdepth, timeout, htimeout, rfl⟩ := hwrite
  simp only [List.append_assoc, List.cons_append, List.nil_append]
  rw [addText_headerLine (isBareKey_of_all (by decide)) rfl,
    addText_count (isBareKey_of_all (by decide)) hdepth rfl,
    addText_count (isBareKey_of_all (by decide)) htimeout rfl,
    addText_truth (isBareKey_of_all (by decide)) rfl, addText_feed,
    addText_headerLine (isBareKey_of_all (by decide)) rfl]
  exact addText_database settings fuel

theorem exists_write {text : List Char} (hwrite : settings.write = some text) :
    ∃ more, text = headerLine "compiler" ++ more := by
  simp only [write, Option.bind_eq_bind, Option.bind_eq_some_iff, Option.some.injEq] at hwrite
  obtain ⟨depth, -, timeout, -, rfl⟩ := hwrite
  simp only [List.append_assoc]
  exact ⟨_, rfl⟩

theorem parse?_write {text : List Char} (hwrite : settings.write = some text) :
    Toml.parse? (String.ofList text) = some settings.members := by
  have hadd := addText_write hwrite
  obtain ⟨more, rfl⟩ := exists_write hwrite
  have hlong : (headerLine "compiler" ++ more).length + 1 = more.length + 4 + 8 := by
    rw [List.length_append, Nat.add_comm (List.length _)]
    rfl
  rw [parse?, String.toList_ofList]
  dsimp only [headerLine, List.cons_append]
  change ((Toml.Document.addText ((headerLine "compiler" ++ more).length + 1) {}
    (headerLine "compiler" ++ more)).map Toml.Document.members) = _
  rw [hlong, hadd]
  rfl

/-! ### The settings -/

theorem isSome_writeCount {n : UInt64} :
    (writeCount n).isSome ↔ n.toNat ≤ Int64.maxValue.toInt.toNat := by
  rw [writeCount, Option.isSome_ite]

theorem countOf?_integer {n : UInt64} (hcount : (writeCount n).isSome) :
    countOf? (.integer (Int64.ofInt n.toNat)) = some n := by
  have hmax : Int64.maxValue.toInt = 2 ^ 63 - 1 := by decide
  have hfits := isSome_writeCount.mp hcount
  have hint : (Int64.ofInt n.toNat).toInt = n.toNat :=
    Int64.toInt_ofInt_of_le (by omega) (by omega)
  rw [countOf?, hint, if_neg (by omega), Int.toNat_natCast, UInt64.ofNat_toNat]

/-- A document can be written if both counts can. -/
theorem isSome_write : settings.write.isSome ↔
    (writeCount settings.compiler.maxDepth).isSome ∧
      (writeCount settings.compiler.storeTimeout).isSome := by
  unfold write
  cases writeCount settings.compiler.maxDepth with
  | none => simp
  | some depth => cases writeCount settings.compiler.storeTimeout <;> simp

theorem readDatabase_members (settings : Settings) :
    readDatabase (.table .header settings.databaseMembers) = some settings.database := by
  unfold databaseMembers
  cases settings.database <;> rfl

theorem readCompiler_members (hdepth : (writeCount settings.compiler.maxDepth).isSome)
    (htimeout : (writeCount settings.compiler.storeTimeout).isSome) :
    readCompiler (.table .header settings.compilerMembers) = some settings.compiler := by
  change (do
    let maxDepth ← countOf? (.integer (Int64.ofInt settings.compiler.maxDepth.toNat))
    let storeTimeout ← countOf? (.integer (Int64.ofInt settings.compiler.storeTimeout.toNat))
    some (⟨maxDepth, storeTimeout, settings.compiler.keepsPublished⟩ : CompilerSettings)) = _
  rw [countOf?_integer hdepth, countOf?_integer htimeout]
  rfl

/-- Settings come back from their document. -/
theorem read?_write {text : List Char} (hwrite : settings.write = some text) :
    read? (String.ofList text) = some settings := by
  obtain ⟨hdepth, htimeout⟩ := isSome_write.mp (Option.isSome_of_eq_some hwrite)
  have hcompiler := readCompiler_members hdepth htimeout
  rw [read?, parse?_write hwrite]
  change (readCompiler (.table .header settings.compilerMembers)).bind (fun compiler =>
    (readDatabase (.table .header settings.databaseMembers)).bind _) = _
  rw [hcompiler, readDatabase_members]
  rfl

end Settings

end KnowledgeSchema
