import KnowledgeSchema.Text.CaseTable

/-!
# Upper and lower case

Texts in full upper and full lower case. A character may become several, and the lower case of a
capital sigma depends on whether it ends a word.
-/

namespace KnowledgeSchema.Text

private def within (ranges : List (Nat × Nat)) (c : Char) : Bool :=
  ranges.any fun (first, last) => first ≤ c.toNat && c.toNat ≤ last

def isCased (c : Char) : Bool :=
  within casedRanges c

def isCaseIgnorable (c : Char) : Bool :=
  within caseIgnorableRanges c

def mapCase (runs : List CaseRun) (expansions : List (Nat × List Nat)) (c : Char) :
    List Char :=
  match runs.find? (·.covers c.toNat) with
  | some run => [Char.ofNat ((c.toNat : Int) + run.shift).toNat]
  | none =>
    match expansions.lookup c.toNat with
    | some codes => codes.map Char.ofNat
    | none => [c]

def upperChar (c : Char) : List Char :=
  mapCase upperRuns upperExpansions c

def lowerChar (c : Char) : List Char :=
  mapCase lowerRuns lowerExpansions c

def upper (text : List Char) : List Char :=
  text.flatMap upperChar

/-- Whether the first character that is not passed over is a cased one. -/
def meetsCased (text : List Char) : Bool :=
  match text.dropWhile isCaseIgnorable with
  | c :: _ => isCased c
  | [] => false

/-- The small sigma between `before`, nearest character first, and `after`: a cased letter comes
before it and none follows when it ends a word. -/
def smallSigma (before after : List Char) : Char :=
  if meetsCased before && !meetsCased after then 'ς' else 'σ'

def lowerAfter (before : List Char) : List Char → List Char
  | [] => []
  | c :: rest =>
    (if c = 'Σ' then [smallSigma before rest] else lowerChar c) ++ lowerAfter (c :: before) rest

def lower (text : List Char) : List Char :=
  lowerAfter [] text

end KnowledgeSchema.Text
