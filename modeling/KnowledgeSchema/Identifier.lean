import KnowledgeSchema.Bundle.Resolve
import KnowledgeSchema.Digest.Sha256

/-!
# Identifiers

Random identifiers of 128 bits in the form of version four, all of them drawn from one seed.
-/

namespace KnowledgeSchema.Identifier

/-- Hexadecimal digits in the five groups of an identifier, with the marks for its version and its
variant among them. -/
def form (digits : List Char) : List Char :=
  let variant := match digits[16]?.bind Text.hexValue? with
    | some n => Nat.digitChar (8 + n % 4)
    | none => '8'
  digits.take 8 ++ '-' :: (digits.drop 8).take 4 ++ '-' :: '4' :: (digits.drop 13).take 3 ++
    '-' :: variant :: (digits.drop 17).take 3 ++ '-' :: (digits.drop 20).take 12

/-- The identifiers of a seed. -/
def ofSeed (seed : List UInt8) : Ids :=
  fun position =>
    let digest := Sha256.hex (seed ++ (toString position).toUTF8.toList)
    String.ofList (form digest.toList)

end KnowledgeSchema.Identifier
