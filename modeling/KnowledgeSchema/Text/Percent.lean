import KnowledgeSchema.Text.Quoted
import KnowledgeSchema.Text.Utf8

/-!
# Percent signs in addresses

In an address a byte may be written as a percent sign and two digits in base sixteen, and a question
mark begins parameters: names with values, one from the other by an ampersand.
-/

namespace KnowledgeSchema.Percent

/-- The bytes of a text. A percent sign without two digits stands for itself. -/
def bytes : List Char → List UInt8
  | '%' :: a :: b :: rest =>
    match Text.hexValue? a, Text.hexValue? b with
    | some high, some low => UInt8.ofNat (high * 16 + low) :: bytes rest
    | _, _ => Utf8.encode ['%'] ++ bytes (a :: b :: rest)
  | c :: rest => Utf8.encode [c] ++ bytes rest
  | [] => []

/-- The text before the first character of a kind, and the one after it, if there is any. -/
def cutAt (mark : Char) (text : List Char) : List Char × Option (List Char) :=
  match text.span (· != mark) with
  | (before, []) => (before, none)
  | (before, _ :: after) => (before, some after)

/-- The texts between marks. -/
def splitAt (mark : Char) : List Char → List (List Char)
  | [] => [[]]
  | c :: rest =>
    if c = mark then [] :: splitAt mark rest
    else
      match splitAt mark rest with
      | [] => [[c]]
      | first :: others => (c :: first) :: others

/-- A name and its value, as they are written. Without an equals sign the value is empty. -/
def pair (text : List Char) : List Char × List Char :=
  match cutAt '=' text with
  | (name, value) => (name, value.getD [])

/-- The text of a name or value, in which a plus sign is a space. -/
def plain (text : List Char) : List Char :=
  Utf8.decodeAll (bytes (text.map fun c => if c = '+' then ' ' else c))

/-- The names and values of parameters. -/
def parameters (text : List Char) : List (String × String) :=
  ((splitAt '&' text).filter (!·.isEmpty)).map fun text =>
    match pair text with
    | (name, value) => (String.ofList (plain name), String.ofList (plain value))

end KnowledgeSchema.Percent
