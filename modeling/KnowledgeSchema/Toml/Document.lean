import KnowledgeSchema.Toml.Scalar

/-!
# TOML documents

Reading a document line by line: each line is empty, gives a value to a key of the table at hand, or
is the header of the next table.
-/

namespace KnowledgeSchema.Toml

/-! ## Keys -/

def readSimpleKey : Reader String
  | '"' :: rest => do
    let (name, rest) ← readBasic rest
    some (String.ofList name, rest)
  | '\'' :: rest => do
    let (name, rest) ← readLiteral rest
    some (String.ofList name, rest)
  | input =>
    match input.takeWhile isBare with
    | [] => none
    | name => some (String.ofList name, input.dropWhile isBare)

/-- Keys joined by dots, at most `fuel` of them, with blanks around each. The last key stands
alone. -/
def readPath : Nat → Reader (List String × String)
  | 0, _ => none
  | fuel + 1, input => do
    let (key, rest) ← readSimpleKey (skipSpace input)
    match skipSpace rest with
    | '.' :: rest => do
      let ((path, last), rest) ← readPath fuel rest
      some ((key :: path, last), rest)
    | rest => some (([], key), rest)

/-- The number of values that may stand inside each other, and of keys that may be joined. -/
def maxNesting : Nat :=
  79

/-! ## Values -/

/-- Passes over blanks, line ends and comments. -/
def skipLayout (inComment : Bool) : List Char → List Char
  | '\r' :: '\n' :: rest => skipLayout false rest
  | '\n' :: rest => skipLayout false rest
  | c :: rest =>
    if inComment then if isShown c then skipLayout true rest else c :: rest
    else if isSpace c then skipLayout false rest
    else if c = '#' then skipLayout true rest
    else c :: rest
  | [] => []

/-- The items of an array through its closing bracket, at most `fuel` of them. -/
def readItems (item : Reader Toml) : Nat → Reader (List Toml)
  | 0, _ => none
  | fuel + 1, input =>
    match skipLayout false input with
    | ']' :: rest => some ([], rest)
    | input => do
      let (value, rest) ← item input
      match skipLayout false rest with
      | ']' :: rest => some ([value], rest)
      | ',' :: rest => do
        let (values, rest) ← readItems item fuel rest
        some (value :: values, rest)
      | _ => none

/-- A key, the sign after it, and its value. -/
def readPair (value : Reader Toml) : Reader (List String × String × Toml) := fun input => do
  let ((path, key), rest) ← readPath maxNesting input
  let (value, rest) ← value (skipSpace (← readSign '=' rest))
  some ((path, key, value), rest)

/-- The members of a table through its closing brace, from its first key on, at most `fuel` of
them. -/
def readPairs (value : Reader Toml) : Nat → Members → Reader Members
  | 0, _, _ => none
  | fuel + 1, members, input => do
    let ((path, key, item), rest) ← readPair value input
    let members ← assign path key item .inline members
    match skipSpace rest with
    | '\x7d' :: rest => some (members, rest)
    | ',' :: rest => readPairs value fuel members rest
    | _ => none

/-- A value with at most `depth` others around each other inside it. -/
def readValue : Nat → Reader Toml
  | _, '"' :: rest => do
    let (content, rest) ← readString ('"' :: rest)
    some (.text (String.ofList content), rest)
  | _, '\'' :: rest => do
    let (content, rest) ← readString ('\'' :: rest)
    some (.text (String.ofList content), rest)
  | 0, '[' :: _ => none
  | depth + 1, '[' :: rest => do
    let (items, rest) ← readItems (readValue depth) (rest.length + 1) rest
    some (.array items, rest)
  | 0, '\x7b' :: _ => none
  | depth + 1, '\x7b' :: rest =>
    match skipSpace rest with
    | '\x7d' :: rest => some (.table .inline [], rest)
    | input => do
      let (members, rest) ← readPairs (readValue depth) (input.length + 1) [] input
      some (.table .inline members, rest)
  | _, input => readScalar input

/-! ## Lines -/

inductive Line where
  | assign (path : List String) (key : String) (value : Toml)
  /-- The header of a table. -/
  | header (path : List String) (key : String)
  /-- The header of the next one of the tables under a name. -/
  | next (path : List String) (key : String)

/-- The end of a line, with nothing in front of it but blanks and a comment. -/
def readLineEnd (input : List Char) : Option (List Char) :=
  let rest := match skipSpace input with
    | '#' :: comment => comment.dropWhile isShown
    | rest => rest
  match rest with
  | [] => some []
  | rest => lineEnd? rest

/-- A line that is not empty, up to its end. -/
def readLine : Reader Line
  | '[' :: '[' :: rest => do
    let ((path, key), rest) ← readPath maxNesting rest
    some (.next path key, ← readSign ']' (← readSign ']' rest))
  | '[' :: rest => do
    let ((path, key), rest) ← readPath maxNesting rest
    some (.header path key, ← readSign ']' rest)
  | input => do
    let ((path, key, value), rest) ← readPair (readValue maxNesting) input
    some (.assign path key value, rest)

/-- A document as far as it was read, and the path of the table at hand. -/
structure Document where
  members : Members := []
  path : List String := []

namespace Document

def add (document : Document) : Line → Option Document
  | .assign path key value => do
    let members ← changeAt false (assign path key value) document.path .header document.members
    some { document with members }
  | .header path key => do
    let members ← changeAt false (openTable key) path .header document.members
    some { members, path := path ++ [key] }
  | .next path key => do
    let members ← changeAt false (openNext key) path .header document.members
    some { members, path := path ++ [key] }

/-- Adds the lines of a text, at most `fuel` of them. -/
def addText : Nat → Document → List Char → Option Document
  | 0, _, _ => none
  | fuel + 1, document, input =>
    match skipSpace input with
    | [] => some document
    | input =>
      match readLineEnd input with
      | some rest => addText fuel document rest
      | none => do
        let (line, rest) ← readLine input
        addText fuel (← document.add line) (← readLineEnd rest)

end Document

/-- The members of a document. A byte order mark in front of it does not count. -/
def parse? (document : String) : Option Members :=
  let input := match document.toList with
    | '\ufeff' :: rest => rest
    | input => input
  (Document.addText (input.length + 1) {} input).map Document.members

end KnowledgeSchema.Toml
