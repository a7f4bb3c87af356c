import KnowledgeSchema.Text.Percent

/-!
# Addresses of databases

What a user gives as the path of a database is taken for an address. It may begin with a scheme, may
hold escaped bytes, and a question mark begins parameters in it. What is left names a file, which
may be written as a `file:` address of its own with options of its own.
-/

namespace KnowledgeSchema

/-- What may be done with the file of a database. -/
inductive FileAccess where
  | read
  | change
  | create
deriving DecidableEq

/-- Where a database is kept. -/
inductive Address where
  /-- Nowhere: the database is new each time and is gone afterwards. -/
  | nowhere
  | file (path : String) (access : FileAccess)
deriving DecidableEq

namespace Address

inductive Flaw where
  | encoding (flaw : Utf8.Flaw)
  | unknownParameter (name : String)
  | unknownValue (name value : String)
  | holdsNull
  | unknownHost (name : String)
  | unknownMode (option value : String)
  | refusedMode (value : String)
  | unknownSystem (name : String)
  /-- A database that is kept nowhere cannot be set up without a change. -/
  | nothingToRead
deriving DecidableEq

/-! ## Schemes and parameters -/

/-- A text without a word as often as it stands at the front. -/
def dropWord (word text : List Char) : List Char :=
  if word ≠ [] ∧ word.isPrefixOf text then dropWord word (text.drop word.length) else text
termination_by text.length
decreasing_by
  rename_i h
  have hword := List.length_pos_iff.2 h.1
  have hle := (List.isPrefixOf_iff_prefix.1 h.2).length_le
  simp only [List.length_drop]
  omega

/-- The scheme of the address of a database. -/
def scheme : String :=
  "sqlite:"

/-- An address without its schemes. -/
def withoutScheme (address : List Char) : List Char :=
  dropWord scheme.toList (dropWord (scheme ++ "//").toList address)

/-- The name of a database that is kept nowhere. -/
def memory : String :=
  ":memory:"

/-- The address that a path is taken for. It has a parameter that lets a file be made. -/
def written (path : String) : List Char :=
  if path = memory then (scheme ++ path).toList else (scheme ++ path ++ "?mode=rwc").toList

/-- The parameters of an address with the values that they may have, if not any. -/
def parameters : List (String × Option (List String)) :=
  [("mode", some ["ro", "rw", "rwc", "memory"]),
    ("cache", some ["private", "shared"]),
    ("immutable", some ["true", "1", "false", "0"]),
    ("vfs", none)]

def checkParameter : String × String → Except Flaw Unit
  | (name, value) =>
    match parameters.lookup name with
    | none => .error (.unknownParameter name)
    | some none => .ok ()
    | some (some values) =>
      if values.contains value then .ok () else .error (.unknownValue name value)

/-- A file by its path. Without a path, or under the name for it, there is none. -/
def ofAccess (path : String) (access : FileAccess) : Except Flaw Address :=
  if path = "" ∨ path = memory then
    if access = .read then .error .nothingToRead else .ok .nowhere
  else .ok (.file path access)

/-! ## File addresses -/

/-- The ways in which a file can be reached. -/
def systems : List String :=
  ["unix", "unix-none", "unix-dotfile", "unix-excl"]

/-- The text of a part, which ends where an escaped null is. -/
def partText (written : List Char) : String :=
  String.ofList (Utf8.decodeAll ((Percent.bytes written).takeWhile (· ≠ 0)))

/-- The part of a file address after the host, which can only be this one. -/
def withoutHost : List Char → Except Flaw (List Char)
  | '/' :: '/' :: rest =>
    let host := String.ofList (rest.takeWhile (· ≠ '/'))
    if host = "" ∨ host = "localhost" then .ok (rest.dropWhile (· ≠ '/'))
    else .error (.unknownHost host)
  | rest => .ok rest

/-- What the modes of a file address stand for. -/
def modes : List (String × Option FileAccess) :=
  [("ro", some .read), ("rw", some .change), ("rwc", some .create), ("memory", none)]

/-- Whether a later mode may be asked for after an earlier one. No mode allows more than the one
before it. -/
def isNarrower : Option FileAccess → Option FileAccess → Bool
  | some .read, some access => access == .read
  | some .change, some access => access != .create
  | _, _ => true

/-- What is known of a file when some of its options were read. -/
def applyOption (access : Option FileAccess) : String × String → Except Flaw (Option FileAccess)
  | ("mode", value) =>
    match modes.lookup value with
    | none => .error (.unknownMode "access" value)
    | some mode => if isNarrower access mode then .ok mode else .error (.refusedMode value)
  | ("cache", value) =>
    if value = "shared" ∨ value = "private" then .ok access
    else .error (.unknownMode "cache" value)
  | ("vfs", name) =>
    if systems.contains name then .ok access else .error (.unknownSystem name)
  | _ => .ok access

/-- The options of a file address. One without a name means nothing. -/
def optionsOf (written : List Char) : List (String × String) :=
  (((Percent.splitAt '&' written).map Percent.pair).filter (!·.1.isEmpty)).map fun (name, value) =>
    (partText name, partText value)

def ofFileAddress (written : List Char) : Except Flaw Address := do
  let rest ← withoutHost written
  let (path, options) := Percent.cutAt '?' (rest.takeWhile (· ≠ '#'))
  match ← (optionsOf (options.getD [])).foldlM applyOption (some .create) with
  | none => .ok .nowhere
  | some access => ofAccess (partText path) access

/-- The database in a file of a name. -/
def ofFileName (name : List Char) : Except Flaw Address :=
  if name.contains '\x00' then .error .holdsNull
  else
    match "file:".toList.isPrefixOf name with
    | true => ofFileAddress (name.drop "file:".length)
    | false => ofAccess (String.ofList name) .create

/-- Where the database of a path is kept. -/
def read (path : String) : Except Flaw Address := do
  let (database, query) := Percent.cutAt '?' (withoutScheme (written path))
  let given := Percent.parameters (query.getD [])
  if database = memory.toList then
    given.forM checkParameter
    .ok .nowhere
  else
    let name ← (Utf8.decode (Percent.bytes database)).mapError .encoding
    given.forM checkParameter
    match given.reverse.lookup "vfs" with
    | some system => .error (.unknownSystem system)
    | none => ofFileName name

end Address

end KnowledgeSchema
