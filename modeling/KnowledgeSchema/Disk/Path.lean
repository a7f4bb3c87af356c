/-!
# Paths

A path is read as the pieces between its slashes. What is above it is found from the text alone: the
path without its last piece, and without the empty pieces and the single dots that would then be at
its end.
-/

namespace KnowledgeSchema

structure Path where
  /-- A slash if the path starts from the root, a dot if it names the directory that it starts from,
  and otherwise nothing. -/
  head : String
  pieces : List String

namespace Path

/-- Whether a piece leads nowhere. -/
def isIdle (piece : String) : Bool :=
  piece == "" || piece == "."

/-- The pieces up to the last one that leads somewhere. -/
def trim (pieces : List String) : List String :=
  (pieces.reverse.dropWhile isIdle).reverse

theorem length_trim_le (pieces : List String) : (trim pieces).length ≤ pieces.length := by
  simpa [trim] using (List.dropWhile_sublist isIdle (l := pieces.reverse)).length_le

def headOf (text : String) : String :=
  if text.startsWith "/" then "/"
  else if text == "." || text.startsWith "./" then "."
  else ""

/-- A path without what is idle at its end. -/
def ofText (text : String) : Path :=
  let head := headOf text
  { head, pieces := trim ((text.drop head.length).toString.splitOn "/") }

def text (path : Path) : String :=
  path.head ++ "/".intercalate path.pieces

/-- The path above. There is none above the root, and none above no path at all. -/
def parent? (path : Path) : Option Path :=
  if path.pieces = [] then
    if path.head = "." then some { head := "", pieces := [] } else none
  else some { path with pieces := trim path.pieces.dropLast }

/-- The path above the path of a text. -/
def above? (text : String) : Option Path :=
  (ofText text).parent?

/-- Steps that are left on the way up. -/
def height (path : Path) : Nat :=
  path.pieces.length + if path.head = "." then 1 else 0

theorem height_lt_of_parent? {path parent : Path} (h : path.parent? = some parent) :
    parent.height < path.height := by
  unfold parent? at h
  split at h
  · split at h
    · cases h
      simp_all [height]
    · cases h
  · cases h
    have hlast : path.pieces.dropLast.length < path.pieces.length := by
      rw [List.length_dropLast]
      have := List.length_pos_iff.2 ‹path.pieces ≠ []›
      omega
    have := length_trim_le path.pieces.dropLast
    simp only [height]
    omega

/-- A path inside a directory. One from the root is not moved. -/
def inside (directory name : String) : String :=
  if name.startsWith "/" then name
  else if directory.isEmpty || directory.endsWith "/" then directory ++ name
  else directory ++ "/" ++ name

end Path

end KnowledgeSchema
